import Wording.CommandLine.Scan
import Wording.Proofs.Report.Locations
import Wording.Proofs.Scan.Accounting
import Wording.Proofs.Scan.Spelling

/-!
# Reports on two spellings of one root

* `Walk.findings` — the findings of a complete scan with the walk as its source.
* `SameFinding` — the same finding, in the file at the same place below two roots.
* `Walk.SameItem.findings` — the same items bring the same findings.
* `Sarif.Report.ofFindings_eq` — and these make the same report.
* **`Walk.sarif_of_two_spellings`** — scans from two spellings of one root come to the same entries,
  ask the filter about the same paths, yield and leave out the same, and make the same SARIF report.
* **`Sarif.uriBelow_pathBelow_eq_iff`** — the URI of an entry is its path below the root exactly if the
  root is a text.
* `Sarif.uris_of_two_spellings_differ` — so a report can depend on how its root is spelled.

The root stands at the front of each path, and twice it is taken away again: for the filter, and for
the report.  Nothing is left of it then but the names below it.  For the report this is so only if the
root is a text: it is the path as it is shown from which the root is taken away, and a name that is not
UTF-8 is not shown as it is.
-/

namespace Wording

open Walk (IsBelow SameItem pathBelow)

/-! ## Findings -/

/-- The findings in lines are the same for a file at another path, but for the path. -/
theorem findingsFrom_eq_map (rules : RuleSet) (path path' : String) (limit number : Nat)
    (lines : List (List Char)) :
    findingsFrom rules path' limit number lines =
      (findingsFrom rules path limit number lines).map fun f => { f with file := path' } := by
  induction lines generalizing number with
  | nil => rfl
  | cons line rest ih =>
      rw [findingsFrom, findingsFrom, List.map_append, ← ih, findingsInLine, findingsInLine,
        List.map_map]
      rfl

/-- The findings are the same but for the roots that their files stand below. -/
inductive SameFinding (root root' : String) : Finding → Finding → Prop where
  | mk {below : List String} (hbelow : IsBelow below) (f : Finding)
      (hfile : f.file = pathBelow root below) :
      SameFinding root root' f { f with file := pathBelow root' below }

/-- The same findings are made in a file at the same place below two roots. -/
theorem sameFinding_findings {root root' : String} {below : List String} (hbelow : IsBelow below)
    (content : String) (rules : RuleSet) (limit : Nat) :
    List.Forall₂ (SameFinding root root')
      ((⟨pathBelow root below, content⟩ : SourceFile).findings rules limit)
      ((⟨pathBelow root' below, content⟩ : SourceFile).findings rules limit) := by
  rw [SourceFile.findings, SourceFile.findings,
    findingsFrom_eq_map rules (pathBelow root below) (pathBelow root' below),
    List.forall₂_map_right_iff, List.forall₂_same]
  exact fun f hf => .mk hbelow f (file_of_mem_findingsFrom hf)

/-- The findings among the events of an item. -/
theorem Walk.SameItem.findings {root root' : String} {item item' : Item}
    (h : SameItem root root' item item') (rules : RuleSet) (limit : Nat) :
    List.Forall₂ (SameFinding root root')
      ((item.events rules limit).filterMap Event.finding?)
      ((item'.events rules limit).filterMap Event.finding?) := by
  have hevents : ∀ file : SourceFile,
      (Item.events rules limit (.file file)).filterMap Event.finding? =
        file.findings rules limit := by
    intro file
    rw [Item.events, List.filterMap_map]
    exact List.filterMap_some
  cases h with
  | file hbelow content =>
      rw [hevents, hevents]
      exact sameFinding_findings hbelow content rules limit
  | failure => exact .nil

/-! ## The report -/

/-- The same finding has the same result. -/
theorem SameFinding.result_eq {root root' : String} (hroot : root ≠ "") (hroot' : root' ≠ "")
    {f f' : Finding} (h : SameFinding root root' f f') :
    Sarif.result root f = Sarif.result root' f' := by
  cases h with
  | mk hbelow f hfile =>
      rw [Sarif.result, Sarif.result, hfile,
        Sarif.uri_pathBelow hroot hbelow.ne_nil hbelow.isName,
        Sarif.uri_pathBelow hroot' hbelow.ne_nil hbelow.isName]
      rfl

/-- The same finding is of the same kind. -/
theorem SameFinding.kind_eq {root root' : String} {f f' : Finding}
    (h : SameFinding root root' f f') : f.kind = f'.kind := by
  cases h
  rfl

/-- **The same findings make the same report.** -/
theorem Sarif.Report.ofFindings_eq {root root' : String} (hroot : root ≠ "") (hroot' : root' ≠ "")
    {findings findings' : List Finding}
    (h : List.Forall₂ (SameFinding root root') findings findings') :
    ofFindings root findings = ofFindings root' findings' := by
  have hresults : findings.map (result root) = findings'.map (result root') := by
    rw [← List.forall₂_eq_eq_eq, List.forall₂_map_left_iff, List.forall₂_map_right_iff]
    exact h.imp fun _ _ hsame => hsame.result_eq hroot hroot'
  have hkinds : findings.map Finding.kind = findings'.map Finding.kind := by
    rw [← List.forall₂_eq_eq_eq, List.forall₂_map_left_iff, List.forall₂_map_right_iff]
    exact h.imp fun _ _ hsame => hsame.kind_eq
  have hany : ∀ kind : RuleKind,
      findings.any (·.kind = kind) = findings'.any (·.kind = kind) := by
    intro kind
    have hmap := congrArg (List.any · (· = kind)) hkinds
    simpa only [List.any_map, Function.comp_def] using hmap
  simp only [ofFindings, hresults, hany]

/-! ## Scans -/

namespace Walk

variable {t : FileTree} {cwd : Place} {f : FileFilter} {root root' : String} {top : Place}

/-- The findings of a complete scan with the walk as its source. -/
def findings (t : FileTree) (cwd : Place) (rules : RuleSet) (limit : Nat) (w : Walk) :
    List Finding :=
  let scanner : Scanner :=
    { rules := rules, limit := limit, source := .ofItems ((w.rest t cwd).1.map (·.2)) }
  scanner.drain.1.filterMap Event.finding?

/-- The findings of a scan are those of the items that the walk yields. -/
theorem findings_eq (rules : RuleSet) (limit : Nat) (w : Walk) :
    w.findings t cwd rules limit = ((w.rest t cwd).1.map (·.2)).flatMap fun item =>
      (item.events rules limit).filterMap Event.finding? := by
  rw [findings, (Scanner.drain_spec _).1, ← List.filterMap_flatMap]
  simp [Scanner.ahead, Scanner.sourceEvents]

/-- Walks that have the same left make the same findings. -/
theorem SameRest.findings {w w' : Walk}
    (h : SameRest t cwd f root root' (w.rest t cwd) (w'.rest t cwd)) (rules : RuleSet)
    (limit : Nat) :
    List.Forall₂ (SameFinding root root') (w.findings t cwd rules limit)
      (w'.findings t cwd rules limit) := by
  rw [findings_eq, findings_eq]
  generalize w.rest t cwd = r at h
  generalize w'.rest t cwd = r' at h
  obtain ⟨hitems, -, -⟩ := h
  have hsame : List.Forall₂ (SameItem root root') _ _ :=
    List.forall₂_map_left_iff.mpr (List.forall₂_map_right_iff.mpr (hitems.imp fun _ _ => And.right))
  exact List.rel_flatMap hsame fun _ _ hitem => hitem.findings rules limit

/-- **The SARIF report does not depend on how the root is spelled.**  Two paths lead to one
directory through no link, and no path on the way is too long for the system.  The walks from both
come to the entries at the same places below their roots; what of an entry's path follows the root
are the names of its place, in both.  Either neither walk begins, for the same reason; or both do.
Then they yield the same files and failures in the same order, tell of the same excluded files on
the way, and whatever the rules, the SARIF reports on the two scans are equal, and so is what the
command writes. -/
theorem sarif_of_two_spellings (h : TwoSpellings t cwd f root root' top) :
    (∀ below kind, Leads t cwd f (.root root) (.entry (pathBelow root below) below kind) ↔
        Leads t cwd f (.root root') (.entry (pathBelow root' below) below kind)) ∧
      (∀ r, r = root ∨ r = root' → ∀ path below kind,
        Leads t cwd f (.root r) (.entry path below kind) →
        path = pathBelow r below ∧ Path.below? r path = some ("/".intercalate below)) ∧
      ((∃ fault, start t cwd root f = .error ⟨root, fault⟩ ∧
          start t cwd root' f = .error ⟨root', fault⟩) ∨
        ∃ w w', start t cwd root f = .ok w ∧ start t cwd root' f = .ok w' ∧
          SameRest t cwd f root root' (w.rest t cwd) (w'.rest t cwd) ∧
          (∀ rules limit, Sarif.Report.ofFindings root (w.findings t cwd rules limit) =
            Sarif.Report.ofFindings root' (w'.findings t cwd rules limit)) ∧
          ∀ loaded coloured,
            ((⟨loaded, w⟩ : PreparedScan).run t cwd).report coloured root .sarif =
              ((⟨loaded, w'⟩ : PreparedScan).run t cwd).report coloured root' .sarif) := by
  refine ⟨?_, ?_, ?_⟩
  · intro below kind
    exact ⟨fun hlead => (h.leads_of_leads hlead).2.2, fun hlead => (h.symm.leads_of_leads hlead).2.2⟩
  · rintro r (rfl | rfl) path below kind hlead
    · obtain ⟨rfl, hbelow, -⟩ := h.leads_of_leads hlead
      exact ⟨rfl, below?_pathBelow h.leads.ne_empty hbelow.ne_nil hbelow.isName⟩
    · obtain ⟨rfl, hbelow, -⟩ := h.symm.leads_of_leads hlead
      exact ⟨rfl, below?_pathBelow h.leads'.ne_empty hbelow.ne_nil hbelow.isName⟩
  · rcases h.start_cases with herror | ⟨hstart, hstart'⟩
    · exact .inl herror
    · have hreports : ∀ rules limit,
          Sarif.Report.ofFindings root (findings t cwd rules limit ⟨f, [.root root]⟩) =
            Sarif.Report.ofFindings root' (findings t cwd rules limit ⟨f, [.root root']⟩) := by
        intro rules limit
        exact Sarif.Report.ofFindings_eq h.leads.ne_empty h.leads'.ne_empty
          (h.sameRest_rest.findings rules limit)
      refine .inr ⟨_, _, hstart, hstart', h.sameRest_rest, hreports, fun loaded coloured => ?_⟩
      exact congrArg Sarif.Report.render (hreports loaded.rules defaultExcerptLimit)

/-! ## A root that is spelled with dots and slashes -/

/-- The directory of the tree, by its name. -/
theorem leadsStraight_slashTree : slashTree.LeadsStraight [] "r" ["r"] :=
  have htakes : FileTree.TakesSteps [] "r" [] ["r"] := by decide +kernel
  htakes.leadsStraight (FileTree.locate_eq_of_within 9 rfl)

/-- The directory of the tree, by a path with a dot in front, a way up and down again, and slashes at
the end. -/
theorem leadsStraight_slashTree_dots : slashTree.LeadsStraight [] "./r/../r//" ["r"] :=
  have htakes : FileTree.TakesSteps [] "./r/../r//" [] [".", "r", "..", "r", ""] := by
    decide +kernel
  htakes.leadsStraight (FileTree.locate_eq_of_within 9 rfl)

/-- No path below either root is too long. -/
theorem noneTooLong_slashTree {root : String} (hroot : root ∈ ["r", "./r/../r//"])
    (hplace : slashTree.placeOf [] true root = .ok ["r"]) : NoneTooLong slashTree [] {} root := by
  intro path below kind hlead
  have hstands : Stands slashTree [] root ["r"] _ :=
    Stands.root.leads wellFormed_slashTree hplace hlead
  obtain ⟨parent, name, e, rfl, rfl, -, -, -, hentry⟩ := hstands.exists_of_entry
  rw [List.append_assoc] at hentry
  have hall : ∀ root ∈ ["r", "./r/../r//"],
      ∀ below ∈ [[], ["a"], ["a", "b.js"], ["a\\b.js"]],
        (pathBelow root below).utf8ByteSize ≤ FileTree.maxPathLength := by
    decide +kernel
  exact hall root hroot _ (mem_slashTree hentry)

/-- The two paths are spellings of one root. -/
theorem twoSpellings_slashTree : TwoSpellings slashTree [] {} "r" "./r/../r//" ["r"] where
  wellFormed := wellFormed_slashTree
  leads := leadsStraight_slashTree
  leads' := leadsStraight_slashTree_dots
  isDirectory := by decide
  fits := noneTooLong_slashTree (by decide) leadsStraight_slashTree.placeOf
  fits' := noneTooLong_slashTree (by decide) leadsStraight_slashTree_dots.placeOf

/-- Both walks through the tree begin, and the reports on both scans are equal. -/
theorem sarif_of_two_spellings_slashTree :
    TwoSpellings slashTree [] {} "r" "./r/../r//" ["r"] ∧
      ∃ w w', start slashTree [] "r" {} = .ok w ∧ start slashTree [] "./r/../r//" {} = .ok w' ∧
        ∀ rules limit,
          Sarif.Report.ofFindings "r" (w.findings slashTree [] rules limit) =
            Sarif.Report.ofFindings "./r/../r//" (w'.findings slashTree [] rules limit) := by
  obtain ⟨-, -, ⟨fault, hstart, -⟩ | ⟨w, w', hstart, hstart', -, hreports, -⟩⟩ :=
    sarif_of_two_spellings twoSpellings_slashTree
  · cases start_slashTree.symm.trans hstart
  · exact ⟨twoSpellings_slashTree, w, w', hstart, hstart', hreports⟩

end Walk

/-! ## A root that is no text -/

namespace SystemPath

/-- The path of an entry below a root, by the names from the root to it. -/
def pathBelow (root : SystemPath) (below : List String) : SystemPath :=
  below.foldl join root

/-- An entry is shown below what its root is shown as. -/
theorem display_pathBelow (root : SystemPath) {below : List String}
    (hnames : ∀ name ∈ below, FileTree.IsName name) :
    (root.pathBelow below).display = Walk.pathBelow root.display below := by
  induction below generalizing root with
  | nil => rfl
  | cons name more ih =>
      obtain ⟨hname, hmore⟩ := List.forall_mem_cons.mp hnames
      have hjoin := ih (root.join name) hmore
      rw [display_join root hname] at hjoin
      exact hjoin

end SystemPath

namespace Sarif

variable {root : SystemPath} {below : List String}

/-- **Below a root that is no text each file keeps its path.**  What the file is shown as has not the
components of the root, and so does not count as below it. -/
theorem uriBelow_eq_self (hroot : ¬∃ text, root = .ofText text) (file : String) :
    uriBelow root file = file := by
  obtain ⟨letters, hforeign⟩ := SystemPath.exists_foreign_iff.mpr hroot
  have habsent := SystemPath.foreign_not_mem_components letters file
  have hdiffer : Path.components file ≠ root.components := fun h => habsent (h ▸ hforeign)
  have hprefix : ¬root.components.isPrefixOf (Path.components file) = true := fun h =>
    habsent ((List.isPrefixOf_iff_prefix.mp h).subset hforeign)
  rw [uriBelow, if_neg hdiffer, Path.belowOf?, if_neg hprefix, ite_self]

/-- **The URI of an entry is its path below the root exactly if the root is a text.** -/
theorem uriBelow_pathBelow_eq_iff (hroot : root.letters ≠ []) (hne : below ≠ [])
    (hnames : ∀ name ∈ below, FileTree.IsName name) :
    uriBelow root (root.pathBelow below).display = slashed ("/".intercalate below) ↔
      ∃ text, root = .ofText text := by
  have hshown : root.display ≠ "" := by
    rw [ne_eq, ← String.toList_eq_nil_iff, SystemPath.toList_display]
    simpa using hroot
  rw [SystemPath.display_pathBelow root hnames]
  constructor
  · intro h
    by_contra hno
    rw [uriBelow_eq_self hno, ← Walk.join_intercalate hshown hne hnames] at h
    exact join_ne_slashed hshown (Walk.isAbsolute_intercalate hne hnames) h
  · rintro ⟨text, rfl⟩
    rw [SystemPath.display_ofText] at hshown ⊢
    exact uri_pathBelow hshown hne hnames

/-- The way up and down again into a directory whose name is a `d` and a byte that is not UTF-8. -/
def brokenRoot : SystemPath :=
  ⟨(SystemPath.ofText "../d").letters ++ [.broken [0xff]]⟩

/-- The URIs of a file in that directory, from inside it and by the way up and down again. -/
theorem uris_of_two_spellings_differ :
    uriBelow (.ofText ".") ((SystemPath.ofText ".").join "a.js").display = "a.js" ∧
      uriBelow brokenRoot (brokenRoot.join "a.js").display = "../d\uFFFD/a.js" := by
  decide +kernel

end Sarif

end Wording
