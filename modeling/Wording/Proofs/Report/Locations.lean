import Mathlib.Data.List.Infix
import Wording.Proofs.Scan.Below
import Wording.Proofs.Scan.Yield
import Wording.Report.Sarif

/-!
# The locations of findings

* `Walk.Yields`, `Walk.mem_rest_iff` — the files that a walk yields are those of the visits it
  makes.
* `Walk.StandsBelow` — a file has the path of an entry so far below the root.
* `Sarif.slashed` — a text with slashes for its backslashes.
* `Sarif.uri_pathBelow` — the URI of an entry is its path below the root, slashed.
* **`Walk.uris_of_yielded_files`** — so the URIs of files without backslashes in their names are
  distinct, and joined to the root they are the files' paths.
* `Walk.not_uris_distinct` — files with backslashes in their names may have the URI of another.

That the root is spelled with slashes at its end, or with dots and slashes inside, makes no
difference to what follows it in a path below it; `Walk.below?_pathBelow` is where this is seen.
-/

namespace Wording

namespace Sarif

variable {root : String} {below : List String}

/-- The text with slashes for its backslashes. -/
def slashed (text : String) : String :=
  text.map fun c => if c = '\\' then '/' else c

/-- A text without backslashes stays as it is. -/
theorem slashed_eq_self_iff {text : String} : slashed text = text ↔ '\\' ∉ text.toList := by
  have hmap : slashed text = text ↔
      (text.toList.map fun c => if c = '\\' then '/' else c) = text.toList.map id := by
    rw [← String.toList_inj, slashed, String.toList_map, List.map_id]
  rw [hmap, List.map_inj_left]
  constructor
  · intro h hmem
    exact absurd (h _ hmem) (by decide)
  · intro h c hc
    refine if_neg ?_
    rintro rfl
    exact h hc

/-- Slashing changes no length. -/
theorem length_slashed (text : String) : (slashed text).toList.length = text.toList.length := by
  rw [slashed, String.toList_map, List.length_map]

/-- A relative path that is joined to the root is longer than it is, slashed or not. -/
theorem join_ne_slashed {text : String} (hroot : root ≠ "") (htext : Path.isAbsolute text = false) :
    Path.join root text ≠ slashed text := by
  intro h
  have hlength := congrArg (fun path : String => path.toList.length) h
  have hpos : 0 < root.toList.length :=
    List.length_pos_of_ne_nil (mt String.toList_eq_nil_iff.mp hroot)
  simp only [Path.join_of_relative hroot htext] at hlength
  split_ifs at hlength
  · simp only [String.toList_append, List.length_append, length_slashed] at hlength
    omega
  · simp only [String.toList_append, List.length_append, length_slashed] at hlength
    omega

/-- A relative path that is slashed before it is joined to the root leads where it did only if
slashing does not change it. -/
theorem join_slashed_eq_iff {text : String} (hroot : root ≠ "")
    (htext : Path.isAbsolute text = false) :
    Path.join root (slashed text) = Path.join root text ↔ slashed text = text := by
  constructor
  · intro h
    cases habsolute : Path.isAbsolute (slashed text) with
    | false =>
        rw [Path.join_of_relative hroot habsolute, Path.join_of_relative hroot htext] at h
        split_ifs at h
        · exact String.append_right_inj _ |>.mp h
        · exact String.append_right_inj _ |>.mp h
    | true =>
        -- the slashed text is the whole path then
        rw [Path.join, habsolute, if_pos rfl] at h
        exact absurd h.symm (join_ne_slashed hroot htext)
  · intro h
    rw [h]

/-- **The URI of an entry is its path below the root**, slashed. -/
theorem uri_pathBelow (hroot : root ≠ "") (hne : below ≠ [])
    (hnames : ∀ name ∈ below, FileTree.IsName name) :
    uri root (Walk.pathBelow root below) = slashed ("/".intercalate below) := by
  have hempty : (SystemPath.ofText root).letters.isEmpty = false := by
    simpa [SystemPath.ofText] using hroot
  have hdiffer : Path.components (Walk.pathBelow root below) ≠ Path.components root := by
    rw [Walk.components_pathBelow hroot hnames]
    simpa using hne
  have hbelow : Path.belowOf? (Path.components root) (Walk.pathBelow root below) = _ :=
    Walk.below?_pathBelow hroot hne hnames
  rw [uri, uriBelow, hempty, SystemPath.components_ofText, if_neg hdiffer, hbelow]
  rfl

/-- A character other than a slash is in names with slashes in between if it is in one of them. -/
theorem mem_intercalate_iff {c : Char} (hc : c ≠ '/') {names : List String} :
    c ∈ ("/".intercalate names).toList ↔ ∃ name ∈ names, c ∈ name.toList := by
  induction names with
  | nil => simp
  | cons name more ih =>
      cases more with
      | nil => simp [String.intercalate_singleton]
      | cons next more =>
          rw [String.intercalate_cons_cons, String.toList_append, String.toList_append,
            List.mem_append, List.mem_append, ih]
          simp [hc]

/-- Names with slashes in between stay as they are if there are no backslashes in them. -/
theorem slashed_intercalate_eq_iff {names : List String} :
    slashed ("/".intercalate names) = "/".intercalate names ↔
      ∀ name ∈ names, '\\' ∉ name.toList := by
  rw [slashed_eq_self_iff, mem_intercalate_iff (by decide)]
  simp only [not_exists, not_and]

/-- Names are told apart by the text that they make with slashes in between. -/
theorem intercalate_inj {names names' : List String} (hne : names ≠ []) (hne' : names' ≠ [])
    (hnames : ∀ name ∈ names, FileTree.IsName name)
    (hnames' : ∀ name ∈ names', FileTree.IsName name)
    (h : "/".intercalate names = "/".intercalate names') : names = names' := by
  have hmap : names.map String.toList = names'.map String.toList := by
    rw [← Path.pieces_intercalate hne hnames, ← Path.pieces_intercalate hne' hnames', h]
  exact List.map_injective_iff.mpr (fun _ _ heq => String.toList_inj.mp heq) hmap

end Sarif

namespace Walk

variable {t : FileTree} {cwd : Place} {f : FileFilter} {root : String} {top : Place}

/-- The walk yields the file. -/
def Yields (t : FileTree) (cwd : Place) (w : Walk) (file : SourceFile) : Prop :=
  .file file ∈ (w.rest t cwd).1.map (·.2)

/-- **The items of a walk are those of the visits that it makes.** -/
theorem mem_rest_iff (hwf : t.WellFormed) (hroot : t.placeOf cwd true root = .ok top)
    {item : Item} :
    item ∈ ((⟨f, [.root root]⟩ : Walk).rest t cwd).1.map (·.2) ↔
      ∃ v, Leads t cwd f (.root root) v ∧ (visit t cwd f v).item = some item := by
  obtain ⟨made, hmade⟩ := exists_explores_root (f := f) hwf hroot
  rw [(hmade.rest_root hwf hroot).1, itemsOf, List.mem_filterMap]
  simp only [hmade.mem_iff, List.mem_singleton, exists_eq_left]

/-- A walk that can begin begins at its root. -/
theorem eq_of_start {w : Walk} (h : start t cwd root f = .ok w) : w = ⟨f, [.root root]⟩ := by
  unfold start at h
  split at h
  · cases h
  · split at h
    · cases h
    · exact (Except.ok.inj h).symm
  · exact (Except.ok.inj h).symm

/-- The file has the path of an entry of the tree, so far below the root. -/
structure StandsBelow (t : FileTree) (root : String) (top : Place) (below : List String)
    (file : SourceFile) : Prop where
  ne_root : below ≠ []
  path_eq : file.path = pathBelow root below
  entry : ∃ e, t.entry? (top ++ below) = some e

/-- The names from the root to an entry are names that entries can have. -/
theorem StandsBelow.isName (hwf : t.WellFormed) {below : List String} {file : SourceFile}
    (h : StandsBelow t root top below file) : ∀ name ∈ below, FileTree.IsName name := by
  obtain ⟨e, hentry⟩ := h.entry
  exact hwf.isName_of_mem h.ne_root hentry

/-- The URI of a file is its path below the root, slashed. -/
theorem StandsBelow.uri_eq (hwf : t.WellFormed) (hroot : root ≠ "") {below : List String}
    {file : SourceFile} (h : StandsBelow t root top below file) :
    Sarif.uri root file.path = Sarif.slashed ("/".intercalate below) := by
  rw [h.path_eq, Sarif.uri_pathBelow hroot h.ne_root (h.isName hwf)]

/-- A file that is read has the path that it is read by. -/
theorem path_of_readItem {path : String} {file : SourceFile}
    (h : t.readItem cwd path = .file file) : file.path = path := by
  unfold FileTree.readItem at h
  split at h
  · cases h
  · split at h
    · rw [← Item.file.inj h, SystemPath.display_ofText]
    · cases h

/-- **A file that a walk through a directory yields stands below the root.** -/
theorem Yields.exists_standsBelow (hwf : t.WellFormed) (hroot : t.placeOf cwd true root = .ok top)
    (htop : t.isDirectory top = true) {file : SourceFile}
    (h : Yields t cwd ⟨f, [.root root]⟩ file) : ∃ below, StandsBelow t root top below file := by
  obtain ⟨v, hlead, hitem⟩ := (mem_rest_iff hwf hroot).mp h
  have hstands : Stands t cwd root top v := Stands.root.leads hwf hroot hlead
  cases hstands with
  | root =>
      rw [item_root hroot htop] at hitem
      cases hitem
  | unlisted path fault => cases hitem
  | @entry below name e hpath hdirectory hentry =>
      rw [List.append_assoc] at hentry
      refine ⟨below ++ [name], by simp, ?_, e, hentry⟩
      rw [visit] at hitem
      split at hitem
      · split at hitem <;> cases hitem
      · rw [item_visitFile_eq_some_iff] at hitem
        exact path_of_readItem hitem.2.2.2

end Walk

/-- The findings in lines of a file are in this file. -/
theorem file_of_mem_findingsFrom {rules : RuleSet} {path : String} {limit number : Nat}
    {lines : List (List Char)} {finding : Finding}
    (h : finding ∈ findingsFrom rules path limit number lines) : finding.file = path := by
  induction lines generalizing number with
  | nil => cases h
  | cons line rest ih =>
      rw [findingsFrom, List.mem_append] at h
      rcases h with hline | hrest
      · obtain ⟨hit, -, rfl⟩ := List.mem_map.mp hline
        rfl
      · exact ih hrest

namespace Walk

variable {t : FileTree} {cwd : Place} {f : FileFilter} {root : String} {top : Place}

/-- **The URIs of the files that a walk yields.**  Each of these files stands below the root.  All
findings in it have one location, whose URI is the file's path below the root with slashes for
backslashes; and joined to the root it is the path of the file exactly if no name below the root has
a backslash in it.  Two files that stand at different places below the root, and whose names below the
root have no backslash in them, have different URIs.  (Names are texts.  Two names that are not UTF-8
can be told by the same text, with U+FFFD in it, and then by the same URI.) -/
theorem uris_of_yielded_files (hwf : t.WellFormed) (hroot : t.placeOf cwd true root = .ok top)
    (htop : t.isDirectory top = true) {w : Walk} (hstart : start t cwd root f = .ok w) :
    (∀ file, Yields t cwd w file → ∃ below, StandsBelow t root top below file) ∧
      (∀ file below, StandsBelow t root top below file →
        (∀ rules limit, ∀ finding ∈ file.findings rules limit,
          (Sarif.result root finding).locations =
            [⟨Sarif.slashed ("/".intercalate below), finding.line⟩]) ∧
        (Path.join root (Sarif.uri root file.path) = file.path ↔
          ∀ name ∈ below, '\\' ∉ name.toList)) ∧
      ∀ file file' below below', StandsBelow t root top below file →
        StandsBelow t root top below' file' → below ≠ below' →
        (∀ name ∈ below ++ below', '\\' ∉ name.toList) →
        Sarif.uri root file.path ≠ Sarif.uri root file'.path := by
  have hne : root ≠ "" := (FileTree.follows_of_placeOf hroot).1
  obtain rfl := eq_of_start hstart
  refine ⟨fun file h => h.exists_standsBelow hwf hroot htop, ?_, ?_⟩
  · intro file below h
    refine ⟨?_, ?_⟩
    · intro rules limit finding hfinding
      rw [Sarif.result, file_of_mem_findingsFrom hfinding, h.uri_eq hwf hne]
    · rw [h.uri_eq hwf hne, h.path_eq, ← join_intercalate hne h.ne_root (h.isName hwf),
        Sarif.join_slashed_eq_iff hne (isAbsolute_intercalate h.ne_root (h.isName hwf)),
        Sarif.slashed_intercalate_eq_iff]
  · intro file file' below below' h h' hdiffer hplain heq
    obtain ⟨hbelow, hbelow'⟩ := List.forall_mem_append.mp hplain
    rw [h.uri_eq hwf hne, h'.uri_eq hwf hne, Sarif.slashed_intercalate_eq_iff.mpr hbelow,
      Sarif.slashed_intercalate_eq_iff.mpr hbelow'] at heq
    exact hdiffer (Sarif.intercalate_inj h.ne_root h'.ne_root (h.isName hwf) (h'.isName hwf) heq)

/-! ## A tree with a backslash in a name -/

/-- A tree with two files, one of them named like the path of the other but for a backslash. -/
def slashTree : FileTree where
  entries := [
    (["r"], .directory), (["r", "a"], .directory), (["r", "a", "b.js"], .file ⟨#[0x6f]⟩),
    (["r", "a\\b.js"], .file ⟨#[0x6f]⟩)]

/-- The tree is well formed. -/
theorem wellFormed_slashTree : slashTree.WellFormed := by
  decide +kernel

/-- What stands below the root of the walk. -/
theorem mem_slashTree {below : List String} {e : Entry}
    (h : slashTree.entry? (["r"] ++ below) = some e) :
    below ∈ [[], ["a"], ["a", "b.js"], ["a\\b.js"]] := by
  have hmem := List.mem_map_of_mem (f := (·.1)) (wellFormed_slashTree.mem_entries_iff.mpr h)
  simpa [slashTree] using hmem

/-- The root of the walk is a directory. -/
theorem placeOf_slashTree : slashTree.placeOf [] true "r" = .ok ["r"] :=
  have htakes : FileTree.TakesSteps [] "r" [] ["r"] := by decide +kernel
  htakes.placeOf_eq (FileTree.locate_eq_of_within 9 rfl)

/-- Nothing in the tree fails to be listed or read. -/
theorem readable_slashTree : Readable slashTree [] "r" ["r"] := by
  refine readable_of_placeOf rfl fun below e hentry _ => ?_
  have hbelow := mem_slashTree hentry
  have htakes : ∀ below ∈ [[], ["a"], ["a", "b.js"], ["a\\b.js"]],
      FileTree.TakesSteps [] (pathBelow "r" below) [] ("r" :: below) := by decide +kernel
  refine (htakes below hbelow).placeOf_eq ?_
  simp only [List.mem_cons, List.not_mem_nil, or_false] at hbelow
  rcases hbelow with rfl | rfl | rfl | rfl <;> exact FileTree.locate_eq_of_within 9 rfl

/-- A walk through the tree begins at its root. -/
theorem start_slashTree : start slashTree [] "r" {} = .ok ⟨{}, [.root "r"]⟩ :=
  start_eq placeOf_slashTree (by decide) readable_slashTree {}

/-- A walk through the tree yields both files. -/
theorem yields_slashTree {below : List String} (hbelow : below ∈ [["a", "b.js"], ["a\\b.js"]]) :
    Yields slashTree [] ⟨{}, [.root "r"]⟩ ⟨pathBelow "r" below, "o"⟩ := by
  have hinits : ∀ below ∈ [["a", "b.js"], ["a\\b.js"]], ∀ d ∈ below.inits, d ≠ below →
      slashTree.isDirectory (["r"] ++ d) = true := by
    decide +kernel
  have hbytes : slashTree.bytesAt? [] (["r"] ++ below) (pathBelow "r" below) = some ⟨#[0x6f]⟩ := by
    rcases List.mem_pair.mp hbelow with rfl | rfl <;> rfl
  have hwanted : Wanted slashTree [] {} "r" ["r"] below := {
    ne_root := by rcases List.mem_pair.mp hbelow with rfl | rfl <;> decide
    directories := fun d hd hne => hinits below hbelow d ((List.mem_inits _ _).mpr hd) hne
    file := ⟨_, hbytes⟩
    suffix := by
      rcases List.mem_pair.mp hbelow with rfl | rfl
      · exact ⟨"b.js", rfl, ".js", by decide, by decide⟩
      · exact ⟨"a\\b.js", rfl, ".js", by decide, by decide⟩
    not_excluded := fun d _ _ => by simp [FileFilter.excludes] }
  have hitem : Item.ofBytes (pathBelow "r" below) ⟨#[0x6f]⟩ = .file ⟨pathBelow "r" below, "o"⟩ := by
    have hdecode : String.fromUTF8? ⟨#[0x6f]⟩ = some "o" := by decide +kernel
    rw [Item.ofBytes, hdecode]
  obtain ⟨kind, hlead⟩ := hwanted.leads wellFormed_slashTree placeOf_slashTree readable_slashTree
  refine (mem_rest_iff wellFormed_slashTree placeOf_slashTree).mpr ⟨_, hlead, ?_⟩
  rw [item_eq_some_iff wellFormed_slashTree placeOf_slashTree readable_slashTree hlead]
  exact ⟨hwanted, _, hbytes, hitem.symm⟩

/-- The files of the tree stand below the root. -/
theorem standsBelow_slashTree {below : List String}
    (hbelow : below ∈ [["a", "b.js"], ["a\\b.js"]]) :
    StandsBelow slashTree "r" ["r"] below ⟨pathBelow "r" below, "o"⟩ where
  ne_root := by rcases List.mem_pair.mp hbelow with rfl | rfl <;> decide
  path_eq := rfl
  entry := by rcases List.mem_pair.mp hbelow with rfl | rfl <;> exact ⟨_, rfl⟩

/-- The file without a backslash in its names has a URI that leads to it. -/
theorem uris_of_yielded_files_slashTree :
    Yields slashTree [] ⟨{}, [.root "r"]⟩ ⟨pathBelow "r" ["a", "b.js"], "o"⟩ ∧
      Path.join "r" (Sarif.uri "r" (pathBelow "r" ["a", "b.js"])) =
        pathBelow "r" ["a", "b.js"] := by
  obtain ⟨-, huri, -⟩ := uris_of_yielded_files wellFormed_slashTree placeOf_slashTree (by decide)
    start_slashTree
  have hstands : StandsBelow slashTree "r" ["r"] ["a", "b.js"] _ :=
    standsBelow_slashTree (by decide)
  exact ⟨yields_slashTree (by decide), ((huri _ _ hstands).2).mpr (by decide)⟩

/-- **A walk may yield two files that have one URI.** -/
theorem not_uris_distinct :
    ¬∀ (t : FileTree) (cwd : Place) (root : String) (top : Place) (f : FileFilter) (w : Walk),
      t.WellFormed → t.placeOf cwd true root = .ok top → t.isDirectory top = true →
      start t cwd root f = .ok w →
      ∀ file file' below below', Yields t cwd w file → Yields t cwd w file' →
        StandsBelow t root top below file → StandsBelow t root top below' file' →
        below ≠ below' → Sarif.uri root file.path ≠ Sarif.uri root file'.path := by
  intro h
  have hfirst : StandsBelow slashTree "r" ["r"] ["a", "b.js"] _ :=
    standsBelow_slashTree (by decide)
  have hsecond : StandsBelow slashTree "r" ["r"] ["a\\b.js"] _ :=
    standsBelow_slashTree (by decide)
  refine h slashTree [] "r" ["r"] {} _ wellFormed_slashTree placeOf_slashTree (by decide)
    start_slashTree _ _ _ _ (yields_slashTree (by decide)) (yields_slashTree (by decide)) hfirst
    hsecond (by decide) ?_
  rw [hfirst.uri_eq wellFormed_slashTree (by decide),
    hsecond.uri_eq wellFormed_slashTree (by decide), ← String.toList_inj, Sarif.slashed,
    Sarif.slashed, String.toList_map, String.toList_map, String.toList_intercalate,
    String.toList_intercalate]
  rfl

end Walk

end Wording
