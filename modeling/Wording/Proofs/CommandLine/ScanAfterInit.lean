import Mathlib.Data.List.Infix
import Wording.Proofs.CommandLine.FailedInit
import Wording.Proofs.CommandLine.ScanStatus
import Wording.Proofs.Scan.NewFile

/-!
# A scan after the rules file is made

* `ScanOptions.ScansAlike` — a scan loads the same rules from two trees, and walks through them
  alike.
* `ScanOptions.ScansAlike.run` — then it reports the same, and ends alike.
* `InitOptions.run_default` — the command that makes a rules file puts it in the working directory,
  or does nothing.
* `LoadedRules.load_put` — the rules of the new file are the built-in rules.
* **`ScanOptions.run_after_init`** — making the rules file does not change what a scan reports.

The two scans take different ways to their rules: one takes the built-in table, and the other finds
the new file, reads it and decodes it.  The file also stands in the tree that may be scanned.  It is
not scanned as long as no suffix asks for it.
-/

namespace Wording

variable {t t' : FileTree} {cwd : Place}

/-! ## Two trees for one scan -/

/-- The scan loads the same rules from both trees, be it from different origins, and walks through
both from its root alike. -/
structure ScanOptions.ScansAlike (o : ScanOptions) (cwd : Place) (t t' : FileTree) : Prop where
  load : ∃ origin, LoadedRules.load t' cwd o.rules "." =
    (LoadedRules.load t cwd o.rules ".").map fun loaded => { loaded with origin := origin }
  start : ∀ f, Walk.start t' cwd o.root f = Walk.start t cwd o.root f
  rest : ∀ f : FileFilter, f.suffixes = o.fileSuffixes →
    ((⟨f, [.root o.root]⟩ : Walk).rest t' cwd).1.map (·.2) =
      ((⟨f, [.root o.root]⟩ : Walk).rest t cwd).1.map (·.2)

/-- The events and the counters of a scan are made of its rules and of what its walk yields. -/
theorem PreparedScan.run_congr {p q : PreparedScan} (hrules : p.loaded.rules = q.loaded.rules)
    (hitems : (p.walk.rest t' cwd).1.map (·.2) = (q.walk.rest t cwd).1.map (·.2)) :
    (p.run t' cwd).events = (q.run t cwd).events ∧ (p.run t' cwd).stats = (q.run t cwd).stats := by
  simp only [PreparedScan.run, hrules, hitems, and_self]

/-- A walk that begins has its root before it. -/
theorem Walk.start_eq_ok {root : String} {f : FileFilter} {w : Walk}
    (h : Walk.start t cwd root f = .ok w) : w = ⟨f, [.root root]⟩ := by
  unfold Walk.start at h
  split at h
  · cases h
  · split at h
    · cases h
    · exact (Except.ok.inj h).symm
  · exact (Except.ok.inj h).symm

/-- **A scan reports the same of trees that it scans alike**, and ends with the same status. -/
theorem ScanOptions.ScansAlike.run {o : ScanOptions} (h : o.ScansAlike cwd t t')
    (terminal : Bool) :
    (o.run terminal t' cwd).output = (o.run terminal t cwd).output ∧
      (o.run terminal t' cwd).status = (o.run terminal t cwd).status := by
  obtain ⟨origin, hload⟩ := h.load
  unfold ScanOptions.run PreparedScan.ofOptions
  rw [hload]
  cases LoadedRules.load t cwd o.rules "." with
  | error fault => exact ⟨rfl, rfl⟩
  | ok loaded =>
      simp only [Except.map]
      cases hfilter : FileFilter.ofTexts o.fileSuffixes o.exclude with
      | error fault => exact ⟨rfl, rfl⟩
      | ok filter =>
          simp only [h.start filter]
          cases hstart : Walk.start t cwd o.root filter with
          | error fault => exact ⟨rfl, rfl⟩
          | ok walk =>
              obtain rfl := Walk.start_eq_ok hstart
              have hitems := h.rest filter (FileFilter.suffixes_of_ofTexts hfilter)
              obtain ⟨hevents, hstats⟩ := PreparedScan.run_congr
                (p := ⟨{ loaded with origin := origin }, _⟩) (q := ⟨loaded, _⟩) rfl hitems
              constructor
              · cases o.format <;>
                  simp only [CompletedScan.report, CompletedScan.findings, hevents, hstats]
              · simp only [CompletedScan.counted_eq, CompletedScan.findings, hevents]

/-! ## What is made -/

/-- The name of the rules file can be followed in a directory. -/
theorem FileTree.canFollow_rulesFile (hcwd : t.isDirectory cwd = true) :
    t.CanFollow cwd "tonecheck.yaml" where
  isDirectory := hcwd
  not_stay := by decide
  not_up := by decide
  length_le := by decide +kernel

/-- **Without a path of its own the command puts the rules in the working directory**, or leaves the
tree as it is. -/
theorem InitOptions.run_default (hfree : t.entry? (cwd ++ ["tonecheck.yaml"]) = none)
    (force : Bool) :
    (({ force := force } : InitOptions).run t cwd).2 = t ∨
      t.isDirectory cwd = true ∧
        (({ force := force } : InitOptions).run t cwd).2 =
          t.put (cwd ++ ["tonecheck.yaml"]) (.file builtinText.toUTF8) := by
  have hdirectory : ({ force := force } : InitOptions).directory? = none := by
    rw [InitOptions.directory?, show Path.parent? "tonecheck.yaml" = some "" by decide +kernel]
    rfl
  unfold InitOptions.run
  split_ifs
  · exact .inl rfl
  · rw [hdirectory]
    rcases InitOptions.write_cases { force := force } t cwd with hsame | ⟨spot, hspot, hwritten⟩
    · exact .inl hsame
    · obtain ⟨-, hlocate⟩ := FileTree.locate_of_resolve hspot
      have horigin : FileTree.origin cwd "tonecheck.yaml" = cwd := rfl
      have hsteps : Path.steps "tonecheck.yaml" = ["tonecheck.yaml"] := by decide +kernel
      rw [horigin, hsteps] at hlocate
      by_cases hcwd : t.isDirectory cwd = true
      · rw [FileTree.locate_free (FileTree.canFollow_rulesFile hcwd) hfree] at hlocate
        obtain rfl := Except.ok.inj hlocate
        exact .inr ⟨hcwd, hwritten⟩
      · rw [FileTree.locate, if_pos (by simpa using hcwd)] at hlocate
        cases hlocate

/-! ## What is loaded -/

/-- What is written as text is read as that text. -/
theorem FileTree.readText_of_entry {path text : String} {place : Place}
    (hplace : t.placeOf cwd true path = .ok place)
    (hentry : t.entry? place = some (.file text.toUTF8)) : t.readText cwd path = .ok text := by
  have hdecode : String.fromUTF8? text.toUTF8 = some text := by
    rw [String.fromUTF8?, String.toUTF8_eq_toByteArray, dif_pos text.isValidUTF8]
    rfl
  have hleads : t.LeadsToFile cwd path text.toUTF8 := ⟨place, hplace, hentry⟩
  rw [FileTree.readText, hleads.readBytes]
  simp only [hdecode]

/-- No rules file is found under a name at which nothing stands. -/
theorem FileTree.isFile_join_dot {name : String} (hname : FileTree.IsName name)
    (hfree : t.entry? (cwd ++ [name]) = none) : t.isFile cwd (Path.join "." name) = false := by
  by_contra hfile
  have hexists : t.pathExists cwd (Path.join "." name) = true := by
    unfold FileTree.isFile at hfile
    unfold FileTree.pathExists
    cases hkind : t.kindOf cwd true (Path.join "." name) with
    | error fault =>
        rw [hkind] at hfile
        exact absurd rfl hfile
    | ok kind => rfl
  obtain ⟨place, -, hplace, -⟩ := FileTree.exists_of_pathExists hexists
  obtain ⟨-, links, hfollows⟩ := FileTree.follows_of_placeOf hplace
  have horigin : FileTree.origin cwd (Path.join "." name) = cwd := by
    rw [FileTree.origin, Path.isAbsolute_join (by decide) hname]
    rfl
  have hnames : Path.names (Path.join "." name) = [".", name] := by
    rw [Path.names_join (by decide) hname, show Path.names "." = ["."] by decide +kernel]
    rfl
  rw [horigin, hnames] at hfollows
  have hlocate := hfollows.locate_eq
  by_cases hcwd : t.isDirectory cwd = true
  · -- the dot stays in the working directory, and the name leads no further
    rw [FileTree.locate_stay hcwd (.inr rfl)] at hlocate
    have hstay : ¬(name = "" ∨ name = ".") := not_or.mpr ⟨hname.ne_empty, hname.ne_dot⟩
    by_cases hlength : FileTree.maxNameLength < name.utf8ByteSize
    · rw [FileTree.locate, if_neg (by simp [hcwd]), if_neg hstay, if_neg hname.ne_dotdot,
        if_pos hlength] at hlocate
      cases hlocate
    · rw [FileTree.locate_free ⟨hcwd, hstay, hname.ne_dotdot, hlength⟩ hfree] at hlocate
      cases hlocate
  · rw [FileTree.locate, if_pos (by simpa using hcwd)] at hlocate
    cases hlocate

namespace LoadedRules

/-- The origin of a text has no influence on its rules. -/
theorem ofText?_eq_map (origin : RulesOrigin) (text : String) :
    ofText? origin text =
      (ofText? .builtin text).map fun loaded => { loaded with origin := origin } := by
  unfold ofText?
  cases RulesDocument.read text with
  | error fault => rfl
  | ok document =>
      cases hrules : document.ruleSet with
      | error fault =>
          simp only [hrules]
          rfl
      | ok rules =>
          simp only [hrules]
          rfl

/-- The built-in rules are loaded if there is no rules file. -/
theorem load_of_free (hfree : ∀ name ∈ fileNames, t.entry? (cwd ++ [name]) = none) :
    load t cwd none "." = ofText? .builtin builtinText := by
  have hnone : discovered? t cwd "." = none := by
    refine List.find?_eq_none.mpr (List.forall_mem_map.mpr fun name hname => ?_)
    have hisName : ∀ name ∈ fileNames, FileTree.IsName name := by decide
    simp [FileTree.isFile_join_dot (hisName name hname) (hfree name hname)]
  rw [load, chooseOrigin, hnone]
  rfl

/-- **The rules of the new file are the built-in rules**, but for their origin. -/
theorem load_put (hcwd : t.isDirectory cwd = true)
    (hfree : ∀ name ∈ fileNames, t.entry? (cwd ++ [name]) = none) :
    load (t.put (cwd ++ ["tonecheck.yaml"]) (.file builtinText.toUTF8)) cwd none "." =
      (load t cwd none ".").map fun loaded =>
        { loaded with origin := .file (Path.join "." "tonecheck.yaml") } := by
  have hnew : t.entry? (cwd ++ ["tonecheck.yaml"]) = none := hfree _ (by decide)
  rw [load_of_free hfree, ← ofText?_eq_map]
  generalize hput : t.put (cwd ++ ["tonecheck.yaml"]) (.file builtinText.toUTF8) = t'
  have hcwd' : t'.isDirectory cwd = true := by
    rw [← hput, FileTree.isDirectory_put hnew]
    exact hcwd
  have hentry : t'.entry? (cwd ++ ["tonecheck.yaml"]) = some (.file builtinText.toUTF8) := by
    rw [← hput, FileTree.entry_put, if_pos ⟨by simp, rfl⟩]
  have hlocate : t'.locate true FileTree.maxLinks cwd [".", "tonecheck.yaml"] =
      .ok (.found (cwd ++ ["tonecheck.yaml"])) := by
    rw [FileTree.locate_stay hcwd' (.inr rfl),
      FileTree.locate_enter (FileTree.canFollow_rulesFile hcwd') hentry (by simp), FileTree.locate]
  have htakes : FileTree.TakesSteps cwd (Path.join "." "tonecheck.yaml") cwd
      [".", "tonecheck.yaml"] := ⟨by decide +kernel, rfl, by decide +kernel⟩
  have hplace := htakes.placeOf_eq hlocate
  have hfile : t'.isFile cwd (Path.join "." "tonecheck.yaml") = true :=
    FileTree.isFile_iff_leadsToFile.mpr ⟨_, htakes.leadsToFile hlocate hentry⟩
  have hdiscovered : discovered? t' cwd "." = some (Path.join "." "tonecheck.yaml") := by
    rw [discovered?, fileNames, List.map_cons, List.find?_cons_of_pos hfile]
  rw [load, chooseOrigin, hdiscovered]
  simp only [Option.none_or, text?, FileTree.readText_of_entry hplace hentry, Except.mapError]

end LoadedRules

/-! ## The suffix of the file -/

namespace ScanOptions

/-- A suffix that has been given a dot was the same without it, or had it. -/
theorem eq_of_dotted_eq {suffix name : String} (h : dotted suffix = "." ++ name) :
    suffix = name ∨ suffix = "." ++ name := by
  unfold dotted at h
  split_ifs at h
  · exact .inr h
  · exact .inl (String.toList_inj.mp (by simpa using congrArg String.toList h))

/-- Every suffix begins with a dot. -/
theorem head_of_mem_fileSuffixes {o : ScanOptions} {suffix : String}
    (h : suffix ∈ o.fileSuffixes) : suffix.toList.head? = some '.' := by
  unfold fileSuffixes at h
  split_ifs at h
  · have hall : ∀ suffix ∈ defaultSuffixes, suffix.toList.head? = some '.' := by decide
    exact hall suffix h
  · obtain ⟨given, -, rfl⟩ := List.mem_map.mp h
    unfold dotted
    split_ifs with hdot
    · simpa using hdot
    · simp

/-- The suffix of the rules file is asked for only by its name. -/
theorem mem_suffixes_of_mem_fileSuffixes {o : ScanOptions} (h : ".yaml" ∈ o.fileSuffixes) :
    "yaml" ∈ o.suffixes ∨ ".yaml" ∈ o.suffixes := by
  unfold fileSuffixes at h
  split_ifs at h
  · exact absurd h (by decide)
  · obtain ⟨given, hgiven, hdotted⟩ := List.mem_map.mp h
    have hyaml : dotted given = "." ++ "yaml" := hdotted
    rcases eq_of_dotted_eq hyaml with rfl | rfl
    · exact .inl hgiven
    · exact .inr hgiven

/-- **The rules file does not qualify** unless its suffix is asked for. -/
theorem not_qualifies_rulesFile {o : ScanOptions} (hyaml : "yaml" ∉ o.suffixes)
    (hdotted : ".yaml" ∉ o.suffixes) {f : FileFilter} (hsuffixes : f.suffixes = o.fileSuffixes) :
    f.qualifies "tonecheck.yaml" = false := by
  rw [FileFilter.qualifies, List.any_eq_false, hsuffixes]
  intro suffix hsuffix hends
  have htails : ∀ tail ∈ "tonecheck.yaml".toList.tails, tail.head? = some '.' →
      tail = ".yaml".toList := by decide
  have hmem : suffix.toList ∈ "tonecheck.yaml".toList.tails :=
    (List.mem_tails _ _).mpr (List.isSuffixOf_iff_suffix.mp hends)
  have htext : suffix = ".yaml" :=
    String.toList_inj.mp (htails _ hmem (head_of_mem_fileSuffixes hsuffix))
  exact (mem_suffixes_of_mem_fileSuffixes (htext ▸ hsuffix)).elim hyaml hdotted

/-! ## The scan after the command -/

variable {o : ScanOptions}

/-- The new file changes nothing for a scan that does not ask for it. -/
theorem scansAlike_put (hwf : t.WellFormed) (hlinks : t.LinkFree) (hcwd : t.isDirectory cwd = true)
    (hfree : ∀ name ∈ LoadedRules.fileNames, t.entry? (cwd ++ [name]) = none)
    (hrules : o.rules = none) (hroot : t.pathExists cwd o.root = true)
    (hyaml : "yaml" ∉ o.suffixes) (hdotted : ".yaml" ∉ o.suffixes) :
    o.ScansAlike cwd t (t.put (cwd ++ ["tonecheck.yaml"]) (.file builtinText.toUTF8)) := by
  have hnew : t.entry? (cwd ++ ["tonecheck.yaml"]) = none := hfree _ (by decide)
  obtain ⟨top, e, hplace, htop⟩ := FileTree.exists_of_pathExists hroot
  have hnamed : FileTree.Named (cwd ++ ["tonecheck.yaml"]) :=
    (hwf.named_of_isDirectory hcwd).concat (by decide) (by decide) (by decide)
  refine ⟨⟨.file (Path.join "." "tonecheck.yaml"), ?_⟩, fun f => ?_, fun f hsuffixes => ?_⟩
  · rw [hrules]
    exact LoadedRules.load_put hcwd hfree
  · exact Walk.start_put hplace htop hnew
  · exact Walk.rest_put hwf (hwf.put hnamed _) hlinks hplace htop hnew
      (not_qualifies_rulesFile hyaml hdotted hsuffixes)

/-- **Making the rules file does not change what a scan reports.**  In a tree without links, where
the working directory has no rules file, a scan that names no rules file and does not ask for the
suffix of one writes the same output after the file is made as before, and ends with the same exit
code. -/
theorem run_after_init (hwf : t.WellFormed) (hlinks : t.LinkFree)
    (hfree : ∀ name ∈ ["tonecheck.yaml", ".tonecheck.yaml"], t.entry? (cwd ++ [name]) = none)
    (hrules : o.rules = none) (hroot : t.pathExists cwd o.root = true)
    (hyaml : "yaml" ∉ o.suffixes) (hdotted : ".yaml" ∉ o.suffixes) (force terminal : Bool) :
    let made := (({ force := force } : InitOptions).run t cwd).2
    (o.run terminal made cwd).output = (o.run terminal t cwd).output ∧
      (o.run terminal made cwd).status.code = (o.run terminal t cwd).status.code := by
  have hnew : t.entry? (cwd ++ ["tonecheck.yaml"]) = none := hfree _ (by decide)
  rcases InitOptions.run_default hnew force with hsame | ⟨hcwd, hput⟩
  · simp only [hsame, and_self]
  · have halike := scansAlike_put hwf hlinks hcwd hfree hrules hroot hyaml hdotted
    obtain ⟨houtput, hstatus⟩ := halike.run terminal
    simp only [hput, houtput, hstatus, and_self]

/-- A scan of the notes in a tree. -/
def notesScan : ScanOptions where
  suffixes := ["txt"]

/-- The scan of the notes reports the same after the rules file is made beside them. -/
theorem run_after_init_notesTree :
    let made := (({} : InitOptions).run InitOptions.notesTree []).2
    (notesScan.run false made []).output = (notesScan.run false InitOptions.notesTree []).output ∧
      (notesScan.run false made []).status.code =
        (notesScan.run false InitOptions.notesTree []).status.code := by
  have hwf : InitOptions.notesTree.WellFormed := by decide +kernel
  have hlinks : InitOptions.notesTree.LinkFree := hwf.linkFree (by decide +kernel)
  have hroot : InitOptions.notesTree.pathExists [] notesScan.root = true := by
    have htakes : FileTree.TakesSteps [] notesScan.root [] ["."] := by decide +kernel
    have hlocate : InitOptions.notesTree.locate true FileTree.maxLinks [] ["."] =
        .ok (.found []) :=
        FileTree.locate_eq_of_within 9 rfl
    rw [htakes.pathExists_eq, hlocate]
    rfl
  exact run_after_init hwf hlinks (by decide) rfl hroot (by decide) (by decide) false false

end ScanOptions

end Wording
