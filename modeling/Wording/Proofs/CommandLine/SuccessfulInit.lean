import Wording.Proofs.CommandLine.ScanAfterInit
import Wording.Proofs.FileTree.Written
import Wording.Proofs.Rules.Loading

/-!
# What a command leaves behind that has made a rules file

* `InitOptions.run_success_cases` — a command that succeeds has written the file, after it has made
  directories if the path asks for them.
* `LoadedRules.load_of_written` — rules are loaded by a path that leads to the built-in text as the
  built-in rules are.
* **`InitOptions.successful_run_writes_only_rules`** — the path leads to the rules file, from which
  the built-in rules are loaded, or to a device that takes them; all that stood still stands as it did,
  and what is new is the file and the directories on the way to it.
* `InitOptions.not_successful_run_leaves_rules` — with leave to overwrite, the rules can be written to
  a device, and be gone.

The file stands where the path leads, which may be far from where it points: a link at its end is
followed, and if its target is missing it is the target that is made.
-/

namespace Wording

variable {t : FileTree} {cwd : Place}

/-- **Rules that are loaded from the written file** are those of its text, but for their origin. -/
theorem LoadedRules.load_of_written {path text : String} {place : Place}
    (hplace : t.placeOf cwd true path = .ok place)
    (hentry : t.entry? place = some (.file text.toUTF8)) (directory : String) :
    load t cwd (some path) directory =
      (ofText? .builtin text).map fun loaded => { loaded with origin := .file path } := by
  have horigin : chooseOrigin t cwd (some path) directory = .file path := rfl
  rw [← ofText?_eq_map, load_of_chosen_file horigin, FileTree.readText_of_entry hplace hentry]

namespace InitOptions

variable {o : InitOptions}

/-- A command that ends well here has written the file. -/
theorem writeFile_of_success (h : (o.write t cwd).1.status = .success) :
    t.writeFile cwd o.output builtinText.toUTF8 = .ok (o.write t cwd).2 := by
  unfold write at h ⊢
  split at h
  · cases h
  · next hwrite => exact hwrite

/-- **A command that succeeds** has written the file in the tree that it has prepared. -/
theorem run_success_cases (h : (o.run t cwd).1.status = .success) :
    (t.pathExists cwd o.output && !o.force) = false ∧
      ∃ t' : FileTree, o.Prepared t cwd t' ∧
        t'.writeFile cwd o.output builtinText.toUTF8 = .ok (o.run t cwd).2 := by
  rcases o.run_cases t cwd with hrun | ⟨directory, fault, -, hrun⟩ | ⟨hallowed, t', hprepared, hrun⟩
  · rw [hrun] at h
    cases h
  · rw [hrun] at h
    cases h
  · rw [hrun] at h ⊢
    exact ⟨hallowed, t', hprepared, writeFile_of_success h⟩

namespace Prepared

variable {t' : FileTree}

/-- A tree that is prepared stays rooted. -/
theorem rooted (h : o.Prepared t cwd t') (hrooted : t.Rooted) : t'.Rooted := by
  rcases h with rfl | ⟨directory, -, rfl⟩
  · exact hrooted
  · exact hrooted.makeDirectories cwd directory

/-- What is new in a tree that is prepared are directories on the way to the file. -/
theorem onTheWay (h : o.Prepared t cwd t') {p : Place} {e : Entry} (hnone : t.entry? p = none)
    (hentry : t'.entry? p = some e) : e = .directory ∧ t'.OnTheWay cwd o.output p := by
  rcases h with rfl | ⟨directory, hdirectory, rfl⟩
  · rw [hnone] at hentry
    cases hentry
  · exact onTheWay_of_made hdirectory hnone hentry

/-- A device that stands in a tree that is prepared stood there before. -/
theorem entry_of_device (h : o.Prepared t cwd t') {p : Place} {device : Device}
    (hentry : t'.entry? p = some (.device device)) : t.entry? p = some (.device device) := by
  cases hbefore : t.entry? p with
  | none => cases h.grows.directory hbefore hentry
  | some e => rw [← hentry, h.grows.kept hbefore]

end Prepared

/-- **A command that succeeds writes the built-in rules and nothing else**, in every tree where what
stands stands in a directory.  Afterwards the path leads to a file that has exactly the built-in text,
and loading rules by this path ends as loading the built-in rules does, but for the origin; or it
leads to a device that takes what is written, which is there already and has to be overwritten.  All
that stood still stands as it did, but for what the file had in it.  What is new is the file, or a
directory where a path above that of the file leads. -/
theorem successful_run_writes_only_rules (hrooted : t.Rooted)
    (h : (o.run t cwd).1.status.code = 0) :
    let made := (o.run t cwd).2
    ∃ p, made.placeOf cwd true o.output = .ok p ∧
      (made.entry? p = some (.file builtinText.toUTF8) ∧
          (∀ directory, LoadedRules.load made cwd (some o.output) directory =
            (LoadedRules.ofText? .builtin builtinText).map fun loaded =>
              { loaded with origin := .file o.output }) ∨
        ∃ device, t.entry? p = some (.device device) ∧ device.refusal? = none ∧
          (o.force = true ∨ t.GoesUpFromMissing cwd o.output)) ∧
      (∀ q e, t.entry? q = some e → made.entry? q = some e ∨ q = p ∧ e.kind = .file) ∧
      (∀ q e, t.entry? q = none → made.entry? q = some e →
        q = p ∨ e = .directory ∧ made.OnTheWay cwd o.output q) := by
  intro made
  have hsuccess : (o.run t cwd).1.status = .success := by
    cases hstatus : (o.run t cwd).1.status <;> simp [hstatus, ExitStatus.code] at h ⊢
  obtain ⟨hallowed, t', hprepared, hwrite⟩ := run_success_cases hsuccess
  obtain ⟨p, hplace, hwritten | ⟨hsame, device, hentry, htakes⟩⟩ :=
    (hprepared.rooted hrooted).fileWritten hwrite
  · refine ⟨p, hplace,
      .inl ⟨hwritten.written, LoadedRules.load_of_written hplace hwritten.written⟩,
      fun q e hentry => hwritten.entry (hprepared.grows.kept hentry),
      fun q e hnone hentry => ?_⟩
    by_cases hq : q = p
    · exact .inl hq
    · rw [hwritten.kept q hq] at hentry
      obtain ⟨rfl, hway⟩ := hprepared.onTheWay hnone hentry
      exact .inr ⟨rfl, hway.keeps hwritten.keeps⟩
  · have hmade : made = t' := hsame
    have hdevice := hprepared.entry_of_device hentry
    refine ⟨p, hplace, .inr ⟨device, hdevice, htakes, ?_⟩, fun q e hkept => .inl ?_,
      fun q e hnone hnew => .inr ?_⟩
    · -- without leave to overwrite, and without a way up, nothing stood there
      by_contra hneither
      obtain ⟨hforce, hup⟩ := not_or.mp hneither
      have hnone := entry_eq_none_of_prepared (by simpa using hforce) hrooted hup hallowed hprepared
        (FileTree.resolve_of_placeOf (hsame ▸ hplace))
      rw [Spot.place, hdevice] at hnone
      cases hnone
    · rw [hmade]
      exact hprepared.grows.kept hkept
    · rw [hmade] at hnew ⊢
      exact hprepared.onTheWay hnone hnew

/-- A tree with a link for the rules file, whose target is missing. -/
def danglingTree : FileTree where
  entries := [(["tonecheck.yaml"], .link "docs/rules.yaml"), (["docs"], .directory)]

/-- The command makes the target of the link. -/
theorem run_danglingTree :
    ({} : InitOptions).run danglingTree [] =
      ({ status := .success, output := ({} : InitOptions).advice },
        danglingTree.put ["docs", "rules.yaml"] (.file builtinText.toUTF8)) := by
  have htakes : FileTree.TakesSteps [] ({} : InitOptions).output [] ["tonecheck.yaml"] := by
    decide +kernel
  have hlocate : danglingTree.locate true FileTree.maxLinks [] ["tonecheck.yaml"] =
      .ok (.absent ["docs"] "rules.yaml" false) :=
    FileTree.locate_eq_of_within 9 rfl
  have hallowed : (danglingTree.pathExists [] ({} : InitOptions).output && !false) = false := by
    rw [htakes.pathExists_eq, hlocate]
    rfl
  have hwrite : ∀ bytes, danglingTree.writeFile [] ({} : InitOptions).output bytes =
      .ok (danglingTree.put ["docs", "rules.yaml"] (.file bytes)) := by
    intro bytes
    rw [htakes.writeFile_eq (by decide +kernel), hlocate]
    rfl
  rw [run_eq_write hallowed (by decide +kernel), write, hwrite]

/-- The command succeeds; the link is as it was, and leads to the rules file. -/
theorem successful_run_writes_only_rules_danglingTree :
    let made := (({} : InitOptions).run danglingTree []).2
    (({} : InitOptions).run danglingTree []).1.status.code = 0 ∧ danglingTree.Rooted ∧
      made.entry? ["tonecheck.yaml"] = some (.link "docs/rules.yaml") ∧
      ∃ p, made.placeOf [] true "tonecheck.yaml" = .ok p ∧
        made.entry? p = some (.file builtinText.toUTF8) := by
  intro made
  have hcode : (({} : InitOptions).run danglingTree []).1.status.code = 0 := by
    rw [run_danglingTree]
    rfl
  have hrooted : danglingTree.Rooted := by decide
  obtain ⟨p, hplace, hfile, hkept, -⟩ := successful_run_writes_only_rules hrooted hcode
  have hlink : made.entry? ["tonecheck.yaml"] = some (.link "docs/rules.yaml") :=
    (hkept _ (.link "docs/rules.yaml") rfl).resolve_right fun h => nomatch h.2
  refine ⟨hcode, hrooted, hlink, p, hplace, ?_⟩
  rcases hfile with ⟨hfile, -⟩ | ⟨device, hdevice, -⟩
  · exact hfile
  · -- there is no device in the tree
    have hnone : ∀ listed ∈ danglingTree.entries, listed.2.kind ≠ .device := by decide
    by_cases hnil : p = []
    · subst hnil
      cases hdevice
    · have hlookup : danglingTree.entries.lookup p = some (.device device) := by
        simpa [hnil, FileTree.entry?] using hdevice
      obtain ⟨front, behind, heq, -⟩ := List.lookup_eq_some_iff.mp hlookup
      exact absurd rfl (hnone (p, .device device) (by simp [heq]))

/-! ## A device that takes the rules -/

/-- A tree with a device that takes everything. -/
def nullTree : FileTree where
  entries := [(["dev"], .directory), (["dev", "null"], .device .null)]

/-- A command with leave to overwrite the device. -/
def discarding : InitOptions where
  output := "/dev/null"
  force := true

/-- The command writes the rules to the device, and leaves the tree as it is. -/
theorem run_nullTree :
    discarding.run nullTree [] =
      ({ status := .success, output := discarding.advice }, nullTree) := by
  have hallowed : (nullTree.pathExists [] discarding.output && !discarding.force) = false :=
    Bool.and_false _
  have hmade : nullTree.makeDirectories [] "/dev" = (nullTree, none) := by
    have htakes : FileTree.TakesSteps [] "/dev" [] ["dev"] := by decide +kernel
    have hslashes : FileTree.withoutSlashes "/dev" = "/dev" := by decide +kernel
    have hlocate : nullTree.locate false FileTree.maxLinks [] ["dev"] = .ok (.found ["dev"]) :=
      FileTree.locate_eq_of_within 9 rfl
    have hthere : nullTree.locate true FileTree.maxLinks [] ["dev"] = .ok (.found ["dev"]) :=
        FileTree.locate_eq_of_within 9 rfl
    refine FileTree.makeDirectories_of_isDirectoryPath (by decide +kernel) ?_
      (htakes.isDirectoryPath_of_locate hthere rfl)
    rw [FileTree.TakesSteps.make_eq (hslashes ▸ htakes), hlocate]
  have hwrite : ∀ bytes, nullTree.writeFile [] discarding.output bytes = .ok nullTree := by
    intro bytes
    have htakes : FileTree.TakesSteps [] discarding.output [] ["dev", "null"] := by decide +kernel
    have hlocate : nullTree.locate true FileTree.maxLinks [] ["dev", "null"] =
        .ok (.found ["dev", "null"]) :=
        FileTree.locate_eq_of_within 9 rfl
    rw [htakes.writeFile_eq (by decide +kernel), hlocate]
    rfl
  rw [run_eq_write_of_made hallowed (by decide +kernel) hmade, write, hwrite]

/-- **A command that succeeds does not leave the rules in every tree**: a device keeps nothing. -/
theorem not_successful_run_leaves_rules :
    ¬∀ (t : FileTree) (cwd : Place) (o : InitOptions), t.WellFormed → t.Rooted →
      (o.run t cwd).1.status.code = 0 →
        ∃ p, FileTree.placeOf (o.run t cwd).2 cwd true o.output = .ok p ∧
          FileTree.entry? (o.run t cwd).2 p = some (.file builtinText.toUTF8) := by
  intro hleaves
  have hcode : (discarding.run nullTree []).1.status.code = 0 := by
    rw [run_nullTree]
    rfl
  obtain ⟨p, hplace, hfile⟩ :=
    hleaves nullTree [] discarding (by decide +kernel) (by decide) hcode
  have htakes : FileTree.TakesSteps [] discarding.output [] ["dev", "null"] := by decide +kernel
  have hlocate : nullTree.locate true FileTree.maxLinks [] ["dev", "null"] =
      .ok (.found ["dev", "null"]) :=
        FileTree.locate_eq_of_within 9 rfl
  rw [run_nullTree, htakes.placeOf_eq hlocate] at hplace
  obtain rfl := Except.ok.inj hplace
  rw [run_nullTree] at hfile
  cases hfile

end InitOptions

end Wording
