import Wording.Proofs.CommandLine.Init
import Wording.Proofs.FileTree.NewDirectories

/-!
# What a rules file leaves behind that could not be made

* `InitOptions.run_failed_cases` — a command that fails has done nothing, or has made directories.
* **`InitOptions.failed_run_only_adds_directories`** — all that stood still stands as it did, and
  what is new are directories on the way to the file; nothing is new if the file exists, or if its
  directory is there.
* `InitOptions.not_failed_run_keeps_tree` — directories do stay behind.

The directories are made before the file is written, and nothing takes them away again when the file
cannot be written, or when the making of a later one fails.
-/

namespace Wording.InitOptions

variable {t : FileTree} {cwd : Place} {o : InitOptions}

/-- A file that cannot be written leaves the tree as it is. -/
theorem write_of_failure (h : (o.write t cwd).1.status = .failure) : (o.write t cwd).2 = t := by
  unfold write at h ⊢
  split at h
  · rfl
  · cases h

/-- A file that is not written does not count as one that exists. -/
theorem fault_write_ne (o : InitOptions) (t : FileTree) (cwd : Place) :
    (o.write t cwd).1.fault ≠ some (.fileExists o.output) := by
  unfold write
  split <;> simp [Outcome.failed]

/-- **A command that fails** has done nothing, or has made directories; nothing if it reports that
the file exists. -/
theorem run_failed_cases (h : (o.run t cwd).1.status = .failure) :
    (o.run t cwd).2 = t ∨
      ∃ directory, o.directory? = some directory ∧
        (o.run t cwd).2 = (t.makeDirectories cwd directory).1 ∧
        (o.run t cwd).1.fault ≠ some (.fileExists o.output) := by
  rcases o.run_cases t cwd with hrun | ⟨directory, fault, hdirectory, hrun⟩ |
    ⟨-, t', hprepared, hrun⟩
  · exact .inl (by rw [hrun])
  · right
    rw [hrun]
    exact ⟨directory, hdirectory, rfl, by simp [Outcome.failed]⟩
  · rw [hrun] at h ⊢
    rw [write_of_failure h]
    refine hprepared.imp_right ?_
    rintro ⟨directory, hdirectory, rfl⟩
    exact ⟨directory, hdirectory, rfl, o.fault_write_ne _ cwd⟩

/-- What is new when the directories for a file have been made are directories on the way to it. -/
theorem onTheWay_of_made {directory : String} (hdirectory : o.directory? = some directory) {p : Place}
    {e : Entry} (hnone : t.entry? p = none)
    (hentry : FileTree.entry? (t.makeDirectories cwd directory).1 p = some e) :
    e = .directory ∧ FileTree.OnTheWay (t.makeDirectories cwd directory).1 cwd o.output p := by
  obtain ⟨q, hq, hleads⟩ := t.makeDirectories_leadsTo cwd directory hnone hentry
  have hparent := parent?_of_directory? hdirectory
  have habove : Path.IsAbove q o.output := by
    rcases hq with rfl | hq
    · exact .single hparent
    · exact .head hparent hq
  exact ⟨(t.grows_makeDirectories cwd directory).directory hnone hentry, q, habove, hleads⟩

/-- **A command that fails only adds directories.**  All that stood still stands as it did.  What is
new are directories, each where a path above that of the file leads.  The tree is as it was if the
command fails because the file exists, and also if its directory is there. -/
theorem failed_run_only_adds_directories (h : (o.run t cwd).1.status.code = 2) :
    (∀ p e, t.entry? p = some e → FileTree.entry? (o.run t cwd).2 p = some e) ∧
      (∀ p e, t.entry? p = none → FileTree.entry? (o.run t cwd).2 p = some e →
        e = .directory ∧ FileTree.OnTheWay (o.run t cwd).2 cwd o.output p) ∧
      ((o.run t cwd).1.fault = some (.fileExists o.output) → (o.run t cwd).2 = t) ∧
      ((∀ directory, o.directory? = some directory → t.isDirectoryPath cwd directory = true) →
        (o.run t cwd).2 = t) := by
  have hfailure : (o.run t cwd).1.status = .failure := by
    cases hstatus : (o.run t cwd).1.status <;> simp [hstatus, ExitStatus.code] at h ⊢
  rcases run_failed_cases hfailure with hsame | ⟨directory, hdirectory, hmade, hfault⟩
  · rw [hsame]
    refine ⟨fun p e hentry => hentry, fun p e hnone hentry => ?_, fun _ => rfl, fun _ => rfl⟩
    rw [hnone] at hentry
    cases hentry
  · have hgrows := t.grows_makeDirectories cwd directory
    rw [hmade]
    exact ⟨fun p e hentry => hgrows.kept hentry,
      fun p e hnone hentry => onTheWay_of_made hdirectory hnone hentry,
      fun hexists => absurd hexists hfault,
      fun hthere => FileTree.makeDirectories_eq_self (hthere directory hdirectory)⟩

/-! ## A directory that stays behind -/

/-- A tree with one file. -/
def notesTree : FileTree where
  entries := [(["notes.txt"], .file "Rest.\n".toUTF8)]

/-- The tree after a directory has been made in it. -/
def notesTreeWithNew : FileTree where
  entries := (["new"], .directory) :: notesTree.entries

/-- A command with a path that ends in a slash, below a directory that is missing. -/
def slashed : InitOptions where
  output := "new/rules/"

/-- The command makes the directory, and cannot write a file by that path. -/
theorem run_slashed :
    slashed.run notesTree [] =
      (.failed [] (.fileNotWritten (.system .isDirectory)), notesTreeWithNew) := by
  have hallowed : (notesTree.pathExists [] slashed.output && !slashed.force) = false := by
    have htakes : FileTree.TakesSteps [] slashed.output [] ["new", "rules", ""] := by decide +kernel
    have hlocate : notesTree.locate true FileTree.maxLinks [] ["new", "rules", ""] =
        .error .noEntry :=
        FileTree.locate_eq_of_within 9 rfl
    rw [htakes.pathExists_eq, hlocate]
    rfl
  have hmade : notesTree.makeDirectories [] "new" = (notesTreeWithNew, none) := by
    have htakes : FileTree.TakesSteps [] (FileTree.withoutSlashes "new") [] ["new"] := by
      decide +kernel
    have hlocate : notesTree.locate false FileTree.maxLinks [] ["new"] =
        .ok (.absent [] "new" false) :=
        FileTree.locate_eq_of_within 9 rfl
    refine FileTree.makeDirectories_of_make (by decide +kernel) ?_
    rw [htakes.make_eq, hlocate]
    rfl
  have hwrite : ∀ bytes, notesTreeWithNew.writeFile [] slashed.output bytes =
      .error (.system .isDirectory) := by
    intro bytes
    have htakes : FileTree.TakesSteps [] (FileTree.withoutSlashes slashed.output) []
        ["new", "rules"] := by decide +kernel
    have hlocate : notesTreeWithNew.locate false FileTree.maxLinks [] ["new", "rules"] =
        .ok (.absent ["new"] "rules" false) :=
        FileTree.locate_eq_of_within 9 rfl
    rw [htakes.writeFile_eq_of_slash (by decide +kernel), hlocate]
  rw [run_eq_write_of_made hallowed (by decide +kernel) hmade, write, hwrite]

/-- The command fails; the file is as it was, and the new directory is on the way. -/
theorem failed_run_only_adds_directories_slashed :
    (slashed.run notesTree []).1.status.code = 2 ∧
      FileTree.entry? (slashed.run notesTree []).2 ["notes.txt"] =
        some (.file "Rest.\n".toUTF8) ∧
      FileTree.OnTheWay (slashed.run notesTree []).2 [] "new/rules/" ["new"] := by
  have hcode : (slashed.run notesTree []).1.status.code = 2 := by rw [run_slashed]; rfl
  obtain ⟨hkept, hnew, -, -⟩ := failed_run_only_adds_directories hcode
  refine ⟨hcode, hkept _ _ rfl, (hnew ["new"] .directory rfl ?_).2⟩
  rw [run_slashed]
  rfl

/-- **A command that fails does not leave every tree as it was**: a directory stays behind. -/
theorem not_failed_run_keeps_tree :
    ¬∀ (t : FileTree) (cwd : Place) (o : InitOptions), t.WellFormed → t.Rooted →
      (o.run t cwd).1.status.code = 2 →
        ∀ p, FileTree.entry? (o.run t cwd).2 p = t.entry? p := by
  intro hkept
  have hcode : (slashed.run notesTree []).1.status.code = 2 := by rw [run_slashed]; rfl
  have hnew := hkept notesTree [] slashed (by decide +kernel) (by decide) hcode ["new"]
  rw [run_slashed] at hnew
  cases hnew

end Wording.InitOptions
