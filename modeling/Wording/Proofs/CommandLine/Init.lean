import Wording.Proofs.FileTree.Growth
import Wording.Proofs.FileTree.Operations

/-!
# What making a rules file leaves alone

* `FileTree.GoesUpFromMissing` — a path goes up behind a name at which nothing stands.
* `InitOptions.run_cases` — the command refuses to overwrite, or fails to make the directories, or
  writes the file in the tree that it has prepared.
* `InitOptions.tree_run_cases` — it prepares the tree, and after that puts the file where its path
  leads, if it gets so far.
* **`InitOptions.run_keeps_entries`** — without leave to overwrite, all that stood still stands as it
  did, unless the path goes up from what is missing.
* `InitOptions.not_run_keeps_files` — with such a path a file is overwritten.

Whether the path names something is asked before the directories on its way are made.  If one of
them is missing, the path names nothing, and it may name something as soon as they are there: behind
`new/..` stands what stands beside `new`.
-/

namespace Wording

/-- Following the path comes to a name at which nothing stands, and behind it goes up. -/
def FileTree.GoesUpFromMissing (t : FileTree) (cwd : Place) (path : String) : Prop :=
  ∃ after, t.BreaksOff cwd path after ∧ ".." ∈ after

namespace InitOptions

variable {t : FileTree} {cwd : Place} {o : InitOptions}

/-- Nothing stands at the place to which a path leads that does not name anything. -/
theorem entry_eq_none_of_not_pathExists {path : String} {spot : Spot}
    (hexists : t.pathExists cwd path = false) (hspot : t.resolve cwd true path = .ok spot) :
    t.entry? spot.place = none := by
  cases spot with
  | absent parent name slashed =>
      exact FileTree.entry_eq_none_of_locate_absent (FileTree.locate_of_resolve hspot).2
  | found place =>
      by_contra hne
      obtain ⟨e, hentry⟩ := Option.ne_none_iff_exists'.mp hne
      have hplace : t.placeOf cwd true path = .ok place := by
        rw [FileTree.placeOf, hspot]
      rw [FileTree.pathExists, FileTree.kindOf_eq hplace hentry] at hexists
      cases hexists

/-- Writing the rules file leaves the tree as it is, or puts the file where its path leads. -/
theorem write_cases (o : InitOptions) (t : FileTree) (cwd : Place) :
    (o.write t cwd).2 = t ∨
      ∃ spot, t.resolve cwd true o.output = .ok spot ∧
        (o.write t cwd).2 = t.put spot.place (.file builtinText.toUTF8) := by
  unfold write
  split
  · exact .inl rfl
  · next hwrite =>
    obtain ⟨spot, hspot, ⟨rfl, -⟩ | ⟨rfl, -⟩⟩ := FileTree.writeFile_eq_ok hwrite
    · exact .inr ⟨spot, hspot, rfl⟩
    · exact .inl rfl

/-- The directory that is made for a rules file is the parent of its path. -/
theorem parent?_of_directory? {directory : String} (h : o.directory? = some directory) :
    Path.parent? o.output = some directory := by
  unfold directory? at h
  split at h
  · next parent hparent =>
    split at h
    · cases h
    · rw [hparent, h]
  · cases h

/-! ## How the command runs -/

/-- A command that may write, and has no directory to make, writes the file. -/
theorem run_eq_write (hallowed : (t.pathExists cwd o.output && !o.force) = false)
    (hdirectory : o.directory? = none) : o.run t cwd = o.write t cwd := by
  rw [run, hallowed, hdirectory]
  rfl

/-- A command that may write, and can make the directory, writes the file after that. -/
theorem run_eq_write_of_made {t' : FileTree} {directory : String}
    (hallowed : (t.pathExists cwd o.output && !o.force) = false)
    (hdirectory : o.directory? = some directory)
    (hmade : t.makeDirectories cwd directory = (t', none)) : o.run t cwd = o.write t' cwd := by
  rw [run, hallowed, hdirectory]
  simp only [hmade, Bool.false_eq_true, if_false]

/-- The tree in which the command writes the file: the tree as it was, or with the directories made
that the path asks for. -/
def Prepared (o : InitOptions) (t : FileTree) (cwd : Place) (t' : FileTree) : Prop :=
  t' = t ∨ ∃ directory, o.directory? = some directory ∧ t' = (t.makeDirectories cwd directory).1

/-- **How the command runs**: it refuses to overwrite, or it fails to make the directories, or it
writes the file in the tree that it has prepared. -/
theorem run_cases (o : InitOptions) (t : FileTree) (cwd : Place) :
    o.run t cwd = (.failed [] (.fileExists o.output), t) ∨
      (∃ directory fault, o.directory? = some directory ∧
        o.run t cwd =
          (.failed [] (.directoryNotMade fault), (t.makeDirectories cwd directory).1)) ∨
      (t.pathExists cwd o.output && !o.force) = false ∧
        ∃ t', o.Prepared t cwd t' ∧ o.run t cwd = o.write t' cwd := by
  by_cases hrefuses : (t.pathExists cwd o.output && !o.force) = true
  · left
    rw [run, if_pos hrefuses]
  · right
    have hallowed : (t.pathExists cwd o.output && !o.force) = false := by simpa using hrefuses
    cases hdirectory : o.directory? with
    | none => exact .inr ⟨hallowed, t, .inl rfl, run_eq_write hallowed hdirectory⟩
    | some directory =>
        cases hmade : t.makeDirectories cwd directory with
        | mk t' fault =>
            cases fault with
            | some fault =>
                refine .inl ⟨directory, fault, rfl, ?_⟩
                rw [run, if_neg hrefuses, hdirectory]
                simp only [hmade]
            | none =>
                exact .inr ⟨hallowed, t', .inr ⟨directory, hdirectory, by rw [hmade]⟩,
                  run_eq_write_of_made hallowed hdirectory hmade⟩

namespace Prepared

variable {t' : FileTree}

/-- Preparing lets the tree grow. -/
theorem grows (h : o.Prepared t cwd t') : FileTree.Grows t t' := by
  rcases h with rfl | ⟨directory, -, rfl⟩
  · exact .refl t'
  · exact t.grows_makeDirectories cwd directory

/-- A tree is changed only for a path that breaks off. -/
theorem eq_or_breaksOff (h : o.Prepared t cwd t') :
    t' = t ∨ ∃ after, t.BreaksOff cwd o.output after := by
  rcases h with rfl | ⟨directory, hdirectory, rfl⟩
  · exact .inl rfl
  · obtain ⟨habsolute, hnames⟩ := Path.names_parent? (parent?_of_directory? hdirectory)
    refine (t.makeDirectories_eq_or_breaksOff cwd directory).imp_right ?_
    rintro ⟨after, hbreaks⟩
    exact hbreaks.of_isPrefix habsolute hnames

end Prepared

/-- **What the command does to a tree**: it prepares it, and after that puts the file where the path
leads, if it gets so far. -/
theorem tree_run_cases (o : InitOptions) (t : FileTree) (cwd : Place) :
    ∃ t', o.Prepared t cwd t' ∧
      ((o.run t cwd).2 = t' ∨
        (t.pathExists cwd o.output && !o.force) = false ∧
          ∃ spot, t'.resolve cwd true o.output = .ok spot ∧
            (o.run t cwd).2 = t'.put spot.place (.file builtinText.toUTF8)) := by
  rcases o.run_cases t cwd with hrun | ⟨directory, fault, hdirectory, hrun⟩ |
    ⟨hallowed, t', hprepared, hrun⟩
  · exact ⟨t, .inl rfl, .inl (by rw [hrun])⟩
  · exact ⟨_, .inr ⟨directory, hdirectory, rfl⟩, .inl (by rw [hrun])⟩
  · refine ⟨t', hprepared, ?_⟩
    rw [hrun]
    exact (o.write_cases t' cwd).imp_right fun hspot => ⟨hallowed, hspot⟩

/-- **Without leave to overwrite, nothing stood where the path leads** once the tree is prepared,
unless the path goes up from what is missing. -/
theorem entry_eq_none_of_prepared {t' : FileTree} (hforce : o.force = false) (hrooted : t.Rooted)
    (hup : ¬t.GoesUpFromMissing cwd o.output)
    (hallowed : (t.pathExists cwd o.output && !o.force) = false) (hprepared : o.Prepared t cwd t')
    {spot : Spot} (hspot : t'.resolve cwd true o.output = .ok spot) :
    t.entry? spot.place = none := by
  rcases hprepared.eq_or_breaksOff with rfl | ⟨after, hbreaks⟩
  · have hexists : t'.pathExists cwd o.output = false := by simpa [hforce] using hallowed
    exact entry_eq_none_of_not_pathExists hexists hspot
  · refine hbreaks.fresh hrooted hprepared.grows (fun hafter => hup ?_) hspot
    exact ⟨after, hbreaks, hafter⟩

/-- **Without leave to overwrite, all that stood in the tree still stands as it did**, however the
command ends, unless the path goes up from what is missing. -/
theorem run_keeps_entries (hforce : o.force = false) (hrooted : t.Rooted)
    (hup : ¬t.GoesUpFromMissing cwd o.output) {p : Place} {e : Entry} (h : t.entry? p = some e) :
    FileTree.entry? (o.run t cwd).2 p = some e := by
  obtain ⟨t', hprepared, hrun | ⟨hallowed, spot, hspot, hrun⟩⟩ := o.tree_run_cases t cwd
  · rw [hrun]
    exact hprepared.grows.kept h
  · have hnone := entry_eq_none_of_prepared hforce hrooted hup hallowed hprepared hspot
    have hne : p ≠ spot.place := by
      rintro rfl
      rw [h] at hnone
      cases hnone
    rw [hrun, FileTree.entry_put, if_neg (fun hp => hne hp.2)]
    exact hprepared.grows.kept h

/-! ## A file that is overwritten -/

/-- A tree with a directory and a rules file beside it. -/
def editedTree : FileTree where
  entries := [(["docs"], .directory), (["tonecheck.yaml"], .file "caution: [Mine]\n".toUTF8)]

/-- The tree after a directory has been made in it. -/
def grownTree : FileTree where
  entries := (["new"], .directory) :: editedTree.entries

/-- A path that goes up from a directory that is there, and does not go up from one that is
missing. -/
theorem run_keeps_entries_editedTree :
    let o : InitOptions := { output := "docs/../new/tonecheck.yaml" }
    FileTree.entry? (o.run editedTree []).2 ["tonecheck.yaml"] =
      some (.file "caution: [Mine]\n".toUTF8) := by
  refine run_keeps_entries rfl (by decide) ?_ rfl
  rintro ⟨after, ⟨before, name, links, here, hnames, hfollows, hname, hnone⟩, hup⟩
  have hpath : Path.names "docs/../new/tonecheck.yaml" =
      ["docs", "..", "new", "tonecheck.yaml"] := by
    decide +kernel
  rw [hpath] at hnames
  -- only the first name has the two dots behind it, and it is there
  cases before with
  | nil =>
      obtain ⟨rfl, rfl⟩ := List.cons.inj hnames
      cases hfollows
      cases hnone
  | cons first before =>
      obtain ⟨-, hrest⟩ := List.cons.inj hnames
      cases before with
      | nil =>
          obtain ⟨-, rfl⟩ := List.cons.inj hrest
          simp at hup
      | cons second before =>
          obtain ⟨-, hrest⟩ := List.cons.inj hrest
          have hafter : ".." ∈ ["new", "tonecheck.yaml"] := by
            rw [hrest]
            simp [hup]
          simp at hafter

/-- Making the missing directory on the way makes it, and no other. -/
theorem makeDirectories_editedTree :
    editedTree.makeDirectories [] "new/.." = (grownTree, none) := by
  have htakes : FileTree.TakesSteps [] "new/.." [] ["new", ".."] := by decide +kernel
  have hslashes : FileTree.withoutSlashes "new/.." = "new/.." := by decide +kernel
  have hmissing : editedTree.make [] "new/.." .directory = .error (.system .noEntry) := by
    have hlocate : editedTree.locate false FileTree.maxLinks [] ["new", ".."] =
        .error .noEntry :=
        FileTree.locate_eq_of_within 9 rfl
    rw [FileTree.TakesSteps.make_eq (hslashes ▸ htakes), hlocate]
  have hmade : editedTree.make [] "new" .directory = .ok grownTree := by
    have htakes : FileTree.TakesSteps [] (FileTree.withoutSlashes "new") [] ["new"] := by
      decide +kernel
    have hlocate : editedTree.locate false FileTree.maxLinks [] ["new"] =
        .ok (.absent [] "new" false) :=
        FileTree.locate_eq_of_within 9 rfl
    rw [htakes.make_eq, hlocate]
    rfl
  have hthere : grownTree.make [] "new/.." .directory = .error (.system .fileExists) := by
    have hlocate : grownTree.locate false FileTree.maxLinks [] ["new", ".."] = .ok (.found []) :=
      FileTree.locate_eq_of_within 9 rfl
    rw [FileTree.TakesSteps.make_eq (hslashes ▸ htakes), hlocate]
  have hdirectory : grownTree.isDirectoryPath [] "new/.." = true :=
    htakes.isDirectoryPath_of_locate (FileTree.locate_eq_of_within 9 rfl) rfl
  have hancestors : FileTree.ancestors ("new/..".length + 1) "new/.." = ["new/..", "new", ""] := by
    decide +kernel
  have hne : "new/..".isEmpty = false := by decide +kernel
  have hne' : "new".isEmpty = false := by decide +kernel
  rw [FileTree.makeDirectories, hancestors, FileTree.makeParents, hne, hmissing]
  simp only [FileTree.makeParents_of_make hne' [""] hmade, hthere, hdirectory, Bool.false_eq_true,
    if_false, if_true]

/-- A command without leave to overwrite, with a path that goes up from what is missing. -/
def roundabout : InitOptions where
  output := "new/../tonecheck.yaml"

/-- The command puts the file that it makes over the one that is there. -/
theorem run_roundabout :
    (roundabout.run editedTree []).2 =
      grownTree.put ["tonecheck.yaml"] (.file builtinText.toUTF8) := by
  have htakes : FileTree.TakesSteps [] roundabout.output [] ["new", "..", "tonecheck.yaml"] := by
    decide +kernel
  have hallowed : (editedTree.pathExists [] roundabout.output && !roundabout.force) = false := by
    have hlocate : editedTree.locate true FileTree.maxLinks [] ["new", "..", "tonecheck.yaml"] =
        .error .noEntry :=
        FileTree.locate_eq_of_within 9 rfl
    rw [htakes.pathExists_eq, hlocate]
    rfl
  have hwrite : ∀ bytes, grownTree.writeFile [] roundabout.output bytes =
      .ok (grownTree.put ["tonecheck.yaml"] (.file bytes)) := by
    intro bytes
    have hlocate : grownTree.locate true FileTree.maxLinks [] ["new", "..", "tonecheck.yaml"] =
        .ok (.found ["tonecheck.yaml"]) :=
        FileTree.locate_eq_of_within 9 rfl
    rw [htakes.writeFile_eq (by decide +kernel), hlocate]
    rfl
  rw [run_eq_write_of_made hallowed (by decide +kernel) makeDirectories_editedTree, write, hwrite]

/-- The rules that are made are not those that the user has written. -/
theorem builtinText_ne : builtinText ≠ "caution: [Mine]\n" := by
  unfold builtinText
  simp

/-- Files with the same bytes have the same text. -/
theorem eq_of_file_eq {text text' : String}
    (h : some (Entry.file text.toUTF8) = some (Entry.file text'.toUTF8)) : text = text' :=
  String.toByteArray_inj.mp (Entry.file.inj (Option.some.inj h))

/-- **A file is overwritten without leave** when the path to it goes up from what is missing. -/
theorem not_run_keeps_files :
    ¬∀ (t : FileTree) (cwd : Place) (o : InitOptions), t.WellFormed → t.Rooted → o.force = false →
      ∀ p bytes, t.entry? p = some (.file bytes) →
        FileTree.entry? (o.run t cwd).2 p = some (.file bytes) := by
  intro hkept
  have hwellFormed : editedTree.WellFormed := by decide +kernel
  have hrooted : editedTree.Rooted := by decide
  have hbytes := hkept editedTree [] roundabout hwellFormed hrooted rfl ["tonecheck.yaml"]
    "caution: [Mine]\n".toUTF8 rfl
  rw [run_roundabout, FileTree.entry_put, if_pos (by simp)] at hbytes
  exact builtinText_ne (eq_of_file_eq hbytes)

end InitOptions

end Wording
