import Mathlib.Data.List.Sort
import Wording.Proofs.FileTree.Children
import Wording.Proofs.FileTree.Growth

/-!
# A tree with a new file in it

* `FileTree.Missing` — resolution comes to where nothing stands.
* **`FileTree.locate_put`** — a file put where nothing stood changes no resolution but those that
  came to where nothing stood.
* `FileTree.Settled` — the path names an entry, or fails for another reason than that one is
  missing.
* `FileTree.Settled.readItem_put`, `FileTree.Settled.list_put` — such a path names what it named,
  and what is read and listed by it is the same, but for the new name.
* `FileTree.children_put` — the directory of the file lists what it did, and the new name.

No directory is new, and no link; this is all that resolution asks about what it passes.
-/

namespace Wording.FileTree

variable {t : FileTree} {cwd p : Place} {bytes : ByteArray}

/-- No links stand in the tree. -/
def LinkFree (t : FileTree) : Prop :=
  ∀ p target, t.entry? p ≠ some (.link target)

/-- A tree has no links if none is listed. -/
theorem WellFormed.linkFree (h : t.WellFormed) (hlisted : ∀ e ∈ t.entries, e.2.kind ≠ .link) :
    t.LinkFree := by
  intro p target hentry
  rcases List.eq_nil_or_concat p with rfl | ⟨directory, name, rfl⟩
  · cases hentry
  · rw [List.concat_eq_append] at hentry
    exact hlisted _ (h.mem_entries_append_iff.mpr hentry) rfl

/-! ## Resolution -/

/-- Resolution has come to where nothing stands. -/
def Missing (result : Except Errno Spot) : Prop :=
  result = .error .noEntry ∨ ∃ parent name slashed, result = .ok (.absent parent name slashed)

/-- What stood before a file was put where nothing stood. -/
theorem entry_put_of_some (hnew : t.entry? p = none) {q : Place} {e : Entry}
    (hentry : t.entry? q = some e) : FileTree.entry? (t.put p (.file bytes)) q = some e := by
  rw [entry_put, if_neg, hentry]
  rintro ⟨-, rfl⟩
  rw [hnew] at hentry
  cases hentry

/-- A new file makes no directory. -/
theorem isDirectory_put (hnew : t.entry? p = none) (q : Place) :
    FileTree.isDirectory (t.put p (.file bytes)) q = t.isDirectory q := by
  rw [isDirectory, isDirectory, entry_put]
  split_ifs with h
  · rw [h.2, hnew]
  · rfl

/-- **A new file changes no resolution** but those that came to where nothing stood. -/
theorem locate_put (hnew : t.entry? p = none) (follow : Bool) (links : Nat) (here : Place)
    (xs : List String) :
    FileTree.locate (t.put p (.file bytes)) follow links here xs = t.locate follow links here xs ∨
      Missing (t.locate follow links here xs) := by
  have hsame : ∀ q, FileTree.isDirectory (t.put p (.file bytes)) q = t.isDirectory q :=
    isDirectory_put hnew
  have hdirectory : ∀ {q}, ¬(!t.isDirectory q) = true →
      FileTree.isDirectory (t.put p (.file bytes)) q = true := by
    intro q hq
    rw [hsame]
    simpa using hq
  fun_induction locate t follow links here xs with
  | case1 links here => exact .inl (by rw [locate])
  | case2 links here name rest hhere =>
      left
      rw [locate, hsame, if_pos hhere]
  | case3 links here name rest hhere hname ih =>
      rw [locate_stay (hdirectory hhere) hname]
      exact ih
  | case4 links here rest hhere _ ih =>
      rw [locate_up (hdirectory hhere)]
      exact ih
  | case5 links here name rest hhere hstay hup hlong =>
      left
      rw [locate, hsame, if_neg hhere, if_neg hstay, if_neg hup, if_pos hlong]
  | case6 => exact .inr (.inr ⟨_, _, _, rfl⟩)
  | case7 => exact .inr (.inl rfl)
  | case8 links here name rest hhere hstay hup hlength place target hentry hlast =>
      have hkept : FileTree.entry? (t.put p (.file bytes)) (here ++ [name]) = some (.link target) :=
        entry_put_of_some hnew hentry
      left
      rw [locate, hsame, if_neg hhere, if_neg hstay, if_neg hup, if_neg hlength]
      simp only [hkept]
      rw [if_pos hlast]
  | case9 here name rest hhere hstay hup hlength place target hentry hlast =>
      have hkept : FileTree.entry? (t.put p (.file bytes)) (here ++ [name]) = some (.link target) :=
        entry_put_of_some hnew hentry
      left
      rw [locate, hsame, if_neg hhere, if_neg hstay, if_neg hup, if_neg hlength]
      simp only [hkept]
      rw [if_neg hlast]
  | case10 here name rest hhere hstay hup hlength place target hentry hlast links _ ih =>
      rw [locate_link ⟨hdirectory hhere, hstay, hup, hlength⟩ (entry_put_of_some hnew hentry)
        (by simpa using hlast)]
      exact ih
  | case11 links here name rest hhere hstay hup hlength place e hlink hentry ih =>
      rw [locate_enter ⟨hdirectory hhere, hstay, hup, hlength⟩ (entry_put_of_some hnew hentry)
        hlink]
      exact ih

/-- **A path names what it named**, if it named anything or failed for another reason. -/
theorem placeOf_put (hnew : t.entry? p = none) {follow : Bool} {path : String}
    (h : t.placeOf cwd follow path ≠ .error (.system .noEntry)) :
    FileTree.placeOf (t.put p (.file bytes)) cwd follow path = t.placeOf cwd follow path := by
  have hlocate := @locate_put t p bytes hnew follow maxLinks (origin cwd path) (Path.steps path)
  unfold placeOf resolve at h ⊢
  rw [← origin] at h ⊢
  rcases hlocate with heq | hmissing
  · rw [heq]
  · split_ifs at h ⊢
    · rfl
    · rfl
    · rfl
    · rcases hmissing with hmissing | ⟨parent, name, slashed, hmissing⟩
      · rw [hmissing] at h
        exact absurd rfl h
      · rw [hmissing] at h
        exact absurd rfl h

/-! ## What stays as it was -/

/-- The path names an entry, or fails for another reason than that something is missing. -/
def Settled (t : FileTree) (cwd : Place) (follow : Bool) (path : String) : Prop :=
  match t.placeOf cwd follow path with
  | .ok place => ∃ e, t.entry? place = some e
  | .error fault => fault ≠ .system .noEntry

namespace Settled

variable {follow : Bool} {path : String}

/-- Such a path names what it named. -/
theorem placeOf_put (h : Settled t cwd follow path) (hnew : t.entry? p = none) :
    FileTree.placeOf (t.put p (.file bytes)) cwd follow path = t.placeOf cwd follow path := by
  refine FileTree.placeOf_put hnew fun hmissing => ?_
  rw [Settled, hmissing] at h
  exact h rfl

/-- What stands at the place that it names stood there. -/
theorem entry_put (h : Settled t cwd follow path) (hnew : t.entry? p = none) {place : Place}
    (hplace : t.placeOf cwd follow path = .ok place) :
    FileTree.entry? (t.put p (.file bytes)) place = t.entry? place := by
  rw [Settled, hplace] at h
  obtain ⟨e, hentry⟩ := h
  rw [entry_put_of_some hnew hentry, hentry]

/-- It names an entry of the same kind. -/
theorem kindOf_put (h : Settled t cwd follow path) (hnew : t.entry? p = none) :
    FileTree.kindOf (t.put p (.file bytes)) cwd follow path = t.kindOf cwd follow path := by
  rw [kindOf, kindOf, h.placeOf_put hnew]
  cases hplace : t.placeOf cwd follow path with
  | error fault => rfl
  | ok place => simp only [h.entry_put hnew hplace]

/-- It names a file if it did. -/
theorem isFile_put (h : Settled t cwd true path) (hnew : t.entry? p = none) :
    FileTree.isFile (t.put p (.file bytes)) cwd path = t.isFile cwd path := by
  rw [isFile, isFile, h.kindOf_put hnew]

/-- The same is read by it. -/
theorem readItem_put (h : Settled t cwd true path) (hnew : t.entry? p = none) :
    FileTree.readItem (t.put p (.file bytes)) cwd path = t.readItem cwd path := by
  rw [readItem, readItem, readBytes, readBytes, h.placeOf_put hnew]
  cases hplace : t.placeOf cwd true path with
  | error fault => rfl
  | ok place => simp only [h.entry_put hnew hplace]

/-- The same directory is listed by it, or it fails as it did. -/
theorem list_put (h : Settled t cwd true path) (hnew : t.entry? p = none) (bytes : ByteArray) :
    (∃ fault, t.list cwd path = .error fault ∧
      FileTree.list (t.put p (.file bytes)) cwd path = .error fault) ∨
    ∃ place, t.placeOf cwd true path = .ok place ∧ t.list cwd path = .ok (t.children place) ∧
      FileTree.list (t.put p (.file bytes)) cwd path =
        .ok (FileTree.children (t.put p (.file bytes)) place) := by
  rw [list, list, h.placeOf_put hnew]
  cases hplace : t.placeOf cwd true path with
  | error fault => exact .inl ⟨fault, rfl, rfl⟩
  | ok place =>
      have hne : place ≠ p := by
        rintro rfl
        rw [Settled, hplace] at h
        obtain ⟨e, hentry⟩ := h
        rw [hnew] at hentry
        cases hentry
      have hlocked : (t.put p (.file bytes)).locked.contains place = t.locked.contains place := by
        rw [Bool.eq_iff_iff, List.contains_iff_mem, List.contains_iff_mem]
        simp [put, hne]
      simp only [isDirectory_put hnew, hlocked]
      split_ifs
      · exact .inl ⟨_, rfl, rfl⟩
      · exact .inl ⟨_, rfl, rfl⟩
      · exact .inr ⟨place, rfl, rfl, rfl⟩

end Settled

/-- A path that leads to an entry is settled, whether or not a link at its end is followed. -/
theorem settled_of_placeOf {path : String} {place : Place} {e : Entry}
    (h : t.placeOf cwd true path = .ok place) (hentry : t.entry? place = some e) (follow : Bool) :
    Settled t cwd follow path := by
  cases follow with
  | true =>
      rw [Settled, h]
      exact ⟨e, hentry⟩
  | false =>
      obtain ⟨-, hresolve⟩ := resolve_eq_locate (resolve_of_placeOf h)
      obtain ⟨-, hlocate⟩ := locate_of_resolve (resolve_of_placeOf h)
      obtain ⟨links, hfollows⟩ := exists_follows_of_locate hlocate
      obtain ⟨found, hfound, hor⟩ := hfollows.locate_false
      have hplaceOf : t.placeOf cwd false path = .ok found := by
        rw [placeOf, hresolve, hfound]
        rfl
      rw [Settled, hplaceOf]
      rcases hor with rfl | ⟨target, htarget⟩
      · exact ⟨e, hentry⟩
      · exact ⟨_, htarget⟩

/-- The name of an entry that is no link is not missing, whether or not a slash follows it. -/
theorem not_missing_locate_name {links : Nat} {here : Place} {name : String} {e : Entry}
    {ys : List String} (hname : IsName name) (hhere : t.isDirectory here = true)
    (hentry : t.entry? (here ++ [name]) = some e) (hlink : ∀ target, e ≠ .link target)
    (hys : ys = [name] ∨ ys = [name, ""]) : ¬Missing (t.locate true links here ys) := by
  obtain ⟨rest, rfl, hrest⟩ : ∃ rest, ys = name :: rest ∧ (rest = [] ∨ rest = [""]) := by
    rcases hys with rfl | rfl
    · exact ⟨[], rfl, .inl rfl⟩
    · exact ⟨[""], rfl, .inr rfl⟩
  have hstay : ¬(name = "" ∨ name = ".") := not_or.mpr ⟨hname.ne_empty, hname.ne_dot⟩
  by_cases hlength : maxNameLength < name.utf8ByteSize
  · rw [locate, if_neg (by simp [hhere]), if_neg hstay, if_neg hname.ne_dotdot, if_pos hlength]
    simp [Missing]
  · rw [locate_enter ⟨hhere, hstay, hname.ne_dotdot, hlength⟩ hentry hlink]
    rcases hrest with rfl | rfl
    · simp [locate, Missing]
    · by_cases hdirectory : t.isDirectory (here ++ [name]) = true
      · rw [locate_stay hdirectory (.inl rfl)]
        simp [locate, Missing]
      · rw [locate, if_pos (by simpa using hdirectory)]
        simp [Missing]

/-- A path whose steps do not come to where nothing stands does not fail for that reason. -/
theorem placeOf_ne_noEntry {follow : Bool} {path : String} (hne : path ≠ "")
    (h : ¬Missing (t.locate follow maxLinks (origin cwd path) (Path.steps path))) :
    t.placeOf cwd follow path ≠ .error (.system .noEntry) := by
  intro hplace
  unfold placeOf resolve at hplace
  rw [← origin] at hplace
  cases hlocate : t.locate follow maxLinks (origin cwd path) (Path.steps path) with
  | error errno =>
      rw [hlocate] at hplace h
      split_ifs at hplace with hnul hempty hlong
      · cases hplace
      · exact hne (by simpa using hempty)
      · cases hplace
      · obtain rfl : errno = .noEntry := IoFault.system.inj (Except.error.inj hplace)
        exact h (.inl rfl)
  | ok spot =>
      rw [hlocate] at hplace h
      split_ifs at hplace with hnul hempty hlong
      · cases hplace
      · exact hne (by simpa using hempty)
      · cases hplace
      · cases spot with
        | found place => cases hplace
        | absent parent name slashed => exact h (.inr ⟨parent, name, slashed, rfl⟩)

/-- **The path of a directory with the name of an entry added is settled**, unless the entry is a
link. -/
theorem settled_join {directory : Place} {path name : String} {e : Entry}
    (hpath : t.placeOf cwd true path = .ok directory) (hdirectory : t.isDirectory directory = true)
    (hname : IsName name) (hentry : t.entry? (directory ++ [name]) = some e)
    (hlink : ∀ target, e ≠ .link target) : Settled t cwd true (Path.join path name) := by
  obtain ⟨hne, links, hfollows⟩ := follows_of_placeOf hpath
  have horigin : origin cwd (Path.join path name) = origin cwd path := by
    rw [origin, Path.isAbsolute_join hne hname, origin]
  rw [Settled]
  cases hjoin : t.placeOf cwd true (Path.join path name) with
  | ok place => exact ⟨e, placeOf_join hpath hdirectory hname hentry hlink hjoin ▸ hentry⟩
  | error fault =>
      rintro rfl
      refine placeOf_ne_noEntry (Path.join_ne_empty hne hname) ?_ hjoin
      rw [horigin]
      rcases Path.steps_eq (Path.join path name) with hsteps | hsteps
      · rw [hsteps, Path.names_join hne hname, hfollows.locate_append true _ rfl]
        exact not_missing_locate_name hname hdirectory hentry hlink (.inl rfl)
      · rw [hsteps, Path.names_join hne hname, List.append_assoc,
          hfollows.locate_append true _ rfl]
        exact not_missing_locate_name hname hdirectory hentry hlink (.inr rfl)

/-- The directory of a new file lists what it did, and the new name. -/
theorem children_put (hwf : t.WellFormed) (hwf' : (t.put p (.file bytes)).WellFormed)
    (hnew : t.entry? p = none) (directory : Place) :
    (FileTree.children (t.put p (.file bytes)) directory).filter
        (fun child => decide (directory ++ [child.1] ≠ p)) = t.children directory := by
  have hmem : ∀ child, child ∈ (FileTree.children (t.put p (.file bytes)) directory).filter
      (fun child => decide (directory ++ [child.1] ≠ p)) ↔ child ∈ t.children directory := by
    rintro ⟨name, kind⟩
    rw [List.mem_filter, hwf'.mem_children, hwf.mem_children, decide_eq_true_iff]
    constructor
    · rintro ⟨⟨e, hentry, hkind⟩, hne⟩
      rw [entry_put, if_neg (fun h => hne h.2)] at hentry
      exact ⟨e, hentry, hkind⟩
    · rintro ⟨e, hentry, hkind⟩
      refine ⟨⟨e, entry_put_of_some hnew hentry, hkind⟩, ?_⟩
      rintro rfl
      rw [hnew] at hentry
      cases hentry
  let _ : Std.Irrefl fun a b : String × EntryKind => a.1 < b.1 := ⟨fun a => lt_irrefl a.1⟩
  let _ : Std.Antisymm fun a b : String × EntryKind => a.1 < b.1 :=
    ⟨fun a b h h' => absurd h' (lt_asymm h)⟩
  exact ((hwf'.pairwise_children directory).filter _).eq_of_mem_iff
    (hwf.pairwise_children directory) hmem

end Wording.FileTree
