import Mathlib.Logic.Relation
import Wording.Proofs.FileTree.Growth

/-!
# Where new directories stand

* `FileTree.LeadsTo` — the names of a path lead to a place.
* `Path.IsAbove` — a path is the parent of another, or a parent of that, and so on.
* `FileTree.OnTheWay` — a place is where the names of a path above lead.
* `FileTree.makeParents_leadsTo` — each new directory stands where one of the paths leads that were
  to be made.
* **`FileTree.makeDirectories_leadsTo`** — each new directory stands where the path leads, or a path
  above it.
* `FileTree.makeDirectories_eq_self` — no directory is made if the path names one.

A directory that is made stands where its path leads from then on: what stands is never taken away
again, so the path still leads there when all directories have been made.
-/

namespace Wording

/-- The path is the parent of the other, or a parent of that, and so on. -/
def Path.IsAbove (above path : String) : Prop :=
  Relation.TransGen (fun p parent => Path.parent? p = some parent) path above

namespace FileTree

variable {t t' : FileTree} {cwd : Place}

/-- The names of the path lead to the place. -/
def LeadsTo (t : FileTree) (cwd : Place) (path : String) (p : Place) : Prop :=
  ∃ links, Follows t maxLinks (origin cwd path) (Path.names path) links p

/-- A path above leads to the place. -/
def OnTheWay (t : FileTree) (cwd : Place) (path : String) (p : Place) : Prop :=
  ∃ above, Path.IsAbove above path ∧ t.LeadsTo cwd above p

/-- Names still lead where they led in a tree that keeps what stood. -/
theorem LeadsTo.keeps {path : String} {p : Place} (h : t.LeadsTo cwd path p) (hkeeps : Keeps t t') :
    t'.LeadsTo cwd path p := by
  obtain ⟨links, hfollows⟩ := h
  exact ⟨links, hkeeps.follows hfollows⟩

/-- What was on the way to a path still is in a tree that keeps what stood. -/
theorem OnTheWay.keeps {path : String} {p : Place} (h : t.OnTheWay cwd path p)
    (hkeeps : Keeps t t') : t'.OnTheWay cwd path p := by
  obtain ⟨above, habove, hleads⟩ := h
  exact ⟨above, habove, hleads.keeps hkeeps⟩

/-! ## Directories that are made -/

/-- **A directory that is made** stands where nothing stood, and its path leads there. -/
theorem make_eq_ok {path : String} (h : t.make cwd path .directory = .ok t') :
    ∃ p, t' = t.put p .directory ∧ t'.LeadsTo cwd path p := by
  have hgrows := grows_make h
  unfold make at h
  split at h
  · cases h
  · cases h
  · next parent name slashed hspot =>
    obtain rfl := Except.ok.inj h
    obtain ⟨before, links, hnames, hbefore, hname, -⟩ := follows_of_resolve_absent hspot
    have hentry : FileTree.entry? (t.put (parent ++ [name]) .directory) (parent ++ [name]) =
        some .directory := by
      rw [entry_put, if_pos (by simp)]
    refine ⟨_, rfl, links, ?_⟩
    rw [hnames]
    exact (hgrows.keeps.follows hbefore).append
      (.enter (hgrows.keeps.canFollow hname) hentry nofun (.done links _))

/-- What stands after a directory has been made stood before, or is that directory. -/
theorem leadsTo_of_make {path : String} {p : Place} {e : Entry}
    (h : t.make cwd path .directory = .ok t') (hnone : t.entry? p = none)
    (hentry : t'.entry? p = some e) : t'.LeadsTo cwd path p := by
  obtain ⟨q, rfl, hleads⟩ := make_eq_ok h
  rw [entry_put] at hentry
  split at hentry
  · next hp => exact hp.2 ▸ hleads
  · rw [hnone] at hentry
    cases hentry

/-- **Each new directory stands where one of the paths leads** that were to be made.  What is new has
come with the directory that was made last, or had come before; then its path still leads there. -/
theorem makeParents_leadsTo (t : FileTree) (cwd : Place) (paths : List String) {p : Place}
    {e : Entry} (hnone : t.entry? p = none)
    (hentry : FileTree.entry? (t.makeParents cwd paths).1 p = some e) :
    ∃ path ∈ paths, FileTree.LeadsTo (t.makeParents cwd paths).1 cwd path p := by
  revert e
  apply makeParents_induction
    (motive := fun t' => ∀ {e}, t'.entry? p = some e → ∃ path ∈ paths, t'.LeadsTo cwd path p)
  · intro before after path hpath hbefore hmake e hentry
    cases hold : before.entry? p with
    | none => exact ⟨path, hpath, leadsTo_of_make hmake hold hentry⟩
    | some d =>
        obtain ⟨q, hq, hleads⟩ := hbefore hold
        exact ⟨q, hq, hleads.keeps (grows_make hmake).keeps⟩
  · intro e hentry
    rw [hnone] at hentry
    cases hentry

/-- The paths on the way to a path are the path itself and those above it. -/
theorem eq_or_isAbove_of_mem_ancestors {fuel : Nat} {path ancestor : String}
    (h : ancestor ∈ ancestors fuel path) : ancestor = path ∨ Path.IsAbove ancestor path := by
  induction fuel generalizing path with
  | zero => cases h
  | succ fuel ih =>
      rw [ancestors, List.mem_cons] at h
      rcases h with rfl | h
      · exact .inl rfl
      · right
        split at h
        · next parent hparent =>
          rcases ih h with rfl | habove
          · exact .single hparent
          · exact .head hparent habove
        · cases h

/-- **Each new directory stands where the path leads, or a path above it.** -/
theorem makeDirectories_leadsTo (t : FileTree) (cwd : Place) (path : String) {p : Place} {e : Entry}
    (hnone : t.entry? p = none)
    (hentry : FileTree.entry? (t.makeDirectories cwd path).1 p = some e) :
    ∃ q, (q = path ∨ Path.IsAbove q path) ∧
      FileTree.LeadsTo (t.makeDirectories cwd path).1 cwd q p := by
  obtain ⟨q, hq, hleads⟩ := makeParents_leadsTo t cwd _ hnone hentry
  exact ⟨q, eq_or_isAbove_of_mem_ancestors hq, hleads⟩

/-! ## Directories that are there -/

/-- A path that breaks off does not name anything. -/
theorem BreaksOff.placeOf_ne {path : String} {after : List String} {place : Place}
    (h : t.BreaksOff cwd path after) : t.placeOf cwd true path ≠ .ok place := by
  obtain ⟨before, name, links, here, hnames, hfollows, hname, hnone⟩ := h
  intro hplace
  obtain ⟨-, links', hleads⟩ := follows_of_placeOf hplace
  have hlocate := hleads.locate_eq
  rw [hnames, hfollows.locate_append true (name :: after) rfl, locate_name hname,
    hnone] at hlocate
  simp only at hlocate
  split at hlocate <;> cases hlocate

/-- **No directory is made if the path names one.** -/
theorem makeDirectories_eq_self {path : String} (h : t.isDirectoryPath cwd path = true) :
    (t.makeDirectories cwd path).1 = t := by
  refine (makeDirectories_eq_or_breaksOff t cwd path).resolve_right ?_
  rintro ⟨after, hbreaks⟩
  unfold isDirectoryPath kindOf at h
  cases hplace : t.placeOf cwd true path with
  | error fault => simp [hplace] at h
  | ok place => exact hbreaks.placeOf_ne hplace

end FileTree

end Wording
