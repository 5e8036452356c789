import Mathlib.Data.String.Basic
import Wording.Proofs.FileTree.WellFormed

/-!
# What a directory lists

* `FileTree.WellFormed.mem_children` — a directory lists the entries right below it, with their
  kinds.
* **`FileTree.WellFormed.pairwise_children`** — the names it lists strictly increase.
-/

namespace Wording.FileTree

variable {t : FileTree}

/-! ## Entries and children -/

/-- What stands at a place is what is listed there. -/
theorem WellFormed.mem_entries_iff (h : t.WellFormed) {p : Place} {e : Entry} :
    (p, e) ∈ t.entries ↔ t.entries.lookup p = some e := by
  obtain ⟨hnodup, -⟩ := h
  generalize t.entries = entries at hnodup
  induction entries with
  | nil => simp
  | cons entry rest ih =>
      obtain ⟨q, d⟩ := entry
      obtain ⟨hq, hrest⟩ := List.nodup_cons.mp hnodup
      by_cases hpq : p = q
      · subst hpq
        have hnot : (p, e) ∉ rest := by
          intro hmem
          have hmap := List.mem_map_of_mem (f := (·.1)) hmem
          exact hq hmap
        simp [hnot, eq_comm]
      · have hbeq : (p == q) = false := beq_false_of_ne hpq
        rw [List.lookup_cons, hbeq]
        simp [hpq, ih hrest]

/-- An entry below a directory is listed at its place. -/
theorem WellFormed.mem_entries_append_iff (h : t.WellFormed) {directory : Place} {name : String}
    {e : Entry} :
    (directory ++ [name], e) ∈ t.entries ↔ t.entry? (directory ++ [name]) = some e := by
  rw [h.mem_entries_iff, entry?]
  simp

/-- A name of a place in a directory is what follows the directory's place. -/
theorem childName?_eq_some_iff {directory p : Place} {name : String} :
    childName? directory p = some name ↔ p = directory ++ [name] := by
  unfold childName?
  constructor
  · intro h
    split at h
    · next hlast =>
      rw [← hlast, List.dropLast_append_getLast? _ h]
    · cases h
  · rintro rfl
    simp

/-- **A directory lists the entries right below it**, with their kinds. -/
theorem WellFormed.mem_children (h : t.WellFormed) {directory : Place} {name : String}
    {kind : EntryKind} :
    (name, kind) ∈ t.children directory ↔
      ∃ e, t.entry? (directory ++ [name]) = some e ∧ e.kind = kind := by
  rw [children, List.mem_mergeSort, List.mem_filterMap]
  constructor
  · rintro ⟨⟨p, e⟩, hmem, hchild⟩
    obtain ⟨name', hname, heq⟩ := Option.map_eq_some_iff.mp hchild
    obtain ⟨rfl, rfl⟩ := Prod.mk.inj heq
    obtain rfl := childName?_eq_some_iff.mp hname
    exact ⟨e, h.mem_entries_append_iff.mp hmem, rfl⟩
  · rintro ⟨e, hentry, rfl⟩
    refine ⟨(directory ++ [name], e), h.mem_entries_append_iff.mpr hentry, ?_⟩
    rw [childName?_eq_some_iff.mpr rfl, Option.map_some]

/-- What stands in a directory has a name. -/
theorem WellFormed.isName (h : t.WellFormed) {directory : Place} {name : String} {e : Entry}
    (hentry : t.entry? (directory ++ [name]) = some e) : IsName name :=
  h.named _ (List.mem_map_of_mem (h.mem_entries_append_iff.mpr hentry)) name (by simp)

/-- What stands below a place has a path of names from there. -/
theorem WellFormed.isName_of_mem (h : t.WellFormed) {top below : Place} {e : Entry}
    (hne : below ≠ []) (hentry : t.entry? (top ++ below) = some e) :
    ∀ name ∈ below, IsName name := by
  obtain ⟨most, last, rfl⟩ := (List.eq_nil_or_concat below).resolve_left hne
  rw [List.concat_eq_append] at hentry ⊢
  rw [← List.append_assoc] at hentry
  intro name hname
  refine h.named _ (List.mem_map_of_mem (h.mem_entries_append_iff.mpr hentry)) name ?_
  rw [List.append_assoc]
  exact List.mem_append_right _ hname

/-- The place of a directory in a well-formed tree is made of names. -/
theorem WellFormed.named_of_isDirectory (hwf : t.WellFormed) {p : Place}
    (h : t.isDirectory p = true) : Named p := by
  rcases eq_or_ne p [] with rfl | hne
  · exact List.forall_mem_nil _
  · have hentry : t.entry? ([] ++ p) = some .directory := isDirectory_iff.mp h
    exact hwf.isName_of_mem hne hentry

/-- No name is listed twice in a directory. -/
theorem WellFormed.nodup_children (h : t.WellFormed) (directory : Place) :
    ((t.children directory).map (·.1)).Nodup := by
  have hperm := (List.mergeSort_perm (t.entries.filterMap fun e =>
    (childName? directory e.1).map fun name => (name, e.2.kind)) fun a b => !(b.1 < a.1)).map (·.1)
  rw [children, hperm.nodup_iff]
  have hnames : (t.entries.filterMap fun e =>
      (childName? directory e.1).map fun name => (name, e.2.kind)).map (·.1) =
      (t.entries.map (·.1)).filterMap (childName? directory) := by
    rw [List.map_filterMap, List.filterMap_map]
    exact List.filterMap_congr fun e _ => by simp [Function.comp_def]
  rw [hnames]
  refine h.nodup.filterMap ?_
  intro p q name hp hq
  rw [childName?_eq_some_iff.mp hp, childName?_eq_some_iff.mp hq]

/-- **The names that a directory lists strictly increase.** -/
theorem WellFormed.pairwise_children (h : t.WellFormed) (directory : Place) :
    (t.children directory).Pairwise fun a b => a.1 < b.1 := by
  have hsorted : (t.children directory).Pairwise fun a b => (!decide (b.1 < a.1)) = true := by
    refine List.pairwise_mergeSort ?_ ?_ _
    · intro a b c hab hbc
      simp only [Bool.not_eq_true', decide_eq_false_iff_not, not_lt] at hab hbc ⊢
      exact hab.trans hbc
    · intro a b
      simp only [Bool.or_eq_true, Bool.not_eq_true', decide_eq_false_iff_not, not_lt]
      exact le_total a.1 b.1
  have hne : (t.children directory).Pairwise fun a b => a.1 ≠ b.1 :=
    List.pairwise_map.mp (h.nodup_children directory)
  refine (hsorted.and hne).imp ?_
  rintro a b ⟨hle, hne⟩
  simp only [Bool.not_eq_true', decide_eq_false_iff_not, not_lt] at hle
  exact lt_of_le_of_ne hle hne

end Wording.FileTree
