import Mathlib.Logic.Relation
import Wording.Scan.Walk

/-!
# The visits of a walk, in order

* `Walk.Explores t cwd f pending made` — a walk with these visits pending makes the visits `made`,
  and is done.
* `Walk.Leads`, `Walk.Explores.mem_iff` — a walk makes exactly the visits that those pending lead to.
* `Walk.Explores.pairwise` — the order of the visits, from the order of what one visit leads to.
* **`Walk.Explores.thin`** — leaving out some visits of a walk leaves those of another walk.
* `Walk.exists_explores` — a walk is done some day if each visit leads on only so far.
* **`Walk.Explores.rest_spec`** — the items that are left in a walk are those of its visits, if no
  pending visit leads to more than a walk has the budget for.

The tree does not change meanwhile.  Nothing here depends on what a visit does.
-/

namespace Wording.Walk

variable {t : FileTree} {cwd : Place} {f : FileFilter}

/-! ## Visits made -/

/-- A walk with the `pending` visits makes the visits `made`, in this order, and is done. -/
inductive Explores (t : FileTree) (cwd : Place) (f : FileFilter) :
    List Visit → List Visit → Prop where
  | nil : Explores t cwd f [] []
  | cons {v : Visit} {pending made : List Visit}
      (hrest : Explores t cwd f ((visit t cwd f v).inner ++ pending) made) :
      Explores t cwd f (v :: pending) (v :: made)

/-- One visit leads to another, in no step or more. -/
def Leads (t : FileTree) (cwd : Place) (f : FileFilter) : Visit → Visit → Prop :=
  Relation.ReflTransGen fun v w => w ∈ (visit t cwd f v).inner

namespace Explores

variable {pending pending' made made' : List Visit}

/-- A walk makes the first pending visit first, and goes on with what that leads to. -/
theorem exists_of_cons {v : Visit} (h : Explores t cwd f (v :: pending) made) :
    ∃ rest, made = v :: rest ∧ Explores t cwd f ((visit t cwd f v).inner ++ pending) rest := by
  cases h with
  | cons hrest => exact ⟨_, rfl, hrest⟩

/-- What is pending first is visited first, with all it leads to. -/
theorem append (h : Explores t cwd f pending made) (h' : Explores t cwd f pending' made') :
    Explores t cwd f (pending ++ pending') (made ++ made') := by
  induction h with
  | nil => exact h'
  | cons _ ih => exact .cons (List.append_assoc _ _ _ ▸ ih)

/-- The visits to what is pending first come first. -/
theorem exists_of_append (h : Explores t cwd f (pending ++ pending') made) :
    ∃ first later, made = first ++ later ∧ Explores t cwd f pending first ∧
      Explores t cwd f pending' later := by
  generalize hall : pending ++ pending' = all at h
  induction h generalizing pending with
  | nil =>
      obtain ⟨rfl, rfl⟩ := List.append_eq_nil_iff.mp hall
      exact ⟨[], [], rfl, .nil, .nil⟩
  | @cons v rest made hrest ih =>
      cases pending with
      | nil =>
          obtain rfl : pending' = v :: rest := hall
          exact ⟨[], v :: made, rfl, .nil, .cons hrest⟩
      | cons w pending =>
          obtain ⟨rfl, hpending⟩ := List.cons.inj hall
          have hinner : (visit t cwd f w).inner ++ pending ++ pending' =
              (visit t cwd f w).inner ++ rest := by
            rw [List.append_assoc]
            exact congrArg _ hpending
          obtain ⟨first, later, rfl, hfirst, hlater⟩ := ih hinner
          exact ⟨w :: first, later, rfl, .cons hfirst, hlater⟩

/-- The visits to make are settled. -/
theorem unique (h : Explores t cwd f pending made) (h' : Explores t cwd f pending made') :
    made = made' := by
  induction h generalizing made' with
  | nil => cases h' with
    | nil => rfl
  | cons _ ih => cases h' with
    | cons hrest' => exact congrArg _ (ih hrest')

/-- **A walk makes exactly the visits that those pending lead to.** -/
theorem mem_iff (h : Explores t cwd f pending made) {w : Visit} :
    w ∈ made ↔ ∃ v ∈ pending, Leads t cwd f v w := by
  induction h with
  | nil => simp
  | @cons v pending made _ ih =>
      rw [List.mem_cons, ih]
      constructor
      · rintro (rfl | ⟨u, hu, hlead⟩)
        · exact ⟨w, List.mem_cons_self, .refl⟩
        · rcases List.mem_append.mp hu with hinner | hpending
          · exact ⟨v, List.mem_cons_self, .head hinner hlead⟩
          · exact ⟨u, List.mem_cons_of_mem _ hpending, hlead⟩
      · rintro ⟨u, hu, hlead⟩
        rcases List.mem_cons.mp hu with rfl | hpending
        · rcases Relation.ReflTransGen.cases_head hlead with rfl | ⟨x, hx, hlead⟩
          · exact .inl rfl
          · exact .inr ⟨x, List.mem_append_left _ hx, hlead⟩
        · exact .inr ⟨u, List.mem_append_right _ hpending, hlead⟩

/-- What holds of the pending visits holds of all visits that are made, if a visit leads only to
visits of which it holds again. -/
theorem forall_mem {P : Visit → Prop} (hP : ∀ v, P v → ∀ w ∈ (visit t cwd f v).inner, P w)
    (h : Explores t cwd f pending made) (hpending : ∀ v ∈ pending, P v) : ∀ v ∈ made, P v := by
  induction h with
  | nil => exact nofun
  | @cons v pending made _ ih =>
      obtain ⟨hv, htail⟩ := List.forall_mem_cons.mp hpending
      exact List.forall_mem_cons.mpr
        ⟨hv, ih (List.forall_mem_append.mpr ⟨hP v hv, htail⟩)⟩

/-- **The order of the visits.**  It is enough that a visit comes before what it leads to, and that
of two visits that one leads to, the first comes before the second with all they lead to. -/
theorem pairwise {R : Visit → Visit → Prop}
    (hdown : ∀ v, ∀ u ∈ (visit t cwd f v).inner, ∀ w, Leads t cwd f u w → R v w)
    (hside : ∀ v, (visit t cwd f v).inner.Pairwise fun a b =>
      ∀ a' b', Leads t cwd f a a' → Leads t cwd f b b' → R a' b')
    (h : Explores t cwd f pending made)
    (hpending : pending.Pairwise fun a b =>
      ∀ a' b', Leads t cwd f a a' → Leads t cwd f b b' → R a' b') : made.Pairwise R := by
  induction h with
  | nil => exact .nil
  | @cons v pending made hrest ih =>
      obtain ⟨hv, htail⟩ := List.pairwise_cons.mp hpending
      refine List.pairwise_cons.mpr ⟨?_, ih ?_⟩
      · intro w hw
        obtain ⟨u, hu, hlead⟩ := hrest.mem_iff.mp hw
        rcases List.mem_append.mp hu with hinner | hpending
        · exact hdown v u hinner w hlead
        · exact hv u hpending v w .refl hlead
      · refine List.pairwise_append.mpr ⟨hside v, htail, ?_⟩
        -- what `v` leads to is visited in the place of `v`, so before what was pending behind it
        intro a ha b hb a' b' hlead hlead'
        exact hv b hb a' b' (.head ha hlead) hlead'

/-- **A walk within a walk.**  If of what a visit leads to in one walk those visits are kept that it
leads to in another, and none where the visit itself is not kept, then the visits kept of the one
walk are those of the other.  It is enough that this holds of the visits with a property that the
walk preserves. -/
theorem thin {t' : FileTree} {cwd' : Place} {f' : FileFilter} {P : Visit → Prop}
    {keep : Visit → Bool} (hP : ∀ v, P v → ∀ w ∈ (visit t cwd f v).inner, P w)
    (hkeep : ∀ v, P v → (visit t cwd f v).inner.filter keep =
      if keep v then (visit t' cwd' f' v).inner else [])
    (h : Explores t cwd f pending made) (hpending : ∀ v ∈ pending, P v) :
    Explores t' cwd' f' (pending.filter keep) (made.filter keep) := by
  induction h with
  | nil => exact .nil
  | @cons v pending made _ ih =>
      obtain ⟨hv, htail⟩ := List.forall_mem_cons.mp hpending
      have hrest := ih (List.forall_mem_append.mpr ⟨hP v hv, htail⟩)
      rw [List.filter_append, hkeep v hv] at hrest
      cases hkept : keep v with
      | true =>
          rw [List.filter_cons_of_pos hkept, List.filter_cons_of_pos hkept]
          rw [if_pos hkept] at hrest
          exact .cons hrest
      | false =>
          have hnot : ¬keep v = true := by simp [hkept]
          rw [List.filter_cons_of_neg hnot, List.filter_cons_of_neg hnot]
          rwa [if_neg hnot, List.nil_append] at hrest

end Explores

/-! ## Walks that end -/

/-- Visits that each can be explored can be explored one after another. -/
theorem exists_explores_of_each {pending : List Visit}
    (h : ∀ v ∈ pending, ∃ made, Explores t cwd f [v] made) :
    ∃ made, Explores t cwd f pending made := by
  induction pending with
  | nil => exact ⟨[], .nil⟩
  | cons v pending ih =>
      obtain ⟨first, hfirst⟩ := h v List.mem_cons_self
      obtain ⟨later, hlater⟩ := ih fun w hw => h w (List.mem_cons_of_mem _ hw)
      exact ⟨first ++ later, hfirst.append hlater⟩

/-- **A walk ends** if a visit leads only to visits of a smaller rank, as far as an invariant of
the visits holds. -/
theorem exists_explores (P : Visit → Prop) (rank : Visit → Nat)
    (hP : ∀ v, P v → ∀ w ∈ (visit t cwd f v).inner, P w ∧ rank w < rank v)
    {v : Visit} (hv : P v) : ∃ made, Explores t cwd f [v] made := by
  induction hn : rank v using Nat.strongRecOn generalizing v with
  | _ n ih =>
      subst hn
      have heach : ∀ w ∈ (visit t cwd f v).inner, ∃ made, Explores t cwd f [w] made := by
        intro w hw
        obtain ⟨hPw, hlt⟩ := hP v hv w hw
        exact ih _ hlt hPw rfl
      obtain ⟨made, hmade⟩ := exists_explores_of_each heach
      exact ⟨v :: made, .cons (by rwa [List.append_nil])⟩

/-! ## The budget is enough -/

/-- The visit leads to no more than `bound` visits, itself among them. -/
def Light (t : FileTree) (cwd : Place) (f : FileFilter) (bound : Nat) (v : Visit) : Prop :=
  ∃ made, Explores t cwd f [v] made ∧ made.length ≤ bound

/-- What a light visit leads to is light. -/
theorem Light.inner {bound : Nat} {v w : Visit} (h : Light t cwd f bound v)
    (hw : w ∈ (visit t cwd f v).inner) : Light t cwd f bound w := by
  obtain ⟨made, hexplores, hlength⟩ := h
  obtain ⟨rest, rfl, hrest⟩ := hexplores.exists_of_cons
  obtain ⟨before, after, hinner⟩ := List.append_of_mem hw
  -- the visits that `w` leads to lie between those of the visits before it and after it
  rw [List.append_nil, hinner, ← List.singleton_append, ← List.append_assoc] at hrest
  obtain ⟨first, _, rfl, hfirst, -⟩ := hrest.exists_of_append
  obtain ⟨_, here, rfl, -, hhere⟩ := hfirst.exists_of_append
  refine ⟨here, hhere, ?_⟩
  simp only [List.length_cons, List.length_append] at hlength
  omega

/-- Light visits lead to no more than so many visits each. -/
theorem Explores.length_le {bound : Nat} {pending made : List Visit}
    (h : Explores t cwd f pending made) (hlight : ∀ v ∈ pending, Light t cwd f bound v) :
    made.length ≤ pending.length * bound := by
  induction pending generalizing made with
  | nil =>
      cases h
      simp
  | cons v pending ih =>
      rw [← List.singleton_append] at h
      obtain ⟨first, later, rfl, hfirst, hlater⟩ := h.exists_of_append
      obtain ⟨first', hfirst', hlength⟩ := hlight v List.mem_cons_self
      obtain rfl := hfirst.unique hfirst'
      have hrest := ih hlater fun w hw => hlight w (List.mem_cons_of_mem _ hw)
      rw [List.length_append, List.length_cons, Nat.add_mul, Nat.one_mul]
      omega

/-! ## The items of a walk -/

/-- The items that come of visits. -/
def itemsOf (t : FileTree) (cwd : Place) (f : FileFilter) (made : List Visit) : List Item :=
  made.filterMap fun v => (visit t cwd f v).item

/-- The item of the first visit comes first, if it has one. -/
theorem itemsOf_cons (v : Visit) (made : List Visit) :
    itemsOf t cwd f (v :: made) = (visit t cwd f v).item.toList ++ itemsOf t cwd f made := by
  rw [itemsOf, List.filterMap_cons]
  cases (visit t cwd f v).item with
  | none => rfl
  | some item => rfl

/-- **The next item** is that of the first visit that has one; the visits after it are left.  With
fuel for all visits the walk does not stop before. -/
theorem nextWithin_spec {bound fuel : Nat} {pending made : List Visit}
    (h : Explores t cwd f pending made) (hlight : ∀ v ∈ pending, Light t cwd f bound v)
    (hfuel : made.length ≤ fuel) :
    (itemsOf t cwd f made = [] ∧ (nextWithin t cwd fuel ⟨f, pending⟩).2 = (none, ⟨f, []⟩)) ∨
      ∃ item pending' left,
        itemsOf t cwd f made = item :: itemsOf t cwd f left ∧
        (nextWithin t cwd fuel ⟨f, pending⟩).2 = (some item, ⟨f, pending'⟩) ∧
        Explores t cwd f pending' left ∧ ∀ v ∈ pending', Light t cwd f bound v := by
  induction fuel generalizing pending made with
  | zero =>
      -- no fuel is left only where no visit is left
      obtain rfl : made = [] := List.eq_nil_of_length_eq_zero (Nat.le_zero.mp hfuel)
      cases h
      exact .inl ⟨rfl, rfl⟩
  | succ fuel ih =>
      cases h with
      | nil => exact .inl ⟨rfl, rfl⟩
      | @cons v pending made hrest =>
          have hlight' : ∀ u ∈ (visit t cwd f v).inner ++ pending, Light t cwd f bound u := by
            intro u hu
            rcases List.mem_append.mp hu with hinner | hpending
            · exact (hlight v List.mem_cons_self).inner hinner
            · exact hlight u (List.mem_cons_of_mem _ hpending)
          cases hitem : (visit t cwd f v).item with
          | some item =>
              refine .inr ⟨item, (visit t cwd f v).inner ++ pending, made, ?_, ?_, hrest, hlight'⟩
              · rw [itemsOf_cons, hitem]
                rfl
              · simp only [nextWithin, hitem]
          | none =>
              have hitems : itemsOf t cwd f (v :: made) = itemsOf t cwd f made := by
                rw [itemsOf_cons, hitem]
                rfl
              have hnext : (nextWithin t cwd (fuel + 1) ⟨f, v :: pending⟩).2 =
                  (nextWithin t cwd fuel ⟨f, (visit t cwd f v).inner ++ pending⟩).2 := by
                simp only [nextWithin, hitem]
              rw [hitems, hnext]
              exact ih hrest hlight' (Nat.le_of_succ_le_succ hfuel)

/-- The visits that a walk in the tree has the budget for, for each that is pending. -/
def share (t : FileTree) : Nat :=
  2 * (t.entries.length + 1)

/-- All items that are left, as far as there is fuel for them; then the walk is over. -/
theorem restWithin_spec {fuel : Nat} {pending made : List Visit}
    (h : Explores t cwd f pending made) (hlight : ∀ v ∈ pending, Light t cwd f (share t) v)
    (hfuel : (itemsOf t cwd f made).length < fuel) :
    (restWithin t cwd fuel ⟨f, pending⟩).1.map (·.2) = itemsOf t cwd f made ∧
      (restWithin t cwd fuel ⟨f, pending⟩).2.2 = ⟨f, []⟩ := by
  induction fuel generalizing pending made with
  | zero => omega
  | succ fuel ih =>
      rcases nextWithin_spec h hlight (h.length_le hlight) with
        ⟨hitems, hnext⟩ | ⟨item, pending', left, hitems, hnext, hrest, hlight'⟩
      · obtain ⟨records, hstep⟩ : ∃ records,
            next t cwd ⟨f, pending⟩ = (records, none, ⟨f, []⟩) := ⟨_, Prod.ext rfl hnext⟩
        rw [hitems, restWithin, hstep]
        exact ⟨rfl, rfl⟩
      · obtain ⟨records, hstep⟩ : ∃ records,
            next t cwd ⟨f, pending⟩ = (records, some item, ⟨f, pending'⟩) :=
          ⟨_, Prod.ext rfl hnext⟩
        have hleft : (itemsOf t cwd f left).length < fuel := by
          rw [hitems, List.length_cons] at hfuel
          omega
        obtain ⟨hmap, hover⟩ := ih hrest hlight' hleft
        rw [hitems, restWithin, hstep, ← hmap]
        exact ⟨rfl, hover⟩

/-- **All items that are left in a walk are those of its visits**, if each pending visit leads to no
more than a walk has the budget for; then the walk is over. -/
theorem Explores.rest_spec {pending made : List Visit} (h : Explores t cwd f pending made)
    (hlight : ∀ v ∈ pending, Light t cwd f (share t) v) :
    ((⟨f, pending⟩ : Walk).rest t cwd).1.map (·.2) = itemsOf t cwd f made ∧
      ((⟨f, pending⟩ : Walk).rest t cwd).2.2 = ⟨f, []⟩ := by
  refine restWithin_spec h hlight ?_
  have hitems : (itemsOf t cwd f made).length ≤ made.length := List.length_filterMap_le _ _
  have hmade : made.length ≤ budget t ⟨f, pending⟩ := h.length_le hlight
  omega

end Wording.Walk
