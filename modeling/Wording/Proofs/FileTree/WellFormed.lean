import Mathlib.Data.List.Nodup
import Wording.CommandLine.Init
import Wording.Proofs.FileTree.Resolution

/-!
# Well-formed trees

* `FileTree.Named` — the place is made of names.
* `FileTree.WellFormed` — no place is listed twice, and every place is made of names.
* `FileTree.Named.resolve` — a path leads to a place that is made of names, there or still to be.
* `FileTree.makeParents_induction` — what is preserved when directories are made.
* `FileTree.WellFormed.writeFile`, `FileTree.WellFormed.makeDirectories`,
  `FileTree.WellFormed.remove` — what is written, made or removed leaves a tree well formed.
* **`InitOptions.wellFormed_run`** — and so does the command that makes a rules file.

A path is cut at its slashes, and empty pieces and dots are followed without being entered; so what
resolution adds to a place is a name.
-/

namespace Wording

/-- The place of what a path leads to, there or still to be. -/
def Spot.place : Spot → Place
  | .found place => place
  | .absent parent name _ => parent ++ [name]

namespace FileTree

variable {t : FileTree} {cwd : Place}

/-- The place is made of names. -/
def Named (p : Place) : Prop :=
  ∀ name ∈ p, IsName name

/-- A tree as file systems have them: no place is listed twice, and every place is made of names. -/
structure WellFormed (t : FileTree) : Prop where
  nodup : (t.entries.map (·.1)).Nodup
  named : ∀ p ∈ t.entries.map (·.1), Named p

instance : DecidablePred Named := fun p =>
  inferInstanceAs (Decidable (∀ name ∈ p, IsName name))

instance : DecidablePred WellFormed := fun t =>
  decidable_of_iff ((t.entries.map (·.1)).Nodup ∧ ∀ p ∈ t.entries.map (·.1), Named p)
    ⟨fun ⟨hnodup, hnamed⟩ => ⟨hnodup, hnamed⟩, fun ⟨hnodup, hnamed⟩ => ⟨hnodup, hnamed⟩⟩

/-! ## Places that paths lead to -/

/-- A place above one made of names is made of names. -/
theorem Named.dropLast {p : Place} (h : Named p) : Named p.dropLast :=
  fun name hname => h name (List.dropLast_subset p hname)

/-- A name that can be followed and has no slash in it is the name of a place below. -/
theorem Named.concat {p : Place} {name : String} (h : Named p)
    (hstay : ¬(name = "" ∨ name = ".")) (hup : ¬name = "..") (hslash : '/' ∉ name.toList) :
    Named (p ++ [name]) := by
  intro n hn
  rcases List.mem_append.mp hn with hn | hn
  · exact h n hn
  · obtain rfl := List.mem_singleton.mp hn
    exact ⟨fun heq => hstay (.inl heq), fun heq => hstay (.inr heq), hup, hslash⟩

/-- **Following steps without slashes leads to a place made of names.** -/
theorem Named.locate {follow : Bool} {links : Nat} {here : Place} {xs : List String} {spot : Spot}
    (h : Named here) (hxs : ∀ step ∈ xs, '/' ∉ step.toList)
    (hspot : t.locate follow links here xs = .ok spot) : Named spot.place := by
  fun_induction FileTree.locate t follow links here xs with
  | case1 links here =>
      obtain rfl := Except.ok.inj hspot
      exact h
  | case3 links here name rest _ _ ih =>
      exact ih h (fun step hstep => hxs step (List.mem_cons_of_mem _ hstep)) hspot
  | case4 links here rest _ _ ih =>
      exact ih h.dropLast (fun step hstep => hxs step (List.mem_cons_of_mem _ hstep)) hspot
  | case6 links here name rest _ hstay hup =>
      obtain rfl := Except.ok.inj hspot
      exact h.concat hstay hup (hxs name List.mem_cons_self)
  | case8 links here name rest _ hstay hup =>
      obtain rfl := Except.ok.inj hspot
      exact h.concat hstay hup (hxs name List.mem_cons_self)
  | case10 here name rest _ _ _ _ _ target _ _ links start ih =>
      refine ih ?_ ?_ hspot
      · unfold start
        split
        · exact fun _ hname => absurd hname List.not_mem_nil
        · exact h
      · intro step hstep
        rcases List.mem_append.mp hstep with hstep | hstep
        · exact Path.no_slash_of_mem_steps hstep
        · exact hxs step (List.mem_cons_of_mem _ hstep)
  | case11 links here name rest _ hstay hup _ _ e _ _ ih =>
      exact ih (h.concat hstay hup (hxs name List.mem_cons_self))
        (fun step hstep => hxs step (List.mem_cons_of_mem _ hstep)) hspot
  | _ => cases hspot

/-- **A path leads to a place that is made of names**, there or still to be. -/
theorem Named.resolve (hcwd : Named cwd) {follow : Bool} {path : String} {spot : Spot}
    (h : t.resolve cwd follow path = .ok spot) : Named spot.place := by
  refine Named.locate ?_ (fun step hstep => Path.no_slash_of_mem_steps hstep)
    (locate_of_resolve h).2
  unfold origin
  split
  · exact fun _ hname => absurd hname List.not_mem_nil
  · exact hcwd

/-! ## Trees that are written -/

/-- What each making of a directory preserves holds after the making of several, also if it fails on
the way. -/
theorem makeParents_induction {motive : FileTree → Prop} {paths : List String}
    (hmake : ∀ t t', ∀ path ∈ paths, motive t → t.make cwd path .directory = .ok t' → motive t')
    (h : motive t) : motive (t.makeParents cwd paths).1 := by
  induction paths with
  | nil => exact h
  | cons path parents ih =>
      have hfirst : ∀ {t t'}, motive t → t.make cwd path .directory = .ok t' → motive t' :=
        fun ht hmade => hmake _ _ path List.mem_cons_self ht hmade
      have hparents : motive (t.makeParents cwd parents).1 :=
        ih fun t t' q hq => hmake t t' q (List.mem_cons_of_mem _ hq)
      unfold makeParents
      split
      · exact h
      · split
        · next hmade => exact hfirst h hmade
        · split
          · next heq => rwa [heq] at hparents
          · next heq =>
            rw [heq] at hparents
            split
            · next hmade => exact hfirst hparents hmade
            · split <;> exact hparents
        · split <;> exact h

namespace WellFormed

/-- The empty tree is well formed. -/
theorem empty : WellFormed {} where
  nodup := List.nodup_nil
  named _ hp := absurd hp List.not_mem_nil

/-- Putting an entry at a place made of names keeps a tree well formed. -/
theorem put (h : t.WellFormed) {p : Place} (hp : Named p) (e : Entry) :
    (t.put p e).WellFormed where
  nodup := by
    refine List.nodup_cons.mpr ⟨by simp, h.nodup.sublist ?_⟩
    exact List.filter_sublist.map _
  named := by
    intro q hq
    rcases List.mem_cons.mp hq with rfl | hq
    · exact hp
    · exact h.named q ((List.filter_sublist.map _).subset hq)

/-- Erasing keeps a tree well formed. -/
theorem erase (h : t.WellFormed) (p : Place) : (t.erase p).WellFormed where
  nodup := h.nodup.sublist (List.filter_sublist.map _)
  named q hq := h.named q ((List.filter_sublist.map _).subset hq)

/-- Making something new keeps a tree well formed. -/
theorem make (h : t.WellFormed) (hcwd : Named cwd) {path : String} {e : Entry} {t' : FileTree}
    (hmake : t.make cwd path e = .ok t') : t'.WellFormed := by
  unfold FileTree.make at hmake
  split at hmake
  · cases hmake
  · cases hmake
  · next hspot =>
    obtain rfl := Except.ok.inj hmake
    exact h.put (hcwd.resolve hspot) e

/-- **Making directories keeps a tree well formed**, also if it fails on the way. -/
theorem makeDirectories (h : t.WellFormed) (hcwd : Named cwd) (path : String) :
    (t.makeDirectories cwd path).1.WellFormed :=
  makeParents_induction (fun _ _ _ _ h hmake => h.make hcwd hmake) h

/-- **Writing a file keeps a tree well formed.** -/
theorem writeFile (h : t.WellFormed) (hcwd : Named cwd) {path : String} {bytes : ByteArray}
    {t' : FileTree} (hwrite : t.writeFile cwd path bytes = .ok t') : t'.WellFormed := by
  unfold FileTree.writeFile at hwrite
  split at hwrite
  · split at hwrite <;> cases hwrite
  · split at hwrite
    · cases hwrite
    · next hspot =>
      split at hwrite
      · cases hwrite
      · obtain rfl := Except.ok.inj hwrite
        exact h.put (hcwd.resolve hspot) _
    · next hspot =>
      split at hwrite
      · cases hwrite
      · split at hwrite
        · cases hwrite
        · obtain rfl := Except.ok.inj hwrite
          exact h
      · obtain rfl := Except.ok.inj hwrite
        exact h.put (hcwd.resolve hspot) _

/-- **Removing what a path names keeps a tree well formed.** -/
theorem remove (h : t.WellFormed) {path : String} {t' : FileTree}
    (hremove : t.remove cwd path = .ok t') : t'.WellFormed := by
  unfold FileTree.remove at hremove
  split at hremove
  · cases hremove
  · obtain rfl := Except.ok.inj hremove
    exact h.erase _

end WellFormed

end FileTree

/-- **The command that makes a rules file keeps a tree well formed**, also if it fails. -/
theorem InitOptions.wellFormed_run {t : FileTree} {cwd : Place} (h : t.WellFormed)
    (hcwd : FileTree.Named cwd) (o : InitOptions) : (o.run t cwd).2.WellFormed := by
  have hwrite : ∀ t' : FileTree, t'.WellFormed → (o.write t' cwd).2.WellFormed := by
    intro t' h'
    unfold InitOptions.write
    split
    · exact h'
    · next hwritten => exact h'.writeFile hcwd hwritten
  unfold InitOptions.run
  split
  · exact h
  · split
    · exact hwrite t h
    · next directory _ =>
      have hdirectories := h.makeDirectories hcwd directory
      split
      · next heq => rwa [heq] at hdirectories
      · next heq =>
        rw [heq] at hdirectories
        exact hwrite _ hdirectories

end Wording
