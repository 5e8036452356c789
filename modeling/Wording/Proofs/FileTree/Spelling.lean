import Wording.Proofs.FileTree.Resolution

/-!
# Spellings of one path

* `FileTree.LeadsStraight t cwd path place` — the path leads to the place, and through no link.
* `FileTree.Follows.locate_straight` — steps through no link may be left out: what comes after them
  is resolved from the place they lead to, whatever is to be done with links.
* **`FileTree.LeadsStraight.resolve_of_steps`** — names added to such a path are resolved from its
  place.
* `FileTree.SameSpot t cwd p q` — the system resolves the two paths alike; then it lists, reads and
  tells of the same.

A path may have slashes at its end and dots inside, it may go up and down again, and it may begin at
the top or at the working directory.  As long as no link is on the way, the only thing that is left
of this is the place.
-/

namespace Wording.FileTree

variable {t : FileTree} {cwd : Place}

/-! ## Paths without links -/

/-- The path leads to the place, also if no link may be followed on the way. -/
structure LeadsStraight (t : FileTree) (cwd : Place) (path : String) (place : Place) : Prop where
  placeOf : t.placeOf cwd true path = .ok place
  locate : t.locate true 0 (origin cwd path) (Path.steps path) = .ok (.found place)

/-- **Steps through no link may be left out.**  The induction is on the steps; that no link may be
followed is what rules out that one is. -/
theorem Follows.locate_straight {allowed links' : Nat} {here place : Place} {xs : List String}
    (h : Follows t allowed here xs links' place) (hnone : allowed = 0) (follow : Bool) (links : Nat)
    (ys : List String) : t.locate follow links here (xs ++ ys) = t.locate follow links place ys := by
  induction h with
  | done => rfl
  | stay hhere hname _ ih => rw [List.cons_append, locate_stay hhere hname, ih hnone]
  | up hhere _ ih => rw [List.cons_append, locate_up hhere, ih hnone]
  | enter hname hentry hlink _ ih =>
      rw [List.cons_append, locate_enter hname hentry hlink, ih hnone]
  | link => cases hnone

/-- A path leads to the place that its steps lead to through no link. -/
theorem TakesSteps.leadsStraight {here place : Place} {path : String} {steps : List String}
    (h : TakesSteps cwd path here steps)
    (hlocate : t.locate true 0 here steps = .ok (.found place)) :
    LeadsStraight t cwd path place := by
  obtain ⟨links', hfollows⟩ := exists_follows_of_locate hlocate
  have hmore := hfollows.locate_straight rfl true maxLinks []
  rw [List.append_nil, FileTree.locate] at hmore
  exact ⟨h.placeOf_eq hmore, by rwa [h.origin_eq, h.steps_eq]⟩

namespace LeadsStraight

variable {root : String} {top : Place}

/-- The names of the path lead to the place without a link, whether or not a slash is at the end. -/
theorem exists_follows (h : LeadsStraight t cwd root top) :
    ∃ links', Follows t 0 (origin cwd root) (Path.names root) links' top := by
  obtain ⟨links', hfollows⟩ := exists_follows_of_locate h.locate
  refine ⟨links', ?_⟩
  rcases Path.steps_eq root with hsteps | hsteps
  · exact hsteps ▸ hfollows
  · exact (hsteps ▸ hfollows).of_append_empty

/-- The path leads to the place, whether or not a link at its end is followed. -/
theorem resolve (h : LeadsStraight t cwd root top) (follow : Bool) :
    t.resolve cwd follow root = .ok (.found top) := by
  obtain ⟨-, hresolve⟩ := resolve_eq_locate (resolve_of_placeOf h.placeOf)
  obtain ⟨links', hfollows⟩ := exists_follows_of_locate h.locate
  have hlocate := hfollows.locate_straight rfl follow maxLinks []
  rw [List.append_nil, FileTree.locate] at hlocate
  rw [hresolve, hlocate]
  rfl

/-- A path that leads somewhere is not empty. -/
theorem ne_empty (h : LeadsStraight t cwd root top) : root ≠ "" :=
  (resolve_eq_locate (h.resolve true)).1

/-- A path that leads somewhere has no NUL in it. -/
theorem not_mem_nul (h : LeadsStraight t cwd root top) : '\x00' ∉ root.toList :=
  (text_of_resolve (h.resolve true)).1

/-- **Names added to the path are resolved from its place.** -/
theorem resolve_of_steps (h : LeadsStraight t cwd root top) {path : String} {below : List String}
    (hpath : '\x00' ∉ path.toList ∧ path ≠ "" ∧ path.utf8ByteSize ≤ maxPathLength)
    (habsolute : Path.isAbsolute path = Path.isAbsolute root)
    (hsteps : Path.steps path = Path.names root ++ below) (follow : Bool) :
    t.resolve cwd follow path = (t.locate follow maxLinks top below).mapError .system := by
  obtain ⟨links', hfollows⟩ := h.exists_follows
  have horigin : origin cwd path = origin cwd root := by rw [origin, habsolute, origin]
  have htakes : TakesSteps cwd path (origin cwd root) (Path.names root ++ below) :=
    ⟨hpath, horigin, hsteps⟩
  rw [htakes.resolve_eq, hfollows.locate_straight rfl]

end LeadsStraight

/-! ## Paths that are resolved alike -/

/-- The system resolves the two paths alike, whether or not a link at the end is followed. -/
def SameSpot (t : FileTree) (cwd : Place) (p q : String) : Prop :=
  ∀ follow, t.resolve cwd follow p = t.resolve cwd follow q

namespace SameSpot

variable {p q : String}

/-- The paths name the same entry. -/
theorem placeOf_eq (h : SameSpot t cwd p q) (follow : Bool) :
    t.placeOf cwd follow p = t.placeOf cwd follow q := by
  rw [placeOf, h follow, placeOf]

/-- The paths name an entry of the same kind. -/
theorem kindOf_eq (h : SameSpot t cwd p q) (follow : Bool) :
    t.kindOf cwd follow p = t.kindOf cwd follow q := by
  rw [kindOf, h.placeOf_eq follow, kindOf]

/-- Both paths name a file, or neither does. -/
theorem isFile_eq (h : SameSpot t cwd p q) : t.isFile cwd p = t.isFile cwd q := by
  rw [isFile, h.kindOf_eq true, isFile]

/-- The same is listed. -/
theorem list_eq (h : SameSpot t cwd p q) : t.list cwd p = t.list cwd q := by
  rw [list, h.placeOf_eq true, list]

/-- The same is read. -/
theorem readBytes_eq (h : SameSpot t cwd p q) : t.readBytes cwd p = t.readBytes cwd q := by
  rw [readBytes, h.placeOf_eq true, readBytes]

end SameSpot

end Wording.FileTree
