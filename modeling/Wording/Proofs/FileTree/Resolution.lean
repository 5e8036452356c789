import Wording.FileTree.Access
import Wording.Proofs.FileTree.Names

/-!
# What a path leads to, name by name

* `FileTree.Follows t links here steps links' place` — the steps lead from one directory to a place,
  with `links` links left to follow before and `links'` after.
* `FileTree.exists_follows_of_locate`, `FileTree.Follows.locate_append` — resolution succeeds
  exactly along such steps, and what comes after them is resolved from the place they lead to.
* **`FileTree.placeOf_join`** — a directory's path with a name added leads to the entry of that name,
  if it leads anywhere.

Resolution treats the last step apart (a link there may be left alone), so the relation is read off
resolution with links followed, and its lemma about what comes after says for which resolutions it
holds.
-/

namespace Wording

namespace FileTree

/-! ## Following steps -/

variable {t : FileTree}

section Locate

variable {follow : Bool} {links : Nat} {here : Place} {name : String} {rest : List String}

/-- A dot and an empty step stay where they are. -/
theorem locate_stay (hhere : t.isDirectory here = true) (hname : name = "" ∨ name = ".") :
    t.locate follow links here (name :: rest) = t.locate follow links here rest := by
  rw [locate]
  simp [hhere, hname]

/-- Two dots go up. -/
theorem locate_up (hhere : t.isDirectory here = true) :
    t.locate follow links here (".." :: rest) = t.locate follow links here.dropLast rest := by
  rw [locate]
  simp [hhere]

/-- A name that can be followed in a directory. -/
structure CanFollow (t : FileTree) (here : Place) (name : String) : Prop where
  isDirectory : t.isDirectory here = true
  not_stay : ¬(name = "" ∨ name = ".")
  not_up : name ≠ ".."
  length_le : ¬maxNameLength < name.utf8ByteSize

/-- A name that can be followed leads to what stands there, or to where something could. -/
theorem locate_name (hname : t.CanFollow here name) :
    t.locate follow links here (name :: rest) =
      match t.entry? (here ++ [name]) with
      | none =>
        if rest.all (· = "") then .ok (.absent here name !rest.isEmpty) else .error .noEntry
      | some (.link target) =>
        if rest.isEmpty && !follow then .ok (.found (here ++ [name]))
        else
          match links with
          | 0 => .error .tooManyLinks
          | links + 1 =>
            t.locate follow links (if Path.isAbsolute target then [] else here)
              (Path.steps target ++ rest)
      | some _ => t.locate follow links (here ++ [name]) rest := by
  rw [locate]
  simp only [hname.isDirectory, hname.not_stay, hname.not_up, hname.length_le]
  rfl

/-- The name of an entry that is no link goes to that entry. -/
theorem locate_enter (hname : t.CanFollow here name) {e : Entry}
    (hentry : t.entry? (here ++ [name]) = some e) (hlink : ∀ target, e ≠ .link target) :
    t.locate follow links here (name :: rest) = t.locate follow links (here ++ [name]) rest := by
  rw [locate_name hname, hentry]
  cases e with
  | link target => exact absurd rfl (hlink target)
  | _ => rfl

/-- The name of a link that is followed is replaced by the steps of its target. -/
theorem locate_link (hname : t.CanFollow here name) {target : String}
    (hentry : t.entry? (here ++ [name]) = some (.link target))
    (hfollow : (rest.isEmpty && !follow) = false) :
    t.locate follow (links + 1) here (name :: rest) =
      t.locate follow links (if Path.isAbsolute target then [] else here)
        (Path.steps target ++ rest) := by
  rw [locate_name hname, hentry]
  simp only [hfollow, Bool.false_eq_true, if_false]

/-- A link at the end that is not to be followed is itself what the step leads to. -/
theorem locate_last_link (hname : t.CanFollow here name) {target : String}
    (hentry : t.entry? (here ++ [name]) = some (.link target)) :
    t.locate false links here [name] = .ok (.found (here ++ [name])) := by
  rw [locate_name hname, hentry]
  rfl

/-- A name at which nothing stands leads to where something could. -/
theorem locate_free (hname : t.CanFollow here name)
    (hfree : t.entry? (here ++ [name]) = none) :
    t.locate follow links here [name] = .ok (.absent here name false) := by
  rw [locate_name hname, hfree]
  rfl

end Locate

/-- The steps lead from the directory `here` to a place; `links` links may be followed before and
`links'` after. -/
inductive Follows (t : FileTree) : Nat → Place → List String → Nat → Place → Prop where
  | done (links : Nat) (here : Place) : Follows t links here [] links here
  | stay {links links' : Nat} {here place : Place} {name : String} {rest : List String}
      (hhere : t.isDirectory here = true) (hname : name = "" ∨ name = ".")
      (hrest : Follows t links here rest links' place) :
      Follows t links here (name :: rest) links' place
  | up {links links' : Nat} {here place : Place} {rest : List String}
      (hhere : t.isDirectory here = true)
      (hrest : Follows t links here.dropLast rest links' place) :
      Follows t links here (".." :: rest) links' place
  | enter {links links' : Nat} {here place : Place} {name : String} {rest : List String}
      {e : Entry} (hname : t.CanFollow here name)
      (hentry : t.entry? (here ++ [name]) = some e) (hlink : ∀ target, e ≠ .link target)
      (hrest : Follows t links (here ++ [name]) rest links' place) :
      Follows t links here (name :: rest) links' place
  | link {links links' : Nat} {here place : Place} {name target : String} {rest : List String}
      (hname : t.CanFollow here name)
      (hentry : t.entry? (here ++ [name]) = some (.link target))
      (hrest : Follows t links (if Path.isAbsolute target then [] else here)
        (Path.steps target ++ rest) links' place) :
      Follows t (links + 1) here (name :: rest) links' place

namespace Follows

variable {links links' : Nat} {here place : Place} {xs : List String}

/-- **What comes after followed steps is resolved from the place they lead to**, unless nothing
comes after and a link at the end is to be left alone. -/
theorem locate_append (h : Follows t links here xs links' place) (follow : Bool)
    (ys : List String) (hys : (ys.isEmpty && !follow) = false) :
    t.locate follow links here (xs ++ ys) = t.locate follow links' place ys := by
  induction h with
  | done => rfl
  | stay hhere hname _ ih => rw [List.cons_append, locate_stay hhere hname, ih]
  | up hhere _ ih => rw [List.cons_append, locate_up hhere, ih]
  | enter hname hentry hlink _ ih => rw [List.cons_append, locate_enter hname hentry hlink, ih]
  | @link _ _ _ _ _ _ rest hname hentry _ ih =>
      have hlast : ((rest ++ ys).isEmpty && !follow) = false := by
        cases rest with
        | nil => exact hys
        | cons => rfl
      rw [List.cons_append, locate_link hname hentry hlast, ← List.append_assoc, ih]

/-- Steps can be followed from where others have led. -/
theorem append {links'' : Nat} {place' : Place} {ys : List String}
    (h : Follows t links here xs links' place) (h' : Follows t links' place ys links'' place') :
    Follows t links here (xs ++ ys) links'' place' := by
  induction h with
  | done => exact h'
  | stay hhere hname _ ih => exact .stay hhere hname (ih h')
  | up hhere _ ih => exact .up hhere (ih h')
  | enter hname hentry hlink _ ih => exact .enter hname hentry hlink (ih h')
  | link hname hentry _ ih =>
      have hrest := ih h'
      rw [List.append_assoc] at hrest
      exact .link hname hentry hrest

/-- Followed steps lead where resolution with links followed says. -/
theorem locate_eq (h : Follows t links here xs links' place) :
    t.locate true links here xs = .ok (.found place) := by
  have hnil := h.locate_append true [] rfl
  rwa [List.append_nil, locate] at hnil

end Follows

/-- **Resolution that finds a place has followed steps to it.** -/
theorem exists_follows_of_locate {links : Nat} {here place : Place} {xs : List String}
    (h : t.locate true links here xs = .ok (.found place)) :
    ∃ links', Follows t links here xs links' place := by
  fun_induction locate t true links here xs with
  | case1 links here =>
      obtain rfl : here = place := by simpa using h
      exact ⟨links, .done links here⟩
  | case3 links here name rest hhere hname ih =>
      obtain ⟨links', hrest⟩ := ih h
      exact ⟨links', .stay (by simpa using hhere) hname hrest⟩
  | case4 links here rest hhere _ ih =>
      obtain ⟨links', hrest⟩ := ih h
      exact ⟨links', .up (by simpa using hhere) hrest⟩
  -- a link at the end is left alone only if links are not followed
  | case8 => simp at *
  | case10 here name rest hhere hstay hup hlength _ target hentry _ links _ ih =>
      obtain ⟨links', hrest⟩ := ih h
      exact ⟨links', .link ⟨by simpa using hhere, hstay, hup, hlength⟩ hentry hrest⟩
  | case11 links here name rest hhere hstay hup hlength _ e hlink hentry ih =>
      obtain ⟨links', hrest⟩ := ih h
      exact ⟨links', .enter ⟨by simpa using hhere, hstay, hup, hlength⟩ hentry
        (fun target he => hlink target he) hrest⟩
  | _ => cases h

/-- An empty step at the end leads nowhere else. -/
theorem Follows.of_append_empty {links links' : Nat} {here place : Place} {xs : List String}
    (h : Follows t links here (xs ++ [""]) links' place) : Follows t links here xs links' place := by
  generalize hys : xs ++ [""] = ys at h
  induction h generalizing xs with
  | done => simp at hys
  | stay hhere hname hrest ih =>
      cases xs with
      | nil =>
          obtain ⟨rfl, rfl⟩ := List.cons.inj hys
          exact hrest
      | cons x xs =>
          obtain ⟨rfl, hxs⟩ := List.cons.inj hys
          exact .stay hhere hname (ih hxs)
  | up hhere hrest ih =>
      cases xs with
      | nil => simp at hys
      | cons x xs =>
          obtain ⟨rfl, hxs⟩ := List.cons.inj hys
          exact .up hhere (ih hxs)
  | enter hname hentry hlink hrest ih =>
      cases xs with
      | nil =>
          obtain ⟨rfl, -⟩ := List.cons.inj hys
          exact absurd (.inl rfl) hname.not_stay
      | cons x xs =>
          obtain ⟨rfl, hxs⟩ := List.cons.inj hys
          exact .enter hname hentry hlink (ih hxs)
  | link hname hentry hrest ih =>
      cases xs with
      | nil =>
          obtain ⟨rfl, -⟩ := List.cons.inj hys
          exact absurd (.inl rfl) hname.not_stay
      | cons x xs =>
          obtain ⟨rfl, hxs⟩ := List.cons.inj hys
          refine .link hname hentry (ih ?_)
          rw [List.append_assoc]
          exact congrArg _ hxs

/-- **Leaving a link at the end alone** finds what following it does, or the link. -/
theorem Follows.locate_false {links links' : Nat} {here place : Place} {xs : List String}
    (h : Follows t links here xs links' place) :
    ∃ found, t.locate false links here xs = .ok (.found found) ∧
      (found = place ∨ ∃ target, t.entry? found = some (.link target)) := by
  induction h with
  | done links here => exact ⟨here, by rw [locate], .inl rfl⟩
  | stay hhere hname _ ih => rwa [locate_stay hhere hname]
  | up hhere _ ih => rwa [locate_up hhere]
  | enter hname hentry hlink _ ih => rwa [locate_enter hname hentry hlink]
  | @link _ _ here _ name target rest hname hentry _ ih =>
      cases rest with
      | nil => exact ⟨here ++ [name], locate_last_link hname hentry, .inr ⟨target, hentry⟩⟩
      | cons => rwa [locate_link hname hentry rfl]

/-! ## Places of paths -/

/-- Where following a path begins. -/
def origin (cwd : Place) (path : String) : Place :=
  if Path.isAbsolute path then [] else cwd

/-- A path that leads to something is one that the system does not refuse as a text. -/
theorem text_of_resolve {cwd : Place} {follow : Bool} {path : String} {spot : Spot}
    (h : t.resolve cwd follow path = .ok spot) :
    '\x00' ∉ path.toList ∧ path ≠ "" ∧ path.utf8ByteSize ≤ maxPathLength := by
  unfold resolve at h
  split at h
  · cases h
  · split at h
    · cases h
    · next hnul hempty =>
      split at h
      · cases h
      · next hlong => exact ⟨by simpa using hnul, by simpa using hempty, Nat.not_lt.mp hlong⟩

/-- The path is a text that the system takes, and following it is taking these steps from here. -/
structure TakesSteps (cwd : Place) (path : String) (here : Place) (steps : List String) : Prop where
  text : '\x00' ∉ path.toList ∧ path ≠ "" ∧ path.utf8ByteSize ≤ maxPathLength
  origin_eq : origin cwd path = here
  steps_eq : Path.steps path = steps

instance (cwd : Place) (path : String) (here : Place) (steps : List String) :
    Decidable (TakesSteps cwd path here steps) :=
  decidable_of_iff (('\x00' ∉ path.toList ∧ path ≠ "" ∧ path.utf8ByteSize ≤ maxPathLength) ∧
      origin cwd path = here ∧ Path.steps path = steps)
    ⟨fun ⟨text, horigin, hsteps⟩ => ⟨text, horigin, hsteps⟩,
      fun h => ⟨h.text, h.origin_eq, h.steps_eq⟩⟩

/-- A path is resolved by its steps. -/
theorem TakesSteps.resolve_eq {cwd here : Place} {path : String} {steps : List String}
    (h : TakesSteps cwd path here steps) (t : FileTree) (follow : Bool) :
    t.resolve cwd follow path = (t.locate follow maxLinks here steps).mapError .system := by
  obtain ⟨⟨hnul, hne, hlength⟩, rfl, rfl⟩ := h
  rw [resolve, if_neg (by simpa using hnul), if_neg (by simpa using hne),
    if_neg (Nat.not_lt.mpr hlength), ← origin]

/-- A path that leads to something is not empty, and is resolved step by step from its origin,
whether or not a link at its end is followed. -/
theorem resolve_eq_locate {cwd : Place} {follow : Bool} {path : String} {spot : Spot}
    (h : t.resolve cwd follow path = .ok spot) :
    path ≠ "" ∧ ∀ follow', t.resolve cwd follow' path =
      (t.locate follow' maxLinks (origin cwd path) (Path.steps path)).mapError .system :=
  ⟨(text_of_resolve h).2.1, TakesSteps.resolve_eq ⟨text_of_resolve h, rfl, rfl⟩ t⟩

/-- A path that leads to something is not empty, and its steps lead there. -/
theorem locate_of_resolve {cwd : Place} {follow : Bool} {path : String} {spot : Spot}
    (h : t.resolve cwd follow path = .ok spot) :
    path ≠ "" ∧ t.locate follow maxLinks (origin cwd path) (Path.steps path) = .ok spot := by
  obtain ⟨hne, hresolve⟩ := resolve_eq_locate h
  refine ⟨hne, ?_⟩
  rw [hresolve] at h
  cases hlocate : t.locate follow maxLinks (origin cwd path) (Path.steps path) with
  | error errno =>
      rw [hlocate] at h
      cases h
  | ok found =>
      rw [hlocate] at h
      exact congrArg _ (Except.ok.inj h)

/-- A path whose steps lead to a place leads there. -/
theorem TakesSteps.placeOf_eq {cwd here place : Place} {follow : Bool} {path : String}
    {steps : List String} (h : TakesSteps cwd path here steps)
    (hlocate : t.locate follow maxLinks here steps = .ok (.found place)) :
    t.placeOf cwd follow path = .ok place := by
  rw [placeOf, h.resolve_eq, hlocate]
  rfl

/-- A path that names an entry leads to its place. -/
theorem resolve_of_placeOf {cwd place : Place} {follow : Bool} {path : String}
    (h : t.placeOf cwd follow path = .ok place) : t.resolve cwd follow path = .ok (.found place) := by
  unfold placeOf at h
  split at h
  · cases h
  · next hfound => exact Except.ok.inj h ▸ hfound
  · cases h

/-- A path that names an entry is not empty, and its names lead to the entry. -/
theorem follows_of_placeOf {cwd place : Place} {path : String}
    (h : t.placeOf cwd true path = .ok place) :
    path ≠ "" ∧ ∃ links, Follows t maxLinks (origin cwd path) (Path.names path) links place := by
  obtain ⟨hne, hlocate⟩ := locate_of_resolve (resolve_of_placeOf h)
  obtain ⟨links, hfollows⟩ := exists_follows_of_locate hlocate
  refine ⟨hne, links, ?_⟩
  rcases Path.steps_eq path with hsteps | hsteps
  · exact hsteps ▸ hfollows
  · exact (hsteps ▸ hfollows).of_append_empty

/-- The kind of what a path names is that of the entry at its place. -/
theorem kindOf_eq {cwd place : Place} {follow : Bool} {path : String} {e : Entry}
    (h : t.placeOf cwd follow path = .ok place) (hentry : t.entry? place = some e) :
    t.kindOf cwd follow path = .ok e.kind := by
  rw [kindOf, h]
  simp only [hentry]

/-- A path that exists leads to an entry. -/
theorem exists_of_pathExists {cwd : Place} {path : String}
    (h : t.pathExists cwd path = true) :
    ∃ place e, t.placeOf cwd true path = .ok place ∧ t.entry? place = some e := by
  unfold pathExists kindOf at h
  cases hplace : t.placeOf cwd true path with
  | error fault =>
      rw [hplace] at h
      cases h
  | ok place =>
      cases hentry : t.entry? place with
      | none =>
          simp only [hplace, hentry] at h
          cases h
      | some e => exact ⟨place, e, rfl, hentry⟩

/-- A directory's place holds a directory. -/
theorem isDirectory_iff {place : Place} :
    t.isDirectory place = true ↔ t.entry? place = some .directory := by
  unfold isDirectory
  split <;> simp_all

/-- **The path of a directory** names a directory, or a link if links at its end are left alone. -/
theorem kindOf_directory {cwd place : Place} {path : String}
    (h : t.placeOf cwd true path = .ok place) (hplace : t.isDirectory place = true) :
    t.kindOf cwd true path = .ok .directory ∧
      (t.kindOf cwd false path = .ok .directory ∨ t.kindOf cwd false path = .ok .link) := by
  have hentry : t.entry? place = some .directory := isDirectory_iff.mp hplace
  refine ⟨kindOf_eq h hentry, ?_⟩
  obtain ⟨-, hlocate⟩ := locate_of_resolve (resolve_of_placeOf h)
  obtain ⟨-, hresolve⟩ := resolve_eq_locate (resolve_of_placeOf h)
  obtain ⟨links, hfollows⟩ := exists_follows_of_locate hlocate
  obtain ⟨found, hfound, hor⟩ := hfollows.locate_false
  have hplaceOf : t.placeOf cwd false path = .ok found := by
    rw [placeOf, hresolve, hfound]
    rfl
  rcases hor with rfl | ⟨target, htarget⟩
  · exact .inl (kindOf_eq hplaceOf hentry)
  · exact .inr (kindOf_eq hplaceOf htarget)

/-- The name of an entry that is no link leads to that entry, if it leads anywhere. -/
theorem eq_of_locate_name {links : Nat} {here place : Place} {name : String} {e : Entry}
    (hname : IsName name) (hhere : t.isDirectory here = true)
    (hentry : t.entry? (here ++ [name]) = some e) (hlink : ∀ target, e ≠ .link target)
    (h : t.locate true links here [name] = .ok (.found place)) : place = here ++ [name] := by
  have hstay : ¬(name = "" ∨ name = ".") := not_or.mpr ⟨hname.ne_empty, hname.ne_dot⟩
  by_cases hlength : maxNameLength < name.utf8ByteSize
  · rw [locate] at h
    simp [hhere, hstay, hname.ne_dotdot, hlength] at h
  · rw [locate_enter ⟨hhere, hstay, hname.ne_dotdot, hlength⟩ hentry hlink, locate] at h
    cases h
    rfl

/-- **A name added to the path of a directory leads to the directory's entry of that name**, if it
leads anywhere and the entry is no link. -/
theorem placeOf_join {cwd directory place : Place} {path name : String} {e : Entry}
    (hpath : t.placeOf cwd true path = .ok directory) (hdirectory : t.isDirectory directory = true)
    (hname : IsName name) (hentry : t.entry? (directory ++ [name]) = some e)
    (hlink : ∀ target, e ≠ .link target)
    (hjoin : t.placeOf cwd true (Path.join path name) = .ok place) :
    place = directory ++ [name] := by
  obtain ⟨hne, links, hfollows⟩ := follows_of_placeOf hpath
  obtain ⟨-, links', hfollows'⟩ := follows_of_placeOf hjoin
  have horigin : origin cwd (Path.join path name) = origin cwd path := by
    rw [origin, Path.isAbsolute_join hne hname, origin]
  have hlocate := hfollows'.locate_eq
  rw [horigin, Path.names_join hne hname, hfollows.locate_append true [name] rfl] at hlocate
  exact eq_of_locate_name hname hdirectory hentry hlink hlocate

end FileTree

end Wording
