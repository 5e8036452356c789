import Wording.Proofs.FileTree.Parents
import Wording.Proofs.FileTree.WellFormed

/-!
# Trees that grow

* `FileTree.Keeps` — all that stood still stands, but for the bytes of files; **`FileTree.Keeps.follows`**
  says that steps then lead where they led.
* `FileTree.Grows` — all that stood still stands, and what is new are directories.
* `FileTree.grows_makeDirectories` — making directories lets a tree grow, also if it fails.
* `FileTree.Rooted` — what stands in a tree stands in a directory.
* `FileTree.BreaksOff` — following a path comes to a name at which nothing stands.
* `FileTree.makeDirectories_eq_or_breaksOff` — directories are made only for a path that breaks off.
* **`FileTree.BreaksOff.fresh`** — when directories have been made, a path that broke off leads to a
  place at which nothing stood, unless it goes up behind the name where it broke off.
* `FileTree.writeFile_eq_ok` — a file is written at the place to which its path leads, unless a
  device stands there.

Below a name at which nothing stands there is nothing at all, so that a path enters new directories
only, one after another, until it goes up.
-/

namespace Wording

namespace FileTree

variable {t t' : FileTree} {cwd : Place}

/-! ## Steps in two trees -/

/-- What stands in the first tree stands in the second, but a file may have other bytes there. -/
structure Keeps (t t' : FileTree) : Prop where
  entry : ∀ {p : Place} {e : Entry}, t.entry? p = some e →
    t'.entry? p = some e ∨ e.kind = .file ∧ ∃ bytes, t'.entry? p = some (.file bytes)

namespace Keeps

/-- A link or a directory stands in both trees. -/
theorem entry_of_kind_ne (h : Keeps t t') {p : Place} {e : Entry} (hentry : t.entry? p = some e)
    (hkind : e.kind ≠ .file) : t'.entry? p = some e :=
  (h.entry hentry).resolve_right fun hfile => hkind hfile.1

/-- A directory stays a directory. -/
theorem isDirectory (h : Keeps t t') {p : Place} (hp : t.isDirectory p = true) :
    t'.isDirectory p = true :=
  isDirectory_iff.mpr (h.entry_of_kind_ne (isDirectory_iff.mp hp) (by decide))

/-- A name can still be followed. -/
theorem canFollow (h : Keeps t t') {here : Place} {name : String} (hname : t.CanFollow here name) :
    t'.CanFollow here name where
  isDirectory := h.isDirectory hname.isDirectory
  not_stay := hname.not_stay
  not_up := hname.not_up
  length_le := hname.length_le

/-- **Steps still lead where they led**: what they pass are directories and links, and a file is only
what they lead to. -/
theorem follows (h : Keeps t t') {links links' : Nat} {here place : Place} {xs : List String}
    (hfollows : Follows t links here xs links' place) : Follows t' links here xs links' place := by
  induction hfollows with
  | done links here => exact .done links here
  | stay hhere hname _ ih => exact .stay (h.isDirectory hhere) hname ih
  | up hhere _ ih => exact .up (h.isDirectory hhere) ih
  | enter hname hentry hlink _ ih =>
      rcases h.entry hentry with hkept | ⟨-, bytes, hfile⟩
      · exact .enter (h.canFollow hname) hkept hlink ih
      · exact .enter (h.canFollow hname) hfile nofun ih
  | link hname hentry _ ih =>
      exact .link (h.canFollow hname) (h.entry_of_kind_ne hentry nofun) ih

end Keeps

/-! ## Growth -/

/-- All that stood still stands, and what is new are directories. -/
structure Grows (t t' : FileTree) : Prop where
  kept : ∀ {p : Place} {e : Entry}, t.entry? p = some e → t'.entry? p = some e
  directory : ∀ {p : Place} {e : Entry},
    t.entry? p = none → t'.entry? p = some e → e = .directory

/-- What stands in a tree with an entry put into it. -/
theorem entry_put (t : FileTree) (p : Place) (e : Entry) (q : Place) :
    FileTree.entry? (t.put p e) q = if q ≠ [] ∧ q = p then some e else t.entry? q := by
  have hrest : ∀ entries : List (Place × Entry), q ≠ p →
      (entries.filter (·.1 ≠ p)).lookup q = entries.lookup q := by
    intro entries hne
    induction entries with
    | nil => rfl
    | cons entry rest ih =>
        obtain ⟨r, d⟩ := entry
        by_cases hr : r = p
        · have hqr : (q == r) = false := beq_false_of_ne (hr ▸ hne)
          simp only [ne_eq, decide_not] at ih
          simp [hr, List.lookup_cons, ih, hr ▸ hqr]
        · simp only [ne_eq, decide_not] at ih
          simp [hr, List.lookup_cons, ih]
  unfold entry? put
  by_cases hq : q = []
  · simp [hq]
  · by_cases hqp : q = p
    · simp [hqp, hqp ▸ hq]
    · have hbeq : (q == p) = false := beq_false_of_ne hqp
      simp [hq, hqp, List.lookup_cons, hbeq, ← hrest t.entries hqp]

namespace Grows

/-- A tree to which nothing is done does not shrink. -/
theorem refl (t : FileTree) : Grows t t where
  kept h := h
  directory hnone h := by
    rw [hnone] at h
    cases h

/-- A tree can grow again. -/
theorem trans {t'' : FileTree} (h : Grows t t') (h' : Grows t' t'') : Grows t t'' where
  kept hentry := h'.kept (h.kept hentry)
  directory := by
    intro p e hnone hentry
    cases hbetween : t'.entry? p with
    | none => exact h'.directory hbetween hentry
    | some d =>
        obtain rfl := h.directory hnone hbetween
        have hkept := h'.kept hbetween
        rw [hentry] at hkept
        exact Option.some.inj hkept

/-- A tree that has grown keeps what it had. -/
theorem keeps (h : Grows t t') : Keeps t t' where
  entry hentry := .inl (h.kept hentry)

end Grows

/-! ## Making directories -/

/-- Nothing stands at a place to which a path leads without finding an entry. -/
theorem entry_eq_none_of_locate_absent {follow : Bool} {links : Nat} {here parent : Place}
    {xs : List String} {name : String} {slashed : Bool}
    (h : t.locate follow links here xs = .ok (.absent parent name slashed)) :
    t.entry? (parent ++ [name]) = none := by
  fun_induction locate t follow links here xs with
  | case3 links here name rest _ _ ih => exact ih h
  | case4 links here rest _ _ ih => exact ih h
  | case6 links here name rest _ _ _ _ place hentry _ =>
      obtain ⟨rfl, rfl, -⟩ := Spot.absent.inj (Except.ok.inj h)
      exact hentry
  | case10 here name rest _ _ _ _ _ _ _ _ _ _ ih => exact ih h
  | case11 links here name rest _ _ _ _ _ _ _ _ ih => exact ih h
  | _ => cases h

/-- Putting a directory where nothing stands lets a tree grow. -/
theorem grows_put {p : Place} (h : t.entry? p = none) : Grows t (t.put p .directory) where
  kept := by
    intro q e hentry
    rw [entry_put, if_neg, hentry]
    rintro ⟨-, rfl⟩
    rw [h] at hentry
    cases hentry
  directory := by
    intro q e hnone hentry
    rw [entry_put] at hentry
    split at hentry
    · exact (Option.some.inj hentry).symm
    · rw [hnone] at hentry
      cases hentry

/-- Making a directory lets a tree grow. -/
theorem grows_make {path : String} (h : t.make cwd path .directory = .ok t') : Grows t t' := by
  unfold make at h
  split at h
  · cases h
  · cases h
  · next hspot =>
    obtain rfl := Except.ok.inj h
    exact grows_put (entry_eq_none_of_locate_absent (locate_of_resolve hspot).2)

/-- **Making directories lets a tree grow**, also if it fails on the way. -/
theorem grows_makeDirectories (t : FileTree) (cwd : Place) (path : String) :
    Grows t (t.makeDirectories cwd path).1 :=
  makeParents_induction (fun _ _ _ _ hgrows hmake => hgrows.trans (grows_make hmake)) (.refl t)

/-! ## Paths that break off -/

/-- Following the path comes to a name at which nothing stands; behind it there are still the names
`after` to follow. -/
def BreaksOff (t : FileTree) (cwd : Place) (path : String) (after : List String) : Prop :=
  ∃ before name links here, Path.names path = before ++ name :: after ∧
    Follows t maxLinks (origin cwd path) before links here ∧ t.CanFollow here name ∧
      t.entry? (here ++ [name]) = none

/-- Steps from a directory that do not find an entry do not end there. -/
theorem ne_nil_of_locate_absent {follow : Bool} {links : Nat} {here parent : Place}
    {xs : List String} {name : String} {slashed : Bool}
    (h : t.locate follow links here xs = .ok (.absent parent name slashed)) : xs ≠ [] := by
  rintro rfl
  rw [locate] at h
  cases h

/-- Steps that end in a name and do not find an entry, a link at the end left alone, lead up to the
directory in which there is none of the name. -/
theorem follows_of_locate_absent {links : Nat} {here parent : Place} {xs : List String}
    {name : String} {slashed : Bool} (hlast : xs.getLast? ≠ some "")
    (h : t.locate false links here xs = .ok (.absent parent name slashed)) :
    ∃ before links', xs = before ++ [name] ∧ Follows t links here before links' parent ∧
      t.CanFollow parent name := by
  fun_induction locate t false links here xs with
  | case3 links here step rest hhere hstep ih =>
      rw [List.getLast?_cons_of_ne_nil (ne_nil_of_locate_absent h)] at hlast
      obtain ⟨before, links', rfl, hbefore, hname⟩ := ih hlast h
      exact ⟨step :: before, links', rfl, .stay (by simpa using hhere) hstep hbefore, hname⟩
  | case4 links here rest hhere _ ih =>
      rw [List.getLast?_cons_of_ne_nil (ne_nil_of_locate_absent h)] at hlast
      obtain ⟨before, links', rfl, hbefore, hname⟩ := ih hlast h
      exact ⟨".." :: before, links', rfl, .up (by simpa using hhere) hbefore, hname⟩
  | case6 links here step rest hhere hstay hup hlength place hentry hrest =>
      obtain ⟨rfl, rfl, -⟩ := Spot.absent.inj (Except.ok.inj h)
      -- only empty steps may follow, and the last step is none
      have hnil : rest = [] := by
        by_contra hne
        have hempty : rest.getLast hne = "" := by
          simpa using List.all_eq_true.mp hrest _ (List.getLast_mem hne)
        rw [List.getLast?_cons_of_ne_nil hne, List.getLast?_eq_some_getLast hne, hempty] at hlast
        exact hlast rfl
      subst hnil
      exact ⟨[], links, rfl, .done links here, ⟨by simpa using hhere, hstay, hup, hlength⟩⟩
  | case10 here step rest hhere hstay hup hlength _ target hentry hfollowed links _ ih =>
      have hne : rest ≠ [] := by
        rintro rfl
        simp at hfollowed
      have hlast' : (Path.steps target ++ rest).getLast? ≠ some "" := by
        rw [List.getLast?_append_of_ne_nil _ hne]
        rwa [List.getLast?_cons_of_ne_nil hne] at hlast
      obtain ⟨before, links', heq, hbefore, hname⟩ := ih hlast' h
      obtain ⟨front, last, rfl⟩ := List.eq_nil_or_concat rest |>.resolve_left hne
      rw [List.concat_eq_append, ← List.append_assoc] at heq
      obtain ⟨rfl, hsame⟩ := List.append_inj' heq rfl
      obtain rfl := List.singleton_inj.mp hsame
      exact ⟨step :: front, links', by simp,
        .link ⟨by simpa using hhere, hstay, hup, hlength⟩ hentry hbefore, hname⟩
  | case11 links here step rest hhere hstay hup hlength _ e hlink hentry ih =>
      rw [List.getLast?_cons_of_ne_nil (ne_nil_of_locate_absent h)] at hlast
      obtain ⟨before, links', rfl, hbefore, hname⟩ := ih hlast h
      exact ⟨step :: before, links', rfl, .enter ⟨by simpa using hhere, hstay, hup, hlength⟩ hentry
        (fun target he => hlink target he) hbefore, hname⟩
  | _ => cases h

/-- The names of a path that leads to nothing, slashes at its end apart and a link at the end left
alone, lead up to the directory in which there is none of the last name. -/
theorem follows_of_resolve_absent {path name : String} {parent : Place} {slashed : Bool}
    (h : t.resolve cwd false (withoutSlashes path) = .ok (.absent parent name slashed)) :
    ∃ before links, Path.names path = before ++ [name] ∧
      Follows t maxLinks (origin cwd path) before links parent ∧ t.CanFollow parent name ∧
      t.entry? (parent ++ [name]) = none := by
  obtain ⟨-, hlocate⟩ := locate_of_resolve h
  have hnames : Path.names path ≠ [] := by
    intro hnil
    obtain ⟨-, hnames⟩ := names_withoutSlashes path
    -- without names there is at most an empty step, which stays where it is
    rcases Path.steps_eq (withoutSlashes path) with hsteps | hsteps
    · rw [hsteps, hnames, hnil] at hlocate
      exact ne_nil_of_locate_absent hlocate rfl
    · rw [hsteps, hnames, hnil, List.nil_append, locate] at hlocate
      simp only [true_or, if_true] at hlocate
      split at hlocate
      · cases hlocate
      · exact ne_nil_of_locate_absent hlocate rfl
  rw [origin, (names_withoutSlashes path).1, ← origin, steps_withoutSlashes hnames] at hlocate
  have hlast : (Path.names path).getLast? ≠ some "" := fun hlast =>
    Path.ne_empty_of_mem_names (List.mem_of_getLast? hlast) rfl
  obtain ⟨before, links, hbefore, hfollows, hname⟩ := follows_of_locate_absent hlast hlocate
  exact ⟨before, links, hbefore, hfollows, hname, entry_eq_none_of_locate_absent hlocate⟩

/-- Such a path breaks off at its last name. -/
theorem breaksOff_of_resolve {path name : String} {parent : Place} {slashed : Bool}
    (h : t.resolve cwd false (withoutSlashes path) = .ok (.absent parent name slashed)) :
    t.BreaksOff cwd path [] := by
  obtain ⟨before, links, hbefore, hfollows, hname, hnone⟩ := follows_of_resolve_absent h
  exact ⟨before, name, links, parent, hbefore, hfollows, hname, hnone⟩

/-- Making a directory succeeds only where its path breaks off, and so does each attempt to make it
and its parents that changes anything. -/
theorem makeParents_eq_or_breaksOff (t : FileTree) (cwd : Place) (paths : List String) :
    (t.makeParents cwd paths).1 = t ∨ ∃ path ∈ paths, t.BreaksOff cwd path [] := by
  have hmade : ∀ {path : String} {t' : FileTree}, t.make cwd path .directory = .ok t' →
      t.BreaksOff cwd path [] := by
    intro path t' hmake
    unfold make at hmake
    split at hmake
    · cases hmake
    · cases hmake
    · next hspot => exact breaksOff_of_resolve hspot
  induction paths with
  | nil => exact .inl rfl
  | cons path parents ih =>
      unfold makeParents
      split
      · exact .inl rfl
      · split
        · next hmake => exact .inr ⟨path, List.mem_cons_self, hmade hmake⟩
        · next hmissing =>
          rcases ih with hsame | ⟨parent, hparent, hbreaks⟩
          · -- the parents are all there, and so the directory cannot be made now either
            left
            split
            · next heq => rwa [heq] at hsame
            · next heq =>
              rw [heq] at hsame
              obtain rfl := hsame
              rw [hmissing]
              split_ifs <;> rfl
          · exact .inr ⟨parent, List.mem_cons_of_mem _ hparent, hbreaks⟩
        · split_ifs <;> exact .inl rfl

/-- A path that begins with the names of one that breaks off does so too. -/
theorem BreaksOff.of_isPrefix {path longer : String} {after : List String}
    (h : t.BreaksOff cwd path after) (habsolute : Path.isAbsolute path = Path.isAbsolute longer)
    (hnames : Path.names path <+: Path.names longer) : ∃ after', t.BreaksOff cwd longer after' := by
  obtain ⟨before, name, links, here, hbefore, hfollows, hname, hnone⟩ := h
  obtain ⟨behind, hbehind⟩ := hnames
  rw [origin, habsolute, ← origin] at hfollows
  refine ⟨after ++ behind, before, name, links, here, ?_, hfollows, hname, hnone⟩
  rw [← hbehind, hbefore]
  simp

/-- **Directories are made only for a path that breaks off.** -/
theorem makeDirectories_eq_or_breaksOff (t : FileTree) (cwd : Place) (path : String) :
    (t.makeDirectories cwd path).1 = t ∨ ∃ after, t.BreaksOff cwd path after := by
  rcases makeParents_eq_or_breaksOff t cwd (ancestors (path.length + 1) path) with
    hsame | ⟨ancestor, hancestor, hbreaks⟩
  · exact .inl hsame
  · obtain ⟨habsolute, hnames⟩ := names_of_mem_ancestors hancestor
    exact .inr (hbreaks.of_isPrefix habsolute hnames)

/-! ## Where new directories lead -/

/-- What stands in a tree stands in a directory. -/
def Rooted (t : FileTree) : Prop :=
  ∀ p ∈ t.entries.map (·.1), t.isDirectory p.dropLast = true

instance : DecidablePred Rooted := fun t =>
  inferInstanceAs (Decidable (∀ p ∈ t.entries.map (·.1), t.isDirectory p.dropLast = true))

/-- Nothing stands below a place at which nothing stands. -/
theorem Rooted.entry_eq_none (h : t.Rooted) {p : Place} (hp : t.entry? p = none) (name : String) :
    t.entry? (p ++ [name]) = none := by
  by_contra hne
  obtain ⟨e, hentry⟩ := Option.ne_none_iff_exists'.mp hne
  have hlookup : t.entries.lookup (p ++ [name]) = some e := by
    unfold entry? at hentry
    simpa using hentry
  have hmem : p ++ [name] ∈ t.entries.map (·.1) := by
    obtain ⟨front, behind, heq, -⟩ := List.lookup_eq_some_iff.mp hlookup
    simp [heq]
  have hdirectory := isDirectory_iff.mp (h _ hmem)
  rw [List.dropLast_concat, hp] at hdirectory
  cases hdirectory

/-- **From a new directory, steps that do not go up lead to new places only.** -/
theorem Rooted.fresh_of_locate (h : t.Rooted) (hgrows : Grows t t') {follow : Bool} {links : Nat}
    {p : Place} {xs : List String} {spot : Spot} (hp : t.entry? p = none) (hup : ".." ∉ xs)
    (hspot : t'.locate follow links p xs = .ok spot) : t.entry? spot.place = none := by
  fun_induction locate t' follow links p xs with
  | case1 links here =>
      obtain rfl := Except.ok.inj hspot
      exact hp
  | case3 links here name rest _ _ ih =>
      exact ih hp (fun hrest => hup (List.mem_cons_of_mem _ hrest)) hspot
  | case4 links here rest _ _ ih => exact absurd List.mem_cons_self hup
  | case6 links here name rest _ _ _ _ place _ _ =>
      obtain rfl := Except.ok.inj hspot
      exact h.entry_eq_none hp name
  | case8 links here name rest _ _ _ _ place target hentry _ =>
      cases hgrows.directory (h.entry_eq_none hp name) hentry
  | case10 here name rest _ _ _ _ _ target hentry _ links _ ih =>
      cases hgrows.directory (h.entry_eq_none hp name) hentry
  | case11 links here name rest _ _ _ _ place e _ _ ih =>
      exact ih (h.entry_eq_none hp name) (fun hrest => hup (List.mem_cons_of_mem _ hrest)) hspot
  | _ => cases hspot

/-- **A path that broke off leads to a new place** when directories have been made, unless it goes
up behind the name where it broke off. -/
theorem BreaksOff.fresh {path : String} {after : List String} (hbreaks : t.BreaksOff cwd path after)
    (h : t.Rooted) (hgrows : Grows t t') (hup : ".." ∉ after) {spot : Spot}
    (hspot : t'.resolve cwd true path = .ok spot) : t.entry? spot.place = none := by
  obtain ⟨before, name, links, here, hnames, hfollows, hname, hnone⟩ := hbreaks
  obtain ⟨-, hlocate⟩ := locate_of_resolve hspot
  obtain ⟨rest, hsteps, hrest⟩ :
      ∃ rest, Path.steps path = before ++ name :: rest ∧ ".." ∉ rest := by
    rcases Path.steps_eq path with hsteps | hsteps
    · exact ⟨after, by rw [hsteps, hnames], hup⟩
    · exact ⟨after ++ [""], by simp [hsteps, hnames], by simpa using hup⟩
  rw [hsteps, (hgrows.keeps.follows hfollows).locate_append true (name :: rest) rfl] at hlocate
  have hname' := hgrows.keeps.canFollow hname
  cases hentry : t'.entry? (here ++ [name]) with
  | none =>
      rw [locate_name hname', hentry] at hlocate
      simp only at hlocate
      split at hlocate
      · obtain rfl := Except.ok.inj hlocate
        exact hnone
      · cases hlocate
  | some e =>
      obtain rfl := hgrows.directory hnone hentry
      rw [locate_enter hname' hentry (fun target he => by cases he)] at hlocate
      exact h.fresh_of_locate hgrows hnone hrest hlocate

/-! ## Writing -/

/-- A file is written at the place to which its path leads, unless a device stands there: then the
tree is as it was. -/
theorem writeFile_eq_ok {path : String} {bytes : ByteArray}
    (h : t.writeFile cwd path bytes = .ok t') :
    ∃ spot, t.resolve cwd true path = .ok spot ∧
      (t' = t.put spot.place (.file bytes) ∧
          (∀ e, t.entry? spot.place = some e → e.kind = .file ∨ e.kind = .link) ∨
        t' = t ∧ ∃ place device, spot = .found place ∧
          t.entry? place = some (.device device) ∧ device.refusal? = none) := by
  unfold writeFile at h
  split at h
  · split at h <;> cases h
  · split at h
    · cases h
    · next parent name slashed hspot =>
      split at h
      · cases h
      · refine ⟨_, hspot, .inl ⟨(Except.ok.inj h).symm, fun e hentry => ?_⟩⟩
        have hnone := entry_eq_none_of_locate_absent (locate_of_resolve hspot).2
        rw [Spot.place, hnone] at hentry
        cases hentry
    · next place hspot =>
      refine ⟨_, hspot, ?_⟩
      cases hplace : t.entry? place with
      | none =>
          rw [hplace] at h
          exact .inl ⟨(Except.ok.inj h).symm, fun e hentry => by cases hplace.symm.trans hentry⟩
      | some e =>
          rw [hplace] at h
          have hkind : ∀ e', t.entry? place = some e' → e' = e := fun e' hentry =>
            Option.some.inj (hentry.symm.trans hplace)
          cases e with
          | file old =>
              exact .inl ⟨(Except.ok.inj h).symm, fun e' hentry => .inl (hkind e' hentry ▸ rfl)⟩
          | link target =>
              exact .inl ⟨(Except.ok.inj h).symm, fun e' hentry => .inr (hkind e' hentry ▸ rfl)⟩
          | directory => cases h
          | device device =>
              simp only at h
              split at h
              · cases h
              · next hrefusal =>
                exact .inr ⟨(Except.ok.inj h).symm, place, device, rfl, hplace, hrefusal⟩

end FileTree

end Wording
