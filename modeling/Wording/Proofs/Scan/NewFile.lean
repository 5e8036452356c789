import Wording.Proofs.FileTree.NewFile
import Wording.Proofs.Scan.Preorder

/-!
# A walk past a new file

* `Walk.isOld` — the visit is not to the new file.
* `Walk.filter_inner_put`, `Walk.item_put` — a visit leads where it led, and to the new file; it
  yields what it yielded.
* `Walk.start_put` — the walk begins, or fails to begin, as it did.
* **`Walk.rest_put`** — a new file whose name is not wanted changes nothing in what a walk yields.

The tree has no links, for a link could have been one to the file while that was missing.
-/

namespace Wording.Walk

variable {t : FileTree} {cwd : Place} {f : FileFilter} {root : String} {top directory : Place}
  {fresh : String} {bytes : ByteArray}

/-- The visit is not to the entry at the place. -/
def isOld (top p : Place) (v : Visit) : Bool :=
  v.below?.all fun below => decide (top ++ below ≠ p)

/-! ## One visit -/

/-- The path of an entry that is visited is settled. -/
theorem Stands.settled (hwf : t.WellFormed) (hlinks : t.LinkFree) {path : String}
    {below : List String} {kind : EntryKind}
    (h : Stands t cwd root top (.entry path below kind)) : t.Settled cwd true path := by
  obtain ⟨parent, name, e, rfl, rfl, -, hpath, hdirectory, hentry⟩ := h.exists_of_entry
  rw [pathBelow_concat]
  exact FileTree.settled_join hpath hdirectory (hwf.isName hentry) hentry
    fun target htarget => hlinks _ target (htarget ▸ hentry)

/-- The path of a directory that is entered is settled. -/
theorem Enters.settled (hwf : t.WellFormed) (hlinks : t.LinkFree)
    (hroot : t.placeOf cwd true root = .ok top) {e : Entry} (htop : t.entry? top = some e)
    {v : Visit} {path : String} {below : List String} (h : Enters f v path below)
    (hstands : Stands t cwd root top v) : t.Settled cwd true path := by
  cases h with
  | root =>
      cases hstands
      exact FileTree.settled_of_placeOf hroot htop true
  | entry => exact hstands.settled hwf hlinks

/-- A visit to what stood is not to a new file. -/
theorem Stands.isOld_eq {p : Place} {e : Entry} (htop : t.entry? top = some e)
    (hnew : t.entry? p = none) {v : Visit} (h : Stands t cwd root top v) :
    isOld top p v = true := by
  have hne : ∀ {q d}, t.entry? q = some d → q ≠ p := by
    rintro q d hentry rfl
    rw [hnew] at hentry
    cases hentry
  cases h with
  | root => simpa [isOld, Visit.below?] using hne htop
  | unlisted => rfl
  | entry hpath hdirectory hentry =>
      rw [List.append_assoc] at hentry
      simpa [isOld, Visit.below?] using hne hentry

/-- A visit to the new file.  It leads nowhere, and yields nothing if the name is not wanted. -/
def IsNew (top directory : Place) (fresh : String) (v : Visit) : Prop :=
  ∃ path below, v = .entry path (below ++ [fresh]) .file ∧ top ++ below = directory

/-- What is made of a file, or of what might be one, stays the same. -/
theorem visitFile_put {p : Place} {path name relative : String} {kind : EntryKind}
    (h : t.Settled cwd true path) (hnew : t.entry? p = none) :
    visitFile (t.put p (.file bytes)) cwd f path name relative kind =
      visitFile t cwd f path name relative kind := by
  rw [visitFile, visitFile, h.isFile_put hnew, h.readItem_put hnew]

/-- A directory that is entered leads where it led, and to the new file. -/
theorem filter_enter_put {p : Place} (hwf : t.WellFormed)
    (hwf' : (t.put p (.file bytes)).WellFormed) (hroot : t.placeOf cwd true root = .ok top)
    (hnew : t.entry? p = none) {v : Visit} {path : String} {below : List String}
    (h : Enters f v path below) (hstands : Stands t cwd root top v)
    (hsettled : t.Settled cwd true path) :
    (enter (t.put p (.file bytes)) cwd path below).filter (isOld top p) =
      enter t cwd path below := by
  rw [enter, enter]
  rcases hsettled.list_put hnew bytes with
    ⟨fault, hlist, hlist'⟩ | ⟨place, hplace, hlist, hlist'⟩
  · rw [hlist, hlist']
    rfl
  · obtain ⟨-, rfl⟩ := h.placeOf hwf hroot hstands hplace
    rw [hlist, hlist', ← FileTree.children_put hwf hwf' hnew, List.filter_map]
    congr 1
    refine List.filter_congr fun child _ => ?_
    simp [isOld, Visit.below?]

section Visit

variable {p : Place} {e : Entry} {v : Visit}

/-- **A visit leads where it led**, and to the new file. -/
theorem filter_inner_put (hwf : t.WellFormed) (hwf' : (t.put p (.file bytes)).WellFormed)
    (hlinks : t.LinkFree) (hroot : t.placeOf cwd true root = .ok top)
    (htop : t.entry? top = some e) (hnew : t.entry? p = none) (h : Stands t cwd root top v) :
    (visit (t.put p (.file bytes)) cwd f v).inner.filter (isOld top p) =
      (visit t cwd f v).inner := by
  cases v with
  | unlisted path fault => rfl
  | root path =>
      cases h
      have hsettled := FileTree.settled_of_placeOf hroot htop
      refine visit_root_rel (R := fun new old => new.inner.filter (isOld top p) = old.inner)
        (fun follow => (hsettled follow).kindOf_put hnew) (fun fault => rfl) ?_ fun name kind => ?_
      · exact filter_enter_put (f := f) hwf hwf' hroot hnew (.root root) .root (hsettled true)
      · rw [inner_visitFile, inner_visitFile]
        rfl
  | entry path below kind =>
      rw [visit, visit]
      by_cases hkind : kind = .directory
      · subst hkind
        rw [if_pos rfl, if_pos rfl]
        by_cases hexcluded : f.excludes ("/".intercalate below) = true
        · rw [if_pos hexcluded, if_pos hexcluded]
          rfl
        · rw [if_neg hexcluded, if_neg hexcluded]
          have henters : Enters f (.entry path below .directory) path below :=
            .entry (by simpa using hexcluded)
          exact filter_enter_put hwf hwf' hroot hnew henters h
            (henters.settled hwf hlinks hroot htop h)
      · rw [if_neg hkind, if_neg hkind, inner_visitFile, inner_visitFile]
        rfl

/-- **A visit yields what it yielded.** -/
theorem item_put (hwf : t.WellFormed) (hlinks : t.LinkFree)
    (hroot : t.placeOf cwd true root = .ok top) (htop : t.entry? top = some e)
    (hnew : t.entry? p = none) (h : Stands t cwd root top v) :
    (visit (t.put p (.file bytes)) cwd f v).item = (visit t cwd f v).item := by
  cases v with
  | unlisted path fault => rfl
  | root path =>
      cases h
      have hsettled := FileTree.settled_of_placeOf hroot htop
      refine visit_root_rel (R := fun new old => new.item = old.item)
        (fun follow => (hsettled follow).kindOf_put hnew) (fun fault => rfl) rfl fun name kind => ?_
      rw [visitFile_put (hsettled true) hnew]
  | entry path below kind =>
      rw [visit, visit, visitFile_put (h.settled hwf hlinks) hnew]
      split_ifs <;> rfl

end Visit

/-! ## The new file -/

/-- Reading the new file leads nowhere. -/
theorem IsNew.inner_eq {t' : FileTree} {v : Visit} (h : IsNew top directory fresh v) :
    (visit t' cwd f v).inner = [] := by
  obtain ⟨path, below, rfl, -⟩ := h
  rw [visit, if_neg (by simp), inner_visitFile]

/-- Nothing is read of the new file if its name is not wanted. -/
theorem IsNew.item_eq {t' : FileTree} {v : Visit} (h : IsNew top directory fresh v)
    (hunwanted : f.qualifies fresh = false) : (visit t' cwd f v).item = none := by
  obtain ⟨path, below, rfl, -⟩ := h
  rw [visit, if_neg (by simp), visitFile]
  simp [hunwanted]

/-- The new file is not old. -/
theorem IsNew.isOld_eq {v : Visit} (h : IsNew top directory fresh v) :
    isOld top (directory ++ [fresh]) v = false := by
  obtain ⟨path, below, rfl, rfl⟩ := h
  simp [isOld, Visit.below?]

/-- **All visits are to what stood, or to the new file.** -/
theorem stands_or_isNew (hwf : t.WellFormed)
    (hwf' : (t.put (directory ++ [fresh]) (.file bytes)).WellFormed) (hlinks : t.LinkFree)
    (hroot : t.placeOf cwd true root = .ok top) {e : Entry} (htop : t.entry? top = some e)
    (hnew : t.entry? (directory ++ [fresh]) = none) {v w : Visit}
    (hv : Stands t cwd root top v ∨ IsNew top directory fresh v)
    (hw : w ∈ (visit (t.put (directory ++ [fresh]) (.file bytes)) cwd f v).inner) :
    Stands t cwd root top w ∨ IsNew top directory fresh w := by
  rcases hv with hstands | hnewFile
  · by_cases hold : isOld top (directory ++ [fresh]) w = true
    · left
      have hinner := List.mem_filter.mpr ⟨hw, hold⟩
      rw [filter_inner_put hwf hwf' hlinks hroot htop hnew hstands] at hinner
      exact hstands.inner hwf hroot hinner
    · right
      obtain ⟨path, below, henters, hstep⟩ := exists_enters_of_mem_inner hw
      rcases hstep with ⟨fault, -, rfl⟩ | ⟨names, name, kind, hlist, hmem, rfl⟩
      · exact absurd rfl hold
      · have hplace : top ++ below ++ [name] = directory ++ [fresh] := by
          simpa [isOld, Visit.below?] using hold
        obtain ⟨hdirectory, hname⟩ := List.append_inj' hplace rfl
        obtain rfl : name = fresh := List.singleton_inj.mp hname
        rcases (henters.settled hwf hlinks hroot htop hstands).list_put hnew bytes with
          ⟨fault, -, hfault⟩ | ⟨place, hfound, -, hnames⟩
        · rw [hlist] at hfault
          cases hfault
        · obtain ⟨-, rfl⟩ := henters.placeOf hwf hroot hstands hfound
          obtain rfl : names = _ := Except.ok.inj (hlist.symm.trans hnames)
          obtain ⟨d, hentry, rfl⟩ := hwf'.mem_children.mp hmem
          rw [FileTree.entry_put, if_pos ⟨by simp, hplace⟩] at hentry
          obtain rfl := Option.some.inj hentry
          exact ⟨_, below, rfl, hdirectory⟩
  · rw [hnewFile.inner_eq] at hw
    cases hw

/-- **A walk begins as it did**, or fails to begin. -/
theorem start_put {p : Place} (hroot : t.placeOf cwd true root = .ok top) {e : Entry}
    (htop : t.entry? top = some e) (hnew : t.entry? p = none) :
    start (t.put p (.file bytes)) cwd root f = start t cwd root f := by
  have hsettled := FileTree.settled_of_placeOf hroot htop true
  rw [start, start, hsettled.kindOf_put hnew]
  rcases hsettled.list_put hnew bytes with ⟨fault, hlist, hlist'⟩ | ⟨place, -, hlist, hlist'⟩
  · rw [hlist, hlist']
  · rw [hlist, hlist']

/-- **A new file whose name is not wanted changes nothing in what a walk yields.** -/
theorem rest_put (hwf : t.WellFormed)
    (hwf' : (t.put (directory ++ [fresh]) (.file bytes)).WellFormed) (hlinks : t.LinkFree)
    (hroot : t.placeOf cwd true root = .ok top) {e : Entry} (htop : t.entry? top = some e)
    (hnew : t.entry? (directory ++ [fresh]) = none) (hunwanted : f.qualifies fresh = false) :
    ((⟨f, [.root root]⟩ : Walk).rest (t.put (directory ++ [fresh]) (.file bytes)) cwd).1.map (·.2) =
      ((⟨f, [.root root]⟩ : Walk).rest t cwd).1.map (·.2) := by
  have hroot' : FileTree.placeOf (t.put (directory ++ [fresh]) (.file bytes)) cwd true root =
      .ok top :=
    ((FileTree.settled_of_placeOf hroot htop true).placeOf_put hnew).trans hroot
  obtain ⟨made, hmade⟩ := exists_explores_root (f := f) hwf' hroot'
  have hstep := fun v hv w hw => stands_or_isNew (f := f) (v := v) (w := w)
    hwf hwf' hlinks hroot htop hnew hv hw
  have hfirst : ∀ v ∈ [Visit.root root], Stands t cwd root top v ∨ IsNew top directory fresh v :=
    List.forall_mem_singleton.mpr (.inl .root)
  have hall := hmade.forall_mem hstep hfirst
  have hthin : Explores t cwd f ([Visit.root root].filter (isOld top (directory ++ [fresh])))
      (made.filter (isOld top (directory ++ [fresh]))) := by
    refine hmade.thin hstep (fun v hv => ?_) hfirst
    rcases hv with hstands | hnewFile
    · rw [filter_inner_put hwf hwf' hlinks hroot htop hnew hstands,
        hstands.isOld_eq htop hnew, if_pos rfl]
    · rw [hnewFile.inner_eq, hnewFile.isOld_eq]
      rfl
  have hold : isOld top (directory ++ [fresh]) (.root root) = true :=
    (Stands.root : Stands t cwd root top _).isOld_eq htop hnew
  rw [List.filter_cons_of_pos hold, List.filter_nil] at hthin
  rw [(hmade.rest_root hwf' hroot').1, (hthin.rest_root hwf hroot).1, itemsOf, itemsOf,
    List.filterMap_filter]
  refine List.filterMap_congr fun v hv => ?_
  rcases hall v hv with hstands | hnewFile
  · rw [item_put hwf hlinks hroot htop hnew hstands, hstands.isOld_eq htop hnew, if_pos rfl]
  · rw [hnewFile.item_eq hunwanted, hnewFile.isOld_eq]
    rfl

end Wording.Walk
