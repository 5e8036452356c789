import Mathlib.Data.List.Nodup
import Wording.Proofs.FileTree.Children
import Wording.Proofs.Scan.Exploration

/-!
# The order of a walk

* `Visit.below?` — the names from the root to the place that a visit is to.
* `Walk.Enters`, `Walk.inner_cases` — the visits in which a directory is listed; all others lead
  nowhere.
* `Walk.Stands` — the visit is to an entry of the tree, by a path that leads to its directory; what
  such a visit leads to is one again (`Walk.Stands.inner`).
* **`Walk.exists_explores_root`**, **`Walk.light_root`** — a walk comes to its end, and within its
  budget.
* `Walk.Explores.rest_root` — so the items of a walk are those of the visits it makes.
* **`Walk.Explores.pairwise_below`** — places are visited in the order of their names, compared
  from the root down, and none twice.

Nothing is assumed of the tree but that it is well formed: links may go in circles, and directories
may fail to be listed.
-/

namespace Wording

namespace FileTree

/-- A directory is listed if its path leads to it and it is not locked. -/
theorem list_eq_ok_iff {t : FileTree} {cwd : Place} {path : String}
    {names : List (String × EntryKind)} :
    t.list cwd path = .ok names ↔
      ∃ place, t.placeOf cwd true path = .ok place ∧ t.isDirectory place = true ∧
        place ∉ t.locked ∧ names = t.children place := by
  unfold list
  constructor
  · intro h
    split at h
    · cases h
    · next place hplace =>
      split_ifs at h with hdirectory hlocked
      exact ⟨place, hplace, by simpa using hdirectory, by simpa using hlocked,
        (Except.ok.inj h).symm⟩
  · rintro ⟨place, hplace, hdirectory, hlocked, rfl⟩
    simp [hplace, hdirectory, hlocked]

end FileTree

/-- The names from the root to the place that is visited, if the visit is to one. -/
def Visit.below? : Visit → Option (List String)
  | .root _ => some []
  | .entry _ below _ => some below
  | .unlisted _ _ => none

/-- The first of two visits is to a place before the other's, if both are to places. -/
def Visit.Before (v w : Visit) : Prop :=
  ∀ b b', v.below? = some b → w.below? = some b' → b < b'

namespace Walk

variable {t : FileTree} {cwd : Place} {f : FileFilter}

/-! ## What a visit leads to -/

/-- The visit is one in which the directory at the path, so far below the root, is listed. -/
inductive Enters (f : FileFilter) : Visit → String → List String → Prop where
  | root (path : String) : Enters f (.root path) path []
  | entry {path : String} {below : List String}
      (h : f.excludes ("/".intercalate below) = false) :
      Enters f (.entry path below .directory) path below

/-- Reading a file leads nowhere. -/
theorem inner_visitFile (path name relative : String) (kind : EntryKind) :
    (visitFile t cwd f path name relative kind).inner = [] := by
  unfold visitFile
  split_ifs <;> rfl

/-- **Two visits to a root of one kind** come to the same of three things: it is a failure, the root
is entered, or it is read.  What relates these relates the visits. -/
theorem visit_root_rel {t' : FileTree} {f' : FileFilter} {path : String}
    {R : Visited → Visited → Prop}
    (hkind : ∀ follow, t'.kindOf cwd follow path = t.kindOf cwd follow path)
    (hfail : ∀ fault, R (fail path fault) (fail path fault))
    (henter : R { inner := enter t' cwd path [] } { inner := enter t cwd path [] })
    (hfile : ∀ name kind,
      R (visitFile t' cwd f' path name "" kind) (visitFile t cwd f path name "" kind)) :
    R (visit t' cwd f' (.root path)) (visit t cwd f (.root path)) := by
  rw [visit, visit, hkind false, hkind true]
  split
  · exact hfail _
  · exact henter
  · split
    · exact hfail _
    · exact henter
    · exact hfile _ _
  · exact hfile _ _

/-- **A visit leads nowhere or into a directory.** -/
theorem inner_cases (v : Visit) :
    (visit t cwd f v).inner = [] ∨
      ∃ path below, Enters f v path below ∧
        (visit t cwd f v).inner = enter t cwd path below := by
  cases v with
  | unlisted path fault => exact .inl rfl
  | root path =>
      have hroot : (visit t cwd f (.root path)).inner = [] ∨
          (visit t cwd f (.root path)).inner = enter t cwd path [] := by
        rw [visit]
        split
        · exact .inl rfl
        · exact .inr rfl
        · split
          · exact .inl rfl
          · exact .inr rfl
          · exact .inl (inner_visitFile _ _ _ _)
        · exact .inl (inner_visitFile _ _ _ _)
      exact hroot.imp_right fun h => ⟨path, [], .root path, h⟩
  | entry path below kind =>
      rw [visit]
      split
      · next hkind =>
        subst hkind
        split
        · exact .inl rfl
        · next h => exact .inr ⟨path, below, .entry (by simpa using h), rfl⟩
      · exact .inl (inner_visitFile _ _ _ _)

/-- A directory leads to the entries that it lists, or to the failure to list it. -/
theorem mem_enter_iff {path : String} {below : List String} {w : Visit} :
    w ∈ enter t cwd path below ↔
      (∃ fault, t.list cwd path = .error fault ∧ w = .unlisted path fault) ∨
        ∃ names name kind, t.list cwd path = .ok names ∧ (name, kind) ∈ names ∧
          w = .entry (Path.join path name) (below ++ [name]) kind := by
  unfold enter
  cases t.list cwd path with
  | error fault => simp
  | ok names =>
      rw [List.mem_map]
      constructor
      · rintro ⟨⟨name, kind⟩, hmem, rfl⟩
        exact .inr ⟨names, name, kind, rfl, hmem, rfl⟩
      · rintro (⟨_, ⟨⟩, _⟩ | ⟨_, name, kind, ⟨⟩, hmem, rfl⟩)
        exact ⟨(name, kind), hmem, rfl⟩

/-- **What a visit leads to** is a failure to list the directory entered, or an entry that the
directory lists. -/
theorem exists_enters_of_mem_inner {v w : Visit} (hw : w ∈ (visit t cwd f v).inner) :
    ∃ path below, Enters f v path below ∧
      ((∃ fault, t.list cwd path = .error fault ∧ w = .unlisted path fault) ∨
        ∃ names name kind, t.list cwd path = .ok names ∧ (name, kind) ∈ names ∧
          w = .entry (Path.join path name) (below ++ [name]) kind) := by
  rcases (inner_cases v : (visit t cwd f v).inner = [] ∨ _) with
    hnil | ⟨path, below, henters, hinner⟩
  · rw [hnil] at hw
    cases hw
  · rw [hinner] at hw
    exact ⟨path, below, henters, mem_enter_iff.mp hw⟩

/-- A directory that could not be listed leads only to itself. -/
theorem eq_of_leads_unlisted {path : String} {fault : IoFault} {w : Visit}
    (h : Leads t cwd f (.unlisted path fault) w) : w = .unlisted path fault := by
  rcases Relation.ReflTransGen.cases_head h with h | ⟨u, hu, -⟩
  · exact h.symm
  · cases hu

/-- A directory that is entered is at the place of the visit. -/
theorem Enters.below?_eq {v : Visit} {path : String} {below : List String}
    (h : Enters f v path below) : v.below? = some below := by
  cases h with
  | root => rfl
  | entry => rfl

/-- One step leads below the place visited, or to a failure. -/
theorem below_of_mem_inner {v u : Visit} {b : List String} (hu : u ∈ (visit t cwd f v).inner)
    (hv : v.below? = some b) :
    (∃ name, u.below? = some (b ++ [name])) ∨ ∃ path fault, u = .unlisted path fault := by
  obtain ⟨path, below, henters, hstep⟩ := exists_enters_of_mem_inner hu
  obtain rfl := Option.some.inj (henters.below?_eq.symm.trans hv)
  rcases hstep with ⟨fault, -, rfl⟩ | ⟨_, name, kind, -, -, rfl⟩
  · exact .inr ⟨path, fault, rfl⟩
  · exact .inl ⟨name, rfl⟩

/-- **The visit to a place leads to places below it.** -/
theorem isPrefix_of_leads {v w : Visit} {b b' : List String} (h : Leads t cwd f v w)
    (hv : v.below? = some b) (hw : w.below? = some b') : b <+: b' := by
  induction h using Relation.ReflTransGen.head_induction_on generalizing b with
  | refl =>
      obtain rfl : b = b' := Option.some.inj (hv.symm.trans hw)
      exact List.prefix_rfl
  | head hu hlead ih =>
      rcases below_of_mem_inner hu hv with ⟨name, hbelow⟩ | ⟨path, fault, rfl⟩
      · exact (List.prefix_append b [name]).trans (ih hbelow)
      · rw [eq_of_leads_unlisted hlead] at hw
        cases hw

/-! ## The order of visits -/

/-- A place is before those below it. -/
theorem lt_of_append_prefix {b b' : List String} {name : String} (h : b ++ [name] <+: b') :
    b < b' := by
  obtain ⟨rest, rfl⟩ := h
  rw [List.append_assoc]
  induction b with
  | nil => exact List.nil_lt_cons _ _
  | cons x b ih => exact List.cons_lt_cons_self.mpr ih

/-- Places below two names of a directory are in the order of the names. -/
theorem lt_of_names_lt {below b b' : List String} {m n : String} (hmn : m < n)
    (hb : below ++ [m] <+: b) (hb' : below ++ [n] <+: b') : b < b' := by
  obtain ⟨rest, rfl⟩ := hb
  obtain ⟨rest', rfl⟩ := hb'
  rw [List.append_assoc, List.append_assoc]
  exact List.append_left_lt (List.cons_lt_cons_iff.mpr (.inl hmn))

/-- A place is visited before all that its visit leads to. -/
theorem before_of_mem_inner {v u w : Visit} (hu : u ∈ (visit t cwd f v).inner)
    (hlead : Leads t cwd f u w) : v.Before w := by
  intro b b' hv hw
  rcases below_of_mem_inner hu hv with ⟨name, hbelow⟩ | ⟨path, fault, rfl⟩
  · exact lt_of_append_prefix (isPrefix_of_leads hlead hbelow hw)
  · rw [eq_of_leads_unlisted hlead] at hw
    cases hw

/-- The entries of a directory are visited in the order of their names, each with all that its visit
leads to. -/
theorem pairwise_enter (hwf : t.WellFormed) (path : String) (below : List String) :
    (enter t cwd path below).Pairwise fun a b =>
      ∀ a' b', Leads t cwd f a a' → Leads t cwd f b b' → a'.Before b' := by
  unfold enter
  cases hlist : t.list cwd path with
  | error fault => exact List.pairwise_singleton _ _
  | ok names =>
      obtain ⟨place, -, -, -, rfl⟩ := FileTree.list_eq_ok_iff.mp hlist
      refine List.pairwise_map.mpr ((hwf.pairwise_children place).imp ?_)
      intro x y hxy a' b' ha hb c c' hc hc'
      exact lt_of_names_lt hxy (isPrefix_of_leads ha rfl hc) (isPrefix_of_leads hb rfl hc')

/-- What a visit leads to is visited in order. -/
theorem pairwise_inner (hwf : t.WellFormed) (v : Visit) :
    (visit t cwd f v).inner.Pairwise fun a b =>
      ∀ a' b', Leads t cwd f a a' → Leads t cwd f b b' → a'.Before b' := by
  rcases (inner_cases v : (visit t cwd f v).inner = [] ∨ _) with hnil | ⟨path, below, -, hinner⟩
  · rw [hnil]
    exact .nil
  · rw [hinner]
    exact pairwise_enter hwf path below

/-- **Places are visited in the order of their names**, compared from the root down. -/
theorem Explores.pairwise_below (hwf : t.WellFormed) {root : String} {made : List Visit}
    (h : Explores t cwd f [.root root] made) :
    (made.filterMap Visit.below?).Pairwise (· < ·) := by
  have hbefore : made.Pairwise Visit.Before :=
    h.pairwise (fun v u hu w hlead => before_of_mem_inner hu hlead) (pairwise_inner hwf)
      (List.pairwise_singleton _ _)
  exact List.pairwise_filterMap.mpr (hbefore.imp fun hvw b hb b' hb' => hvw b b' hb hb')

/-! ## Where the visits are -/

/-- The path of an entry: the root's path with the names from the root to the entry. -/
def pathBelow (root : String) (below : List String) : String :=
  below.foldl Path.join root

/-- The visit is to the root or to an entry of the tree, by a path that leads to its directory. -/
inductive Stands (t : FileTree) (cwd : Place) (root : String) (top : Place) : Visit → Prop where
  | root : Stands t cwd root top (.root root)
  | unlisted (path : String) (fault : IoFault) : Stands t cwd root top (.unlisted path fault)
  | entry {below : List String} {name : String} {e : Entry}
      (hpath : t.placeOf cwd true (pathBelow root below) = .ok (top ++ below))
      (hdirectory : t.isDirectory (top ++ below) = true)
      (hentry : t.entry? (top ++ below ++ [name]) = some e) :
      Stands t cwd root top (.entry (pathBelow root (below ++ [name])) (below ++ [name]) e.kind)

/-- An entry's path is its directory's path with its name. -/
theorem pathBelow_concat (root : String) (below : List String) (name : String) :
    pathBelow root (below ++ [name]) = Path.join (pathBelow root below) name := by
  rw [pathBelow, List.foldl_append]
  rfl

/-- A visit to an entry has its path, its kind and its directory. -/
theorem Stands.exists_of_entry {root path : String} {top : Place} {below : List String}
    {kind : EntryKind} (h : Stands t cwd root top (.entry path below kind)) :
    ∃ parent name e, below = parent ++ [name] ∧ path = pathBelow root (parent ++ [name]) ∧
      e.kind = kind ∧ t.placeOf cwd true (pathBelow root parent) = .ok (top ++ parent) ∧
      t.isDirectory (top ++ parent) = true ∧ t.entry? (top ++ parent ++ [name]) = some e := by
  generalize hv : Visit.entry path below kind = v at h
  cases h with
  | root => cases hv
  | unlisted => cases hv
  | @entry parent name e hpath hdirectory hentry =>
      obtain ⟨rfl, rfl, rfl⟩ := Visit.entry.inj hv
      exact ⟨parent, name, e, rfl, rfl, rfl, hpath, hdirectory, hentry⟩

/-- **A directory that is listed when the walk enters it is the one that stands there.** -/
theorem Enters.placeOf (hwf : t.WellFormed) {root path : String} {top place : Place}
    {below : List String} {v : Visit} (hroot : t.placeOf cwd true root = .ok top)
    (h : Enters f v path below) (hstands : Stands t cwd root top v)
    (hplace : t.placeOf cwd true path = .ok place) :
    path = pathBelow root below ∧ place = top ++ below := by
  cases h with
  | root =>
      cases hstands
      rw [hroot] at hplace
      exact ⟨rfl, by rw [List.append_nil, Except.ok.inj hplace]⟩
  | entry =>
      obtain ⟨parent, name, e, rfl, rfl, hkind, hpath, hdirectory, hentry⟩ :=
        hstands.exists_of_entry
      have hlink : ∀ target, e ≠ .link target := by
        rintro target rfl
        cases hkind
      rw [pathBelow_concat] at hplace ⊢
      rw [← List.append_assoc]
      exact ⟨rfl, FileTree.placeOf_join hpath hdirectory (hwf.isName hentry) hentry hlink hplace⟩

/-- **What a visit leads to stands in the tree** as the visit does. -/
theorem Stands.inner (hwf : t.WellFormed) {root : String} {top : Place} {v w : Visit}
    (hroot : t.placeOf cwd true root = .ok top) (h : Stands t cwd root top v)
    (hw : w ∈ (visit t cwd f v).inner) : Stands t cwd root top w := by
  obtain ⟨path, below, henters, hstep⟩ := exists_enters_of_mem_inner hw
  rcases hstep with ⟨fault, -, rfl⟩ | ⟨names, name, kind, hlist, hmem, rfl⟩
  · exact .unlisted path fault
  · obtain ⟨place, hplace, hdirectory, -, rfl⟩ := FileTree.list_eq_ok_iff.mp hlist
    obtain ⟨rfl, rfl⟩ := henters.placeOf hwf hroot h hplace
    obtain ⟨e, hentry, rfl⟩ := hwf.mem_children.mp hmem
    rw [← pathBelow_concat]
    exact .entry hplace hdirectory hentry

/-- All visits of a walk stand in the tree. -/
theorem Stands.leads (hwf : t.WellFormed) {root : String} {top : Place} {v w : Visit}
    (hroot : t.placeOf cwd true root = .ok top) (h : Stands t cwd root top v)
    (hlead : Leads t cwd f v w) : Stands t cwd root top w := by
  induction hlead with
  | refl => exact h
  | tail _ hw ih => exact ih.inner hwf hroot hw

/-- A place below the root that is visited is listed in the tree. -/
theorem Stands.mem_places (hwf : t.WellFormed) {root : String} {top : Place} {v : Visit}
    {below : List String} (h : Stands t cwd root top v) (hbelow : v.below? = some below) :
    below = [] ∨ top ++ below ∈ t.entries.map (·.1) := by
  cases h with
  | root => exact .inl (Option.some.inj hbelow).symm
  | unlisted => cases hbelow
  | entry hpath hdirectory hentry =>
      obtain rfl := Option.some.inj hbelow
      rw [← List.append_assoc]
      exact .inr (List.mem_map_of_mem (hwf.mem_entries_append_iff.mpr hentry))

/-! ## The end of the walk -/

/-- The most names in any place of the tree. -/
def depth (t : FileTree) : Nat :=
  (t.entries.map fun e => e.1.length).max?.getD 0

/-- How far a visit can lead. -/
def rank (t : FileTree) : Visit → Nat
  | .root _ => depth t + 1
  | .entry _ below _ => depth t + 1 - below.length
  | .unlisted _ _ => 0

/-- No place that is visited is deeper below the root than the tree. -/
theorem Stands.length_le_depth (hwf : t.WellFormed) {root : String} {top : Place} {v : Visit}
    {below : List String} (h : Stands t cwd root top v) (hbelow : v.below? = some below) :
    below.length ≤ depth t := by
  rcases h.mem_places hwf hbelow with rfl | hmem
  · exact Nat.zero_le _
  · obtain ⟨e, he, heq⟩ := List.mem_map.mp hmem
    have hlength : e.1.length ≤ depth t := List.le_max?_getD_of_mem (List.mem_map_of_mem he)
    rw [heq, List.length_append] at hlength
    omega

/-- A visit leads to visits that lead less far. -/
theorem rank_lt_of_mem_inner (hwf : t.WellFormed) {root : String} {top : Place} {v w : Visit}
    (hroot : t.placeOf cwd true root = .ok top) (h : Stands t cwd root top v)
    (hw : w ∈ (visit t cwd f v).inner) : rank t w < rank t v := by
  have hw' := h.inner hwf hroot hw
  obtain ⟨path, below, henters, hstep⟩ := exists_enters_of_mem_inner hw
  have hv : rank t v = depth t + 1 - below.length := by
    cases henters with
    | root => rfl
    | entry => rfl
  have hdeep : below.length ≤ depth t := h.length_le_depth hwf henters.below?_eq
  rcases hstep with ⟨fault, -, rfl⟩ | ⟨_, name, kind, -, -, rfl⟩
  · rw [hv, rank]
    omega
  · have hlength := hw'.length_le_depth hwf rfl
    rw [List.length_append, List.length_singleton] at hlength
    rw [hv, rank, List.length_append, List.length_singleton]
    omega

/-- **A walk comes to its end.** -/
theorem exists_explores_root (hwf : t.WellFormed) {root : String} {top : Place}
    (hroot : t.placeOf cwd true root = .ok top) :
    ∃ made, Explores t cwd f [.root root] made :=
  exists_explores (Stands t cwd root top) (rank t)
    (fun _ h _ hw => ⟨h.inner hwf hroot hw, rank_lt_of_mem_inner hwf hroot h hw⟩) .root

/-- A directory that could not be listed is visited. -/
def isFailed (v : Visit) : Bool :=
  v.below?.isNone

/-- A visit leads to one failure at most, and a failure leads nowhere. -/
theorem countP_isFailed_inner (v : Visit) :
    (visit t cwd f v).inner.countP isFailed + (if isFailed v then 1 else 0) ≤ 1 := by
  rcases (inner_cases v : (visit t cwd f v).inner = [] ∨ _) with hnil | ⟨path, below, henters, hinner⟩
  · rw [hnil]
    simp only [List.countP_nil]
    split_ifs <;> omega
  · have hv : isFailed v = false := by cases henters <;> rfl
    rw [hinner, hv, enter]
    cases t.list cwd path with
    | error fault => simp [isFailed, Visit.below?]
    | ok names => simp [isFailed, Visit.below?, List.countP_map, Function.comp_def]

/-- Each failure on a walk comes right after the visit to a place, or was pending. -/
theorem Explores.countP_isFailed_le {pending made : List Visit}
    (h : Explores t cwd f pending made) :
    made.countP isFailed ≤ pending.countP isFailed + made.countP fun v => !isFailed v := by
  induction h with
  | nil => simp
  | @cons v pending made _ ih =>
      have hv : (visit t cwd f v).inner.countP isFailed + (if isFailed v then 1 else 0) ≤ 1 :=
        countP_isFailed_inner v
      rw [List.countP_append] at ih
      rw [List.countP_cons, List.countP_cons, List.countP_cons]
      cases hfailed : isFailed v with
      | true =>
          rw [hfailed, if_pos rfl] at hv
          simp only [if_pos, Bool.not_true, Bool.false_eq_true, if_false]
          omega
      | false =>
          rw [hfailed] at hv
          simp only [Bool.false_eq_true, if_false, Bool.not_false, if_true]
          omega

/-- No place is visited twice, so no more places than there are. -/
theorem Explores.countP_not_isFailed_le (hwf : t.WellFormed) {root : String} {top : Place}
    (hroot : t.placeOf cwd true root = .ok top) {made : List Visit}
    (h : Explores t cwd f [.root root] made) :
    (made.countP fun v => !isFailed v) ≤ t.entries.length + 1 := by
  -- the places visited are distinct, and each is the root or listed in the tree
  have hcount : (made.countP fun v => !isFailed v) = (made.filterMap Visit.below?).length := by
    rw [List.length_filterMap_eq_countP]
    exact List.countP_congr fun v _ => by simp [isFailed]
  have hnodup : ((made.filterMap Visit.below?).map (top ++ ·)).Nodup := by
    refine List.Nodup.map (List.append_right_injective top) ?_
    exact (h.pairwise_below hwf).imp fun hlt => ne_of_lt hlt
  have hsubset : (made.filterMap Visit.below?).map (top ++ ·) ⊆ top :: t.entries.map (·.1) := by
    intro place hplace
    obtain ⟨below, hbelow, rfl⟩ := List.mem_map.mp hplace
    obtain ⟨v, hv, hbelow⟩ := List.mem_filterMap.mp hbelow
    obtain ⟨u, hu, hlead⟩ := h.mem_iff.mp hv
    obtain rfl := List.mem_singleton.mp hu
    have hstands : Stands t cwd root top v := Stands.root.leads hwf hroot hlead
    rcases hstands.mem_places hwf hbelow with rfl | hmem
    · simp
    · exact List.mem_cons_of_mem _ hmem
  have hlength := hnodup.length_le_of_subset hsubset
  rw [List.length_map, List.length_cons, List.length_map] at hlength
  omega

/-- **A walk comes to its end within its budget.** -/
theorem light_root (hwf : t.WellFormed) {root : String} {top : Place}
    (hroot : t.placeOf cwd true root = .ok top) : Light t cwd f (share t) (.root root) := by
  obtain ⟨made, hmade⟩ := exists_explores_root (f := f) hwf hroot
  refine ⟨made, hmade, ?_⟩
  have hfailed := hmade.countP_isFailed_le
  have hplaces := hmade.countP_not_isFailed_le hwf hroot
  have hall : made.length = made.countP isFailed + made.countP fun v => !isFailed v := by
    rw [List.length_eq_countP_add_countP isFailed]
    simp
  have hpending : ([.root root] : List Visit).countP isFailed = 0 := rfl
  rw [hall, share]
  omega

/-- **The items of a walk are those of the visits that it makes**, and then the walk is over. -/
theorem Explores.rest_root (hwf : t.WellFormed) {root : String} {top : Place}
    (hroot : t.placeOf cwd true root = .ok top) {made : List Visit}
    (h : Explores t cwd f [.root root] made) :
    ((⟨f, [.root root]⟩ : Walk).rest t cwd).1.map (·.2) = itemsOf t cwd f made ∧
      ((⟨f, [.root root]⟩ : Walk).rest t cwd).2.2 = ⟨f, []⟩ :=
  h.rest_spec (List.forall_mem_singleton.mpr (light_root hwf hroot))

end Walk

end Wording
