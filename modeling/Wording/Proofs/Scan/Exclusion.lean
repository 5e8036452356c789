import Mathlib.Data.List.Infix
import Wording.Proofs.Glob.Literal
import Wording.Proofs.Scan.Below
import Wording.Proofs.Scan.Yield

/-!
# What exclusion patterns take out of a walk

* `FileFilter.spares` — a filter excludes neither an entry nor a directory above it.
* `Walk.exists_rest_of_excluded` — a walk yields what a walk without exclusions yields, but for the
  entries that are not spared.
* **`Walk.rest_without_named`** — a name as a pattern takes out the entry of this name in the root,
  and `**/*` before a text takes out the entries whose names end with the text, each with all that
  is below it.
-/

namespace Wording

namespace FileFilter

variable {f : FileFilter}

/-- The filter with no patterns of paths to leave out. -/
def unrestricted (f : FileFilter) : FileFilter :=
  { f with excluded := [] }

/-- Nothing is left out without patterns. -/
theorem excludes_unrestricted (f : FileFilter) (path : String) :
    f.unrestricted.excludes path = false := by
  simp [unrestricted, excludes]

/-- Neither the entry so far below the root nor a directory between the two is left out. -/
def spares (f : FileFilter) (below : List String) : Bool :=
  below.inits.all fun d => !f.excludes ("/".intercalate d)

/-- An entry is spared if it is not left out itself, and its directory is spared. -/
theorem spares_concat (f : FileFilter) (below : List String) (name : String) :
    f.spares (below ++ [name]) =
      (f.spares below && !f.excludes ("/".intercalate (below ++ [name]))) := by
  simp [spares, List.inits_append]

/-- The root is spared. -/
theorem spares_nil (f : FileFilter) : f.spares [] = true := rfl

end FileFilter

namespace Walk

variable {t : FileTree} {cwd : Place} {f : FileFilter} {root : String} {top : Place}

/-! ## One visit -/

/-- A visit leads nowhere if its place is left out, and else where it leads without patterns. -/
theorem inner_eq_unrestricted (v : Visit) :
    (visit t cwd f v).inner =
      if v.below?.any fun b => f.excludes ("/".intercalate b) then []
      else (visit t cwd f.unrestricted v).inner := by
  cases v with
  | unlisted path fault => rfl
  | root path =>
      rw [Visit.below?, Option.any_some, excludes_root, if_neg Bool.false_ne_true]
      refine visit_root_rel (R := fun a b => a.inner = b.inner) (fun follow => rfl)
        (fun fault => rfl) rfl fun name kind => ?_
      rw [inner_visitFile, inner_visitFile]
  | entry path below kind =>
      rw [visit, visit, FileFilter.excludes_unrestricted, Visit.below?, Option.any_some]
      by_cases hkind : kind = .directory
      · rw [if_pos hkind, if_pos hkind, if_neg Bool.false_ne_true]
        split_ifs <;> rfl
      · rw [if_neg hkind, if_neg hkind, inner_visitFile, inner_visitFile, ite_self]

/-- A visit yields nothing if its place is left out, and else what it yields without patterns. -/
theorem item_eq_unrestricted (v : Visit) :
    (visit t cwd f v).item =
      if v.below?.any fun b => f.excludes ("/".intercalate b) then none
      else (visit t cwd f.unrestricted v).item := by
  have hvisit : ∀ path name relative kind,
      (visitFile t cwd f path name relative kind).item =
        if f.excludes relative then none
        else (visitFile t cwd f.unrestricted path name relative kind).item := by
    intro path name relative kind
    have hqualifies : f.unrestricted.qualifies name = f.qualifies name := rfl
    rw [visitFile, visitFile, hqualifies, FileFilter.excludes_unrestricted,
      if_neg Bool.false_ne_true]
    split_ifs <;> rfl
  cases v with
  | unlisted path fault => rfl
  | root path =>
      rw [Visit.below?, Option.any_some, excludes_root, if_neg Bool.false_ne_true]
      exact visit_root_rel (R := fun a b => a.item = b.item) (fun follow => rfl) (fun fault => rfl)
        rfl fun name kind => hvisit path name "" kind
  | entry path below kind =>
      rw [visit, visit, FileFilter.excludes_unrestricted, Visit.below?, Option.any_some]
      by_cases hkind : kind = .directory
      · rw [if_pos hkind, if_pos hkind, if_neg Bool.false_ne_true]
        split_ifs <;> rfl
      · rw [if_neg hkind, if_neg hkind]
        exact hvisit _ _ _ _

/-- The visit is to a place whose directory is spared. -/
def isSpared (f : FileFilter) (v : Visit) : Bool :=
  v.below?.all fun b => f.spares b.dropLast

/-- A place is spared if its directory is, and it is not left out itself. -/
theorem spares_eq (f : FileFilter) (below : List String) :
    f.spares below = (f.spares below.dropLast && !f.excludes ("/".intercalate below)) := by
  induction below using List.reverseRecOn with
  | nil => rfl
  | append_singleton below name _ => rw [FileFilter.spares_concat, List.dropLast_concat]

/-! ## Two walks -/

/-- Of what a visit leads to without patterns, what is spared is what it leads to with them. -/
theorem filter_inner (hwf : t.WellFormed) (hroot : t.placeOf cwd true root = .ok top)
    (htop : t.isDirectory top = true) (hreadable : Readable t cwd root top) {v : Visit}
    (hlead : Leads t cwd f.unrestricted (.root root) v) :
    (visit t cwd f.unrestricted v).inner.filter (isSpared f) =
      if isSpared f v then (visit t cwd f v).inner else [] := by
  cases hbelow : v.below? with
  | none =>
      cases v with
      | root path => cases hbelow
      | entry path below kind => cases hbelow
      | unlisted path fault => rfl
  | some below =>
      -- whatever the visit leads to is right below its place
      have hinner : ∀ u ∈ (visit t cwd f.unrestricted v).inner, isSpared f u = f.spares below := by
        intro u hu
        rcases below_of_mem_inner hu hbelow with ⟨name, hname⟩ | ⟨path, fault, rfl⟩
        · rw [isSpared, hname, Option.all_some, List.dropLast_concat]
        · exact absurd (hlead.tail hu) (not_leads_unlisted hwf hroot htop hreadable)
      have hfilter : (visit t cwd f.unrestricted v).inner.filter (isSpared f) =
          if f.spares below then (visit t cwd f.unrestricted v).inner else [] := by
        rw [List.filter_congr hinner]
        cases f.spares below <;> simp
      rw [hfilter, spares_eq f below, inner_eq_unrestricted (f := f) v, isSpared, hbelow,
        Option.any_some, Option.all_some]
      cases f.spares below.dropLast <;> cases f.excludes ("/".intercalate below) <;> rfl

/-- The item of the file so far below the root. -/
def itemBelow (t : FileTree) (cwd : Place) (root : String) (below : List String) : Item :=
  t.readItem cwd (pathBelow root below)

/-- The place that a visit yields an item of. -/
def placeOfItem? (t : FileTree) (cwd : Place) (f : FileFilter) (v : Visit) :
    Option (List String) :=
  (visit t cwd f v).item.bind fun _ => v.below?

/-- **The item of a visit** is that of a file below the root, at the place of the visit. -/
theorem placeOfItem?_eq_some (hwf : t.WellFormed) (hroot : t.placeOf cwd true root = .ok top)
    (htop : t.isDirectory top = true) (hreadable : Readable t cwd root top) {v : Visit}
    {item : Item} (hlead : Leads t cwd f (.root root) v)
    (hitem : (visit t cwd f v).item = some item) :
    ∃ below, placeOfItem? t cwd f v = some below ∧ v.below? = some below ∧ below ≠ [] ∧
      (∀ name ∈ below, FileTree.IsName name) ∧ item = itemBelow t cwd root below := by
  have hplace : placeOfItem? t cwd f v = v.below? := by
    rw [placeOfItem?, hitem]
    rfl
  have hstands : Stands t cwd root top v := Stands.root.leads hwf hroot hlead
  rw [hplace]
  cases hstands with
  | root =>
      rw [item_root hroot htop] at hitem
      cases hitem
  | unlisted path fault => exact absurd hlead (not_leads_unlisted hwf hroot htop hreadable)
  | @entry below name e hpath hdirectory hentry =>
      rw [List.append_assoc] at hentry
      refine ⟨below ++ [name], rfl, rfl, by simp, hwf.isName_of_mem (by simp) hentry, ?_⟩
      rw [visit] at hitem
      split at hitem
      · split at hitem <;> cases hitem
      · exact (item_visitFile_eq_some_iff.mp hitem).2.2.2.symm

/-- A visit yields the same with patterns as without if its place is spared, and else nothing. -/
theorem item_eq_of_leads (hwf : t.WellFormed) (hroot : t.placeOf cwd true root = .ok top)
    (htop : t.isDirectory top = true) (hreadable : Readable t cwd root top) {v : Visit}
    (hlead : Leads t cwd f.unrestricted (.root root) v) :
    (visit t cwd f.unrestricted v).item =
        (placeOfItem? t cwd f.unrestricted v).map (itemBelow t cwd root) ∧
      (if isSpared f v then (visit t cwd f v).item else none) =
        ((placeOfItem? t cwd f.unrestricted v).filter f.spares).map (itemBelow t cwd root) := by
  rw [item_eq_unrestricted (f := f)]
  cases hitem : (visit t cwd f.unrestricted v).item with
  | none =>
      have hnone : placeOfItem? t cwd f.unrestricted v = none := by
        rw [placeOfItem?, hitem]
        rfl
      rw [hnone, ite_self, ite_self]
      exact ⟨rfl, rfl⟩
  | some item =>
      obtain ⟨below, hplace, hbelow, -, -, rfl⟩ :=
        placeOfItem?_eq_some hwf hroot htop hreadable hlead hitem
      rw [hplace, isSpared, hbelow, Option.any_some, Option.all_some, Option.filter_some,
        spares_eq f below]
      refine ⟨rfl, ?_⟩
      cases f.spares below.dropLast <;> cases f.excludes ("/".intercalate below) <;> rfl

/-- **A walk yields what a walk without patterns yields**, in the same order, but for what is not
spared. -/
theorem exists_rest_of_excluded (hwf : t.WellFormed) (hroot : t.placeOf cwd true root = .ok top)
    (htop : t.isDirectory top = true) (hreadable : Readable t cwd root top) (f : FileFilter) :
    ∃ belows : List (List String),
      (∀ below ∈ belows, below ≠ [] ∧ ∀ name ∈ below, FileTree.IsName name) ∧
      ((⟨f.unrestricted, [.root root]⟩ : Walk).rest t cwd).1.map (·.2) =
        belows.map (itemBelow t cwd root) ∧
      ((⟨f, [.root root]⟩ : Walk).rest t cwd).1.map (·.2) =
        (belows.filter f.spares).map (itemBelow t cwd root) ∧
      ((⟨f, [.root root]⟩ : Walk).rest t cwd).2.2 = ⟨f, []⟩ := by
  obtain ⟨made, hmade⟩ := exists_explores_root (f := f.unrestricted) hwf hroot
  have hlead : ∀ v ∈ made, Leads t cwd f.unrestricted (.root root) v := by
    intro v hv
    obtain ⟨u, hu, hlead⟩ := hmade.mem_iff.mp hv
    obtain rfl := List.mem_singleton.mp hu
    exact hlead
  have hthin : Explores t cwd f [.root root] (made.filter (isSpared f)) :=
    hmade.thin (fun v hv w hw => hv.tail hw)
      (fun v hv => filter_inner hwf hroot htop hreadable hv)
      (List.forall_mem_singleton.mpr .refl)
  have hitem := fun v hv => item_eq_of_leads hwf hroot htop hreadable (hlead v hv)
  obtain ⟨hrest, hover⟩ := hthin.rest_root hwf hroot
  refine ⟨made.filterMap (placeOfItem? t cwd f.unrestricted), ?_, ?_, ?_, hover⟩
  · intro below hbelow
    obtain ⟨v, hv, hplace⟩ := List.mem_filterMap.mp hbelow
    obtain ⟨item, hsome, -⟩ := Option.bind_eq_some_iff.mp hplace
    obtain ⟨_, hplace', -, hne, hnames, -⟩ :=
      placeOfItem?_eq_some hwf hroot htop hreadable (hlead v hv) hsome
    obtain rfl := Option.some.inj (hplace.symm.trans hplace')
    exact ⟨hne, hnames⟩
  · rw [(hmade.rest_root hwf hroot).1, itemsOf, List.map_filterMap]
    exact List.filterMap_congr fun v hv => (hitem v hv).1
  · rw [hrest, itemsOf, List.filterMap_filter, List.filter_filterMap, List.map_filterMap]
    exact List.filterMap_congr fun v hv => (hitem v hv).2

end Walk

/-! ## The patterns -/

/-- The path of names does not begin with the one name, and no name in it ends with the text. -/
def FreeOf (name ending : String) (below : List String) : Prop :=
  below.head? ≠ some name ∧ ∀ component ∈ below, ¬ending.toList <:+ component.toList

instance (name ending : String) : DecidablePred (FreeOf name ending) := fun below =>
  inferInstanceAs (Decidable (below.head? ≠ some name ∧
    ∀ component ∈ below, ¬ending.toList <:+ component.toList))

namespace FileFilter

variable {name ending : String}

/-- **A name and an ending as patterns** leave out the entry of this name in the root, and all
entries whose names end so. -/
theorem exists_ofTexts (suffixes : List String) (hname : Glob.Ordinary name.toList)
    (hending : Glob.Ordinary ending.toList) :
    ∃ f, ofTexts suffixes [name, "**/*" ++ ending] = .ok f ∧ f.suffixes = suffixes ∧
      ∀ names last, (∀ n ∈ names ++ [last], FileTree.IsName n) →
        (f.excludes ("/".intercalate (names ++ [last])) = true ↔
          names ++ [last] = [name] ∨ ending.toList <:+ last.toList) := by
  obtain ⟨p, hp, hmatch⟩ := Glob.Pattern.exists_ofText?_ordinary hname
  obtain ⟨q, hq, hmatch'⟩ := Glob.Pattern.exists_ofText?_ending hending
  have hslash : ∀ {text : List Char}, Glob.Ordinary text → '/' ∉ text := fun h hmem =>
    absurd (h '/' hmem) (by decide)
  refine ⟨⟨suffixes, [p, q]⟩, ?_, rfl, fun names last hnames => ?_⟩
  · rw [ofTexts, readPatterns, hp, readPatterns, hq]
    rfl
  · have hpieces := Path.pieces_intercalate (by simp) hnames
    have hempty : ("/".intercalate (names ++ [last])).isEmpty = false := by
      rw [← Bool.not_eq_true, String.isEmpty_iff]
      intro hempty
      have hmem : [] ∈ (names ++ [last]).map String.toList := by
        rw [← hpieces, hempty]
        exact List.mem_singleton_self _
      obtain ⟨n, hn, hnil⟩ := List.mem_map.mp hmem
      exact (hnames n hn).ne_empty (String.toList_eq_nil_iff.mp hnil)
    have hone : "/".intercalate (names ++ [last]) = name ↔ names ++ [last] = [name] := by
      constructor
      · intro h
        rw [h, Text.pieces_eq_singleton (hslash hname)] at hpieces
        exact List.map_injective_iff.mpr (fun _ _ heq => String.toList_inj.mp heq) hpieces.symm
      · intro h
        rw [h, String.intercalate_singleton]
    rw [excludes, hempty, List.any_cons, List.any_cons, List.any_nil, Bool.or_false, Bool.not_false,
      Bool.true_and, Bool.or_eq_true, hmatch,
      hmatch' _ (Glob.endsInParent_intercalate (by simp) hnames),
      Glob.isSuffix_intercalate_concat_iff (hslash hending), hone]

/-- What such a filter spares are the paths that are free of the name at their beginning and of the
ending. -/
theorem spares_iff {f : FileFilter}
    (hexcludes : ∀ names last, (∀ n ∈ names ++ [last], FileTree.IsName n) →
      (f.excludes ("/".intercalate (names ++ [last])) = true ↔
        names ++ [last] = [name] ∨ ending.toList <:+ last.toList))
    {below : List String} (hnames : ∀ n ∈ below, FileTree.IsName n) :
    f.spares below = true ↔ FreeOf name ending below := by
  induction below using List.reverseRecOn with
  | nil => simp [FreeOf, spares_nil]
  | append_singleton names last ih =>
      have hnames' := (List.forall_mem_append.mp hnames).1
      rw [spares_concat, Bool.and_eq_true, ih hnames', Bool.not_eq_true', ← Bool.not_eq_true,
        hexcludes names last hnames, not_or, FreeOf, FreeOf, List.forall_mem_append,
        List.forall_mem_singleton]
      cases names with
      | nil => simp
      | cons first names => simp [and_assoc]

end FileFilter

namespace Walk

variable {t : FileTree} {cwd : Place} {root : String} {top : Place}

/-- **A name and an ending as patterns take out what they name.**  There are the files that a walk
yields without patterns, each by its names from the root.  With the two patterns it yields, in the
same order, those among them whose first name is not the given one and none of whose names ends with
the given text; and then the walk is over. -/
theorem rest_without_named (hwf : t.WellFormed) (hroot : t.placeOf cwd true root = .ok top)
    (htop : t.isDirectory top = true) (hreadable : Readable t cwd root top)
    (suffixes : List String) {name ending : String} (hname : Glob.Ordinary name.toList)
    (hending : Glob.Ordinary ending.toList) :
    ∃ f₀ f w₀ w, FileFilter.ofTexts suffixes [] = .ok f₀ ∧
      FileFilter.ofTexts suffixes [name, "**/*" ++ ending] = .ok f ∧
      start t cwd root f₀ = .ok w₀ ∧ start t cwd root f = .ok w ∧
      (w.rest t cwd).2.2.pending = [] ∧
      ∃ belows : List (List String),
        (∀ below ∈ belows, below ≠ [] ∧ (∀ n ∈ below, FileTree.IsName n) ∧
          Path.below? root (pathBelow root below) = some ("/".intercalate below)) ∧
        (w₀.rest t cwd).1.map (·.2) = belows.map (itemBelow t cwd root) ∧
        (w.rest t cwd).1.map (·.2) =
          (belows.filter fun below => FreeOf name ending below).map (itemBelow t cwd root) := by
  obtain ⟨f, hf, hsuffixes, hexcludes⟩ := FileFilter.exists_ofTexts suffixes hname hending
  obtain ⟨belows, hbelows, hall, hkept, hover⟩ :=
    exists_rest_of_excluded hwf hroot htop hreadable f
  have hunrestricted : FileFilter.ofTexts suffixes [] = .ok f.unrestricted := by
    rw [FileFilter.unrestricted, hsuffixes]
    rfl
  have hrootNe : root ≠ "" := (FileTree.follows_of_placeOf hroot).1
  refine ⟨f.unrestricted, f, _, _, hunrestricted, hf, start_eq hroot htop hreadable _,
    start_eq hroot htop hreadable f, by rw [hover], belows, fun below hbelow => ?_, hall, ?_⟩
  · obtain ⟨hne, hnames⟩ := hbelows below hbelow
    exact ⟨hne, hnames, below?_pathBelow hrootNe hne hnames⟩
  · have hspares : ∀ below ∈ belows, f.spares below = decide (FreeOf name ending below) := by
      intro below hbelow
      rw [Bool.eq_iff_iff, decide_eq_true_iff]
      exact FileFilter.spares_iff hexcludes (hbelows below hbelow).2
    rw [hkept, List.filter_congr hspares]

/-- A walk through the tree with links, without the directory `b` and names that end with `x`. -/
theorem rest_without_named_linkedTree :
    Glob.Ordinary "b".toList ∧ Glob.Ordinary "x".toList ∧
      FreeOf "b" "x" ["z.js"] ∧ ¬FreeOf "b" "x" ["b", "a.js"] ∧
      ∃ f₀ f w₀ w, FileFilter.ofTexts [".js", "x"] [] = .ok f₀ ∧
        FileFilter.ofTexts [".js", "x"] ["b", "**/*" ++ "x"] = .ok f ∧
        start linkedTree [] "s" f₀ = .ok w₀ ∧ start linkedTree [] "s" f = .ok w ∧
        ∃ belows : List (List String),
          (w₀.rest linkedTree []).1.map (·.2) = belows.map (itemBelow linkedTree [] "s") ∧
          (w.rest linkedTree []).1.map (·.2) =
            (belows.filter fun below => FreeOf "b" "x" below).map (itemBelow linkedTree [] "s") := by
  have hname : Glob.Ordinary "b".toList := by decide +kernel
  have hending : Glob.Ordinary "x".toList := by decide +kernel
  obtain ⟨f₀, f, w₀, w, hf₀, hf, hw₀, hw, -, belows, -, hall, hkept⟩ :=
    rest_without_named wellFormed_linkedTree placeOf_linkedTree (by decide) readable_linkedTree
      [".js", "x"] hname hending
  exact ⟨hname, hending, by decide, by decide, f₀, f, w₀, w, hf₀, hf, hw₀, hw, belows, hall, hkept⟩

end Walk

end Wording
