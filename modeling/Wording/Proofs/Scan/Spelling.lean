import Mathlib.Data.List.Forall2
import Wording.Proofs.FileTree.Spelling
import Wording.Proofs.FileTree.SystemPath
import Wording.Proofs.Scan.Below

/-!
# Walks from two spellings of one root

* `Walk.TwoSpellings` — two paths that lead to one directory through no link.
* **`Walk.TwoSpellings.sameSpot`** — the paths of an entry below the one and below the other are
  resolved alike.
* `Walk.SameVisit`, `Walk.SameItem`, `Walk.SameRecord` — what two walks come to, yield and tell of is
  the same but for the spelling of the root.
* `Walk.TwoSpellings.visit` — the same comes of the same visit.
* **`Walk.TwoSpellings.rest`** — so all that is left in the two walks is the same.

A walk does not look at the paths that it makes: it hands them to the system, asks the filter about
the names below the root, and tells of them.  So the two walks go side by side, and nothing has to
be known of where they end.
-/

namespace Wording

/-- A path that does not end in a slash has its names as steps. -/
theorem Path.steps_eq_names {path : String} (h : path.toList.getLast? ≠ some '/') :
    steps path = names path := by
  have hlast : (path.toList.getLast? == some '/') = false := beq_false_of_ne h
  rw [steps, hlast]
  rfl

namespace Walk

open FileTree (IsName LeadsStraight SameSpot)

variable {t : FileTree} {cwd : Place} {f : FileFilter} {root root' : String} {top : Place}

/-! ## Paths below a root -/

section Paths

variable {below : List String}

/-- The names of an entry's path are those of the root and those from the root to the entry. -/
theorem names_pathBelow (hroot : root ≠ "") (hnames : ∀ name ∈ below, IsName name) :
    Path.names (pathBelow root below) = Path.names root ++ below := by
  induction below using List.reverseRecOn with
  | nil => exact (List.append_nil _).symm
  | append_singleton below name ih =>
      obtain ⟨hbelow, hname⟩ := List.forall_mem_append.mp hnames
      rw [pathBelow_concat, Path.names_join (pathBelow_ne_empty hroot hbelow)
        (List.forall_mem_singleton.mp hname), ih hbelow, List.append_assoc]

/-- An entry's path is absolute if the root is. -/
theorem isAbsolute_pathBelow (hroot : root ≠ "") (hnames : ∀ name ∈ below, IsName name) :
    Path.isAbsolute (pathBelow root below) = Path.isAbsolute root := by
  induction below using List.reverseRecOn with
  | nil => rfl
  | append_singleton below name ih =>
      obtain ⟨hbelow, hname⟩ := List.forall_mem_append.mp hnames
      rw [pathBelow_concat, Path.isAbsolute_join (pathBelow_ne_empty hroot hbelow)
        (List.forall_mem_singleton.mp hname), ih hbelow]

/-- A character other than a slash is in an entry's path if it is in the root or in one of the
names. -/
theorem mem_pathBelow_iff {c : Char} (hc : c ≠ '/') (hroot : root ≠ "")
    (hnames : ∀ name ∈ below, IsName name) :
    c ∈ (pathBelow root below).toList ↔ c ∈ root.toList ∨ ∃ name ∈ below, c ∈ name.toList := by
  induction below using List.reverseRecOn with
  | nil => simp [pathBelow]
  | append_singleton below name ih =>
      obtain ⟨hbelow, hname⟩ := List.forall_mem_append.mp hnames
      have hjoin : c ∈ (pathBelow root (below ++ [name])).toList ↔
          c ∈ (pathBelow root below).toList ∨ c ∈ name.toList := by
        rw [pathBelow_concat, Path.toList_join (pathBelow_ne_empty hroot hbelow)
          (List.forall_mem_singleton.mp hname)]
        split_ifs <;> simp [hc]
      rw [hjoin, ih hbelow]
      simp only [List.mem_append, List.mem_singleton, or_and_right, exists_or, exists_eq_left,
        or_assoc]

/-- **An entry below a directory is resolved from the directory's place**, by a path that is not too
long, if no link is on the way to the directory. -/
theorem resolve_pathBelow (h : LeadsStraight t cwd root top) (hne : below ≠ [])
    (hnames : ∀ name ∈ below, IsName name)
    (hfits : (pathBelow root below).utf8ByteSize ≤ FileTree.maxPathLength) (follow : Bool) :
    t.resolve cwd follow (pathBelow root below) =
      if ∃ name ∈ below, '\x00' ∈ name.toList then .error .nulInPath
      else (t.locate follow FileTree.maxLinks top below).mapError .system := by
  have hnul : '\x00' ∈ (pathBelow root below).toList ↔ ∃ name ∈ below, '\x00' ∈ name.toList := by
    rw [mem_pathBelow_iff (by decide) h.ne_empty hnames]
    simp [h.not_mem_nul]
  split_ifs with hmem
  · rw [FileTree.resolve, if_pos (by simpa using hnul.mpr hmem)]
  · have hpath : '\x00' ∉ (pathBelow root below).toList ∧ pathBelow root below ≠ "" ∧
        (pathBelow root below).utf8ByteSize ≤ FileTree.maxPathLength :=
      ⟨mt hnul.mp hmem, pathBelow_ne_empty h.ne_empty hnames, hfits⟩
    refine h.resolve_of_steps hpath (isAbsolute_pathBelow h.ne_empty hnames) ?_ follow
    rw [Path.steps_eq_names (getLast?_pathBelow h.ne_empty hne hnames),
      names_pathBelow h.ne_empty hnames]

end Paths

/-! ## Two spellings of a root -/

/-- No path that the walk from the root comes to is too long for the system. -/
def NoneTooLong (t : FileTree) (cwd : Place) (f : FileFilter) (root : String) : Prop :=
  ∀ path below kind, Leads t cwd f (.root root) (.entry path below kind) →
    path.utf8ByteSize ≤ FileTree.maxPathLength

/-- Two paths lead to one directory through no link, and no path of a walk from either is too long
for the system. -/
structure TwoSpellings (t : FileTree) (cwd : Place) (f : FileFilter) (root root' : String)
    (top : Place) : Prop where
  wellFormed : t.WellFormed
  leads : t.LeadsStraight cwd root top
  leads' : t.LeadsStraight cwd root' top
  isDirectory : t.isDirectory top = true
  fits : NoneTooLong t cwd f root
  fits' : NoneTooLong t cwd f root'

/-- It does not matter which of the spellings comes first. -/
theorem TwoSpellings.symm (h : TwoSpellings t cwd f root root' top) :
    TwoSpellings t cwd f root' root top :=
  ⟨h.wellFormed, h.leads', h.leads, h.isDirectory, h.fits', h.fits⟩

/-- Names from a root to an entry below it. -/
structure IsBelow (below : List String) : Prop where
  ne_nil : below ≠ []
  isName : ∀ name ∈ below, IsName name

/-! ## The same but for the root -/

/-- The visits are to the same place below the roots. -/
inductive SameVisit (root root' : String) : Visit → Visit → Prop where
  | root : SameVisit root root' (.root root) (.root root')
  | entry {below : List String} (hbelow : IsBelow below) (kind : EntryKind) :
      SameVisit root root' (.entry (pathBelow root below) below kind)
        (.entry (pathBelow root' below) below kind)
  | unlisted (below : List String) (fault : IoFault) :
      SameVisit root root' (.unlisted (pathBelow root below) fault)
        (.unlisted (pathBelow root' below) fault)

/-- The failures are those of the same entry, for the same reason. -/
inductive SameFailure (root root' : String) : ReadFailure → ReadFailure → Prop where
  | io (below : List String) (fault : IoFault) :
      SameFailure root root' ⟨pathBelow root below, .io fault⟩ ⟨pathBelow root' below, .io fault⟩
  | notUtf8 (below : List String) :
      SameFailure root root' ⟨pathBelow root below, .notUtf8⟩ ⟨pathBelow root' below, .notUtf8⟩
  | walk (below : List String) (fault : IoFault) :
      SameFailure root root' ⟨pathBelow root below, .walk (pathBelow root below) fault⟩
        ⟨pathBelow root' below, .walk (pathBelow root' below) fault⟩

/-- The items are files at the same place below the roots, with the same text, or the same
failures. -/
inductive SameItem (root root' : String) : Item → Item → Prop where
  | file {below : List String} (hbelow : IsBelow below) (content : String) :
      SameItem root root' (.file ⟨pathBelow root below, content⟩)
        (.file ⟨pathBelow root' below, content⟩)
  | failure {e e' : ReadFailure} (h : SameFailure root root' e e') :
      SameItem root root' (.failure e) (.failure e')

/-- The records tell that the same file is excluded, or of the same failure. -/
inductive SameRecord (root root' : String) : LogRecord → LogRecord → Prop where
  | excluded (below : List String) :
      SameRecord root root' (.excluded (pathBelow root below)) (.excluded (pathBelow root' below))
  | traversalFault {e e' : ReadFailure} (h : SameFailure root root' e e') :
      SameRecord root root' (.traversalFault e) (.traversalFault e')

/-- What comes of two visits is the same. -/
structure SameVisited (root root' : String) (r r' : Visited) : Prop where
  inner : List.Forall₂ (SameVisit root root') r.inner r'.inner
  records : List.Forall₂ (SameRecord root root') r.records r'.records
  item : Option.Rel (SameItem root root') r.item r'.item

/-- Nothing comes of either visit. -/
theorem sameVisited_empty : SameVisited root root' {} {} :=
  ⟨.nil, .nil, .none⟩

/-- The visits are the same, and each walk comes to its own. -/
structure Reached (t : FileTree) (cwd : Place) (f : FileFilter) (root root' : String)
    (v v' : Visit) : Prop where
  same : SameVisit root root' v v'
  leads : Leads t cwd f (.root root) v
  leads' : Leads t cwd f (.root root') v'

/-! ## What comes of the same visit -/

/-- Walks fail alike at paths to the same place. -/
theorem sameVisited_fail (below : List String) (fault : IoFault) :
    SameVisited root root' (fail (pathBelow root below) fault)
      (fail (pathBelow root' below) fault) where
  inner := .nil
  records := .cons (.traversalFault (.walk below fault)) .nil
  item := .some (.failure (.walk below fault))

/-- The same is yielded of a file that both paths lead to. -/
theorem sameItem_readItem {below : List String} (hbelow : IsBelow below)
    (h : t.SameSpot cwd (pathBelow root below) (pathBelow root' below)) :
    SameItem root root' (t.readItem cwd (pathBelow root below))
      (t.readItem cwd (pathBelow root' below)) := by
  rw [FileTree.readItem, FileTree.readItem, h.readBytes_eq, SystemPath.display_ofText,
    SystemPath.display_ofText]
  cases t.readBytes cwd (pathBelow root' below) with
  | error fault => exact .failure (.io below fault)
  | ok bytes =>
      dsimp only
      cases String.fromUTF8? bytes with
      | none => exact .failure (.notUtf8 below)
      | some text => exact .file hbelow text

/-- The same comes of reading a file that both paths lead to. -/
theorem sameVisited_visitFile {below : List String} (hbelow : IsBelow below)
    (h : t.SameSpot cwd (pathBelow root below) (pathBelow root' below)) (name relative : String)
    (kind : EntryKind) :
    SameVisited root root' (visitFile t cwd f (pathBelow root below) name relative kind)
      (visitFile t cwd f (pathBelow root' below) name relative kind) := by
  rw [visitFile, visitFile, h.isFile_eq]
  split_ifs
  · exact sameVisited_empty
  · exact sameVisited_empty
  · exact ⟨.nil, .cons (.excluded below) .nil, .none⟩
  · exact ⟨.nil, .nil, .some (sameItem_readItem hbelow h)⟩

/-- A directory that both paths lead to has the same entries. -/
theorem sameVisit_enter (hwf : t.WellFormed) {below : List String}
    (hnames : ∀ name ∈ below, IsName name)
    (h : t.SameSpot cwd (pathBelow root below) (pathBelow root' below)) :
    List.Forall₂ (SameVisit root root') (enter t cwd (pathBelow root below) below)
      (enter t cwd (pathBelow root' below) below) := by
  rw [enter, enter, h.list_eq]
  cases hlist : t.list cwd (pathBelow root' below) with
  | error fault => exact .cons (.unlisted below fault) .nil
  | ok children =>
      obtain ⟨place, -, -, -, rfl⟩ := FileTree.list_eq_ok_iff.mp hlist
      refine List.forall₂_map_left_iff.mpr (List.forall₂_map_right_iff.mpr ?_)
      refine List.forall₂_same.mpr ?_
      rintro ⟨name, kind⟩ hmem
      obtain ⟨e, hentry, -⟩ := hwf.mem_children.mp hmem
      have hbelow : IsBelow (below ++ [name]) :=
        ⟨by simp, List.forall_mem_append.mpr
          ⟨hnames, List.forall_mem_singleton.mpr (hwf.isName hentry)⟩⟩
      simp only [← pathBelow_concat]
      exact .entry hbelow kind

namespace TwoSpellings

/-- The root is resolved alike in both spellings. -/
theorem sameSpot_root (h : TwoSpellings t cwd f root root' top) : t.SameSpot cwd root root' :=
  fun follow => by rw [h.leads.resolve, h.leads'.resolve]

/-- **An entry that both walks come to is resolved alike in both spellings.** -/
theorem sameSpot (h : TwoSpellings t cwd f root root' top) {below : List String}
    (hbelow : IsBelow below) {kind : EntryKind}
    (hv : Reached t cwd f root root' (.entry (pathBelow root below) below kind)
      (.entry (pathBelow root' below) below kind)) :
    t.SameSpot cwd (pathBelow root below) (pathBelow root' below) := by
  intro follow
  have hfits := h.fits _ _ _ hv.leads
  have hfits' := h.fits' _ _ _ hv.leads'
  rw [resolve_pathBelow h.leads hbelow.ne_nil hbelow.isName hfits,
    resolve_pathBelow h.leads' hbelow.ne_nil hbelow.isName hfits']

/-- The visit to the root enters it: it is a directory, and no link. -/
theorem visit_root (h : TwoSpellings t cwd f root root' top) :
    visit t cwd f (.root root) = { inner := enter t cwd root [] } := by
  have hplace : t.placeOf cwd false root = .ok top := by
    rw [FileTree.placeOf, h.leads.resolve]
  have hkind : t.kindOf cwd false root = .ok .directory :=
    FileTree.kindOf_eq hplace (FileTree.isDirectory_iff.mp h.isDirectory)
  rw [visit, hkind]

/-- **The same comes of the same visit.** -/
theorem sameVisited_visit (h : TwoSpellings t cwd f root root' top) {v v' : Visit}
    (hv : Reached t cwd f root root' v v') :
    SameVisited root root' (visit t cwd f v) (visit t cwd f v') := by
  cases hv.same with
  | root =>
      rw [h.visit_root, h.symm.visit_root]
      have hinner : List.Forall₂ (SameVisit root root') (enter t cwd (pathBelow root []) [])
          (enter t cwd (pathBelow root' []) []) :=
        sameVisit_enter h.wellFormed (List.forall_mem_nil _) h.sameSpot_root
      exact ⟨hinner, .nil, .none⟩
  | unlisted below fault => exact sameVisited_fail below fault
  | @entry below hbelow kind =>
      have hspot := h.sameSpot hbelow hv
      obtain ⟨name, hname⟩ :=
        Option.isSome_iff_exists.mp (List.getLast?_isSome.mpr hbelow.ne_nil)
      rw [visit, visit, hname]
      split_ifs
      · exact sameVisited_empty
      · exact ⟨sameVisit_enter h.wellFormed hbelow.isName hspot, .nil, .none⟩
      · exact sameVisited_visitFile hbelow hspot name _ kind

/-- **What two visits lead to is the same**, and each walk comes to its own. -/
theorem reached_inner (h : TwoSpellings t cwd f root root' top) {v v' : Visit}
    (hv : Reached t cwd f root root' v v') :
    List.Forall₂ (Reached t cwd f root root') (visit t cwd f v).inner (visit t cwd f v').inner := by
  have hsame := (h.sameVisited_visit hv).inner
  have hleads : ∀ w ∈ (visit t cwd f v).inner, Leads t cwd f (.root root) w :=
    fun w hw => hv.leads.tail hw
  have hleads' : ∀ w ∈ (visit t cwd f v').inner, Leads t cwd f (.root root') w :=
    fun w hw => hv.leads'.tail hw
  generalize (visit t cwd f v).inner = inner at hsame hleads
  generalize (visit t cwd f v').inner = inner' at hsame hleads'
  induction hsame with
  | nil => exact .nil
  | cons hw _ ih =>
      obtain ⟨hfirst, hrest⟩ := List.forall_mem_cons.mp hleads
      obtain ⟨hfirst', hrest'⟩ := List.forall_mem_cons.mp hleads'
      exact .cons ⟨hw, hfirst, hfirst'⟩ (ih hrest hrest')

end TwoSpellings

/-! ## Walks side by side -/

/-- What two walks give next is the same, and the same is pending after it. -/
inductive SameNext (t : FileTree) (cwd : Place) (f : FileFilter) (root root' : String) :
    List LogRecord × Option Item × Walk → List LogRecord × Option Item × Walk → Prop where
  | mk {records records' : List LogRecord} {item item' : Option Item}
      {pending pending' : List Visit}
      (hrecords : List.Forall₂ (SameRecord root root') records records')
      (hitem : Option.Rel (SameItem root root') item item')
      (hpending : List.Forall₂ (Reached t cwd f root root') pending pending') :
      SameNext t cwd f root root' (records, item, ⟨f, pending⟩) (records', item', ⟨f, pending'⟩)

/-- What is left in two walks is the same, item by item with the records on the way to it. -/
inductive SameRest (t : FileTree) (cwd : Place) (f : FileFilter) (root root' : String) :
    List (List LogRecord × Item) × List LogRecord × Walk →
      List (List LogRecord × Item) × List LogRecord × Walk → Prop where
  | mk {items items' : List (List LogRecord × Item)} {after after' : List LogRecord}
      {pending pending' : List Visit}
      (hitems : List.Forall₂ (fun a a' =>
        List.Forall₂ (SameRecord root root') a.1 a'.1 ∧ SameItem root root' a.2 a'.2) items items')
      (hafter : List.Forall₂ (SameRecord root root') after after')
      (hpending : List.Forall₂ (Reached t cwd f root root') pending pending') :
      SameRest t cwd f root root' (items, after, ⟨f, pending⟩) (items', after', ⟨f, pending'⟩)

namespace TwoSpellings

variable {pending pending' : List Visit}

/-- **Two walks that have the same pending give the same next.**  The induction is on the visits
that are still made on the way to an item. -/
theorem sameNext_nextWithin (h : TwoSpellings t cwd f root root' top)
    (hpending : List.Forall₂ (Reached t cwd f root root') pending pending') (fuel : Nat) :
    SameNext t cwd f root root' (nextWithin t cwd fuel ⟨f, pending⟩)
      (nextWithin t cwd fuel ⟨f, pending'⟩) := by
  induction fuel generalizing pending pending' with
  | zero => exact .mk .nil .none hpending
  | succ fuel ih =>
      cases hpending with
      | nil => exact .mk .nil .none .nil
      | @cons v v' pending pending' hv hrest =>
          obtain ⟨-, hrecords, hitem⟩ := h.sameVisited_visit hv
          have hleft := List.rel_append (h.reached_inner hv) hrest
          have hnext := ih hleft
          simp only [nextWithin]
          generalize (visit t cwd f v).item = item at hitem
          generalize (visit t cwd f v').item = item' at hitem
          cases hitem with
          | some hitem => exact .mk hrecords (.some hitem) hleft
          | none =>
              generalize nextWithin t cwd fuel ⟨f, (visit t cwd f v).inner ++ pending⟩ = r at hnext
              generalize nextWithin t cwd fuel ⟨f, (visit t cwd f v').inner ++ pending'⟩ = r' at hnext
              obtain ⟨hrecords', hitem', hpending'⟩ := hnext
              exact .mk (List.rel_append hrecords hrecords') hitem' hpending'

/-- Walks with as much pending have the same budget, so they give the same next. -/
theorem sameNext_next (h : TwoSpellings t cwd f root root' top)
    (hpending : List.Forall₂ (Reached t cwd f root root') pending pending') :
    SameNext t cwd f root root' (next t cwd ⟨f, pending⟩) (next t cwd ⟨f, pending'⟩) := by
  have hbudget : budget t ⟨f, pending⟩ = budget t ⟨f, pending'⟩ := by
    rw [budget, budget, hpending.length_eq]
  rw [next, next, hbudget]
  exact h.sameNext_nextWithin hpending _

/-- Two walks that have the same pending have the same left, as far as there is fuel. -/
theorem sameRest_restWithin (h : TwoSpellings t cwd f root root' top)
    (hpending : List.Forall₂ (Reached t cwd f root root') pending pending') (fuel : Nat) :
    SameRest t cwd f root root' (restWithin t cwd fuel ⟨f, pending⟩)
      (restWithin t cwd fuel ⟨f, pending'⟩) := by
  induction fuel generalizing pending pending' with
  | zero => exact .mk .nil .nil hpending
  | succ fuel ih =>
      have hnext := h.sameNext_next hpending
      simp only [restWithin]
      generalize next t cwd ⟨f, pending⟩ = r at hnext
      generalize next t cwd ⟨f, pending'⟩ = r' at hnext
      obtain ⟨hrecords, hitem, hleft⟩ := hnext
      cases hitem with
      | none => exact .mk .nil hrecords hleft
      | @some item item' hitem =>
          rename_i left left'
          have hrest := ih hleft
          dsimp only
          generalize restWithin t cwd fuel ⟨f, left⟩ = s at hrest
          generalize restWithin t cwd fuel ⟨f, left'⟩ = s' at hrest
          obtain ⟨hitems, hafter, hpending'⟩ := hrest
          exact .mk (.cons ⟨hrecords, hitem⟩ hitems) hafter hpending'

/-- Each walk comes to its root. -/
theorem reached_root (root root' : String) :
    List.Forall₂ (Reached t cwd f root root') [.root root] [.root root'] :=
  .cons ⟨.root, .refl, .refl⟩ .nil

/-- **All that is left in the two walks is the same.** -/
theorem sameRest_rest (h : TwoSpellings t cwd f root root' top) :
    SameRest t cwd f root root' ((⟨f, [.root root]⟩ : Walk).rest t cwd)
      ((⟨f, [.root root']⟩ : Walk).rest t cwd) :=
  h.sameRest_restWithin (reached_root root root') _

/-- **Both walks begin, or neither does**, and then for the same reason. -/
theorem start_cases (h : TwoSpellings t cwd f root root' top) :
    (∃ fault, start t cwd root f = .error ⟨root, fault⟩ ∧
        start t cwd root' f = .error ⟨root', fault⟩) ∨
      start t cwd root f = .ok ⟨f, [.root root]⟩ ∧
        start t cwd root' f = .ok ⟨f, [.root root']⟩ := by
  have hkind := (FileTree.kindOf_directory h.leads.placeOf h.isDirectory).1
  have hkind' := (FileTree.kindOf_directory h.leads'.placeOf h.isDirectory).1
  rw [start, start, hkind, hkind', h.sameSpot_root.list_eq]
  cases t.list cwd root' with
  | error fault => exact .inl ⟨fault, rfl, rfl⟩
  | ok children => exact .inr ⟨rfl, rfl⟩

/-- **What the one walk comes to, the other comes to as well.** -/
theorem exists_reached (h : TwoSpellings t cwd f root root' top) {v : Visit}
    (hlead : Leads t cwd f (.root root) v) : ∃ v', Reached t cwd f root root' v v' := by
  induction hlead with
  | refl => exact ⟨.root root', .root, .refl, .refl⟩
  | @tail v w _ hw ih =>
      obtain ⟨v', hv⟩ := ih
      have hinner := h.reached_inner hv
      generalize (visit t cwd f v').inner = inner' at hinner
      obtain ⟨i, hi, rfl⟩ := List.mem_iff_getElem.mp hw
      exact ⟨_, hinner.get hi (hinner.length_eq ▸ hi)⟩

/-- An entry that the one walk comes to is at its place below the root, and the other walk comes to
the entry at the same place. -/
theorem leads_of_leads (h : TwoSpellings t cwd f root root' top) {path : String}
    {below : List String} {kind : EntryKind}
    (hlead : Leads t cwd f (.root root) (.entry path below kind)) :
    path = pathBelow root below ∧ IsBelow below ∧
      Leads t cwd f (.root root') (.entry (pathBelow root' below) below kind) := by
  obtain ⟨v', hsame, -, hlead'⟩ := h.exists_reached hlead
  cases hsame with
  | entry hbelow => exact ⟨rfl, hbelow, hlead'⟩

end TwoSpellings

end Walk

end Wording
