import Mathlib.Data.List.Induction
import Wording.Proofs.FileTree.Operations
import Wording.Proofs.FileTree.SystemPath
import Wording.Proofs.Scan.Preorder
import Wording.Proofs.Text.ByteOrder

/-!
# What a walk yields

* `FileTree.bytesAt?` — the bytes of the regular file that an entry is or links to.
* `Walk.Wanted` — the entries that a walk is for: files, or links to files, reached through
  directories only, of a wanted name, and excluded neither themselves nor by a directory above them.
* `Walk.Readable` — nothing below the root fails to be listed or read.
* `Walk.Open`, `Walk.leads_root_iff` — a walk reaches exactly the entries that it can go to through
  directories which are not excluded.
* **`Walk.rest_eq_wanted`** — the items of a walk stand for the wanted entries, one for one, in the
  order of the bytes of their names from the root down.
-/

namespace Wording

/-- The item that is made of the bytes of a file: its text, or the failure to decode it. -/
def Item.ofBytes (path : String) (bytes : ByteArray) : Item :=
  match String.fromUTF8? bytes with
  | some text => .file ⟨path, text⟩
  | none => .failure ⟨path, .notUtf8⟩

namespace FileTree

variable {t : FileTree} {cwd : Place}

/-- The bytes of the regular file that stands at the place, or that the path leads to if a link
stands there. -/
def bytesAt? (t : FileTree) (cwd place : Place) (path : String) : Option ByteArray :=
  match t.entry? place with
  | some (.file bytes) => some bytes
  | some (.link _) => if t.isFile cwd path then (t.readBytes cwd path).toOption else none
  | _ => none

/-- The item of a file that can be read is made of its bytes. -/
theorem readItem_eq {path : String} {bytes : ByteArray} (h : t.readBytes cwd path = .ok bytes) :
    t.readItem cwd path = .ofBytes path bytes := by
  rw [readItem, h, SystemPath.display_ofText]
  rfl

end FileTree

namespace Walk

variable {t : FileTree} {cwd : Place} {f : FileFilter} {root : String} {top : Place}

/-! ## Which entries are wanted -/

/-- All that stands before the entry, from the root down, are directories. -/
def ThroughDirectories (t : FileTree) (top : Place) (below : List String) : Prop :=
  ∀ d, d <+: below → d ≠ below → t.isDirectory (top ++ d) = true

/-- Nothing stands before the root. -/
theorem throughDirectories_nil : ThroughDirectories t top [] :=
  fun _ hd hne => absurd (List.prefix_nil.mp hd) hne

/-- The entry so far below the root is one that the walk is for. -/
structure Wanted (t : FileTree) (cwd : Place) (f : FileFilter) (root : String) (top : Place)
    (below : List String) : Prop where
  ne_root : below ≠ []
  directories : ThroughDirectories t top below
  file : ∃ bytes, t.bytesAt? cwd (top ++ below) (pathBelow root below) = some bytes
  suffix : ∃ name, below.getLast? = some name ∧
    ∃ suffix ∈ f.suffixes, suffix.toList <:+ name.toList
  not_excluded : ∀ d, d <+: below → d ≠ [] → f.excludes ("/".intercalate d) = false

/-- Nothing below the root fails: all directories that are reached through directories can be
listed by their paths, and all regular files read. -/
structure Readable (t : FileTree) (cwd : Place) (root : String) (top : Place) : Prop where
  list : ∀ below, ThroughDirectories t top below → t.isDirectory (top ++ below) = true →
    (t.list cwd (pathBelow root below)).isOk = true
  read : ∀ below bytes, ThroughDirectories t top below →
    t.entry? (top ++ below) = some (.file bytes) →
    (t.readBytes cwd (pathBelow root below)).isOk = true

/-- Nothing fails if no directory is locked, and the path of each entry that is no link leads to the
entry itself. -/
theorem readable_of_placeOf (hlocked : t.locked = [])
    (h : ∀ below e, t.entry? (top ++ below) = some e → e.kind ≠ .link →
      t.placeOf cwd true (pathBelow root below) = .ok (top ++ below)) :
    Readable t cwd root top where
  list below _ hdirectory :=
    FileTree.isOk_list (h _ _ (FileTree.isDirectory_iff.mp hdirectory) nofun) hdirectory
      (by rw [hlocked]; rfl)
  read below bytes _ hentry := by
    have hleads : t.LeadsToFile cwd (pathBelow root below) bytes :=
      ⟨_, h _ _ hentry nofun, hentry⟩
    rw [hleads.readBytes]
    rfl

/-! ## Which entries are reached -/

/-- The way to an entry is open: all before it are directories, and not excluded. -/
structure Open (t : FileTree) (f : FileFilter) (top : Place) (below : List String) : Prop where
  directories : ThroughDirectories t top below
  not_excluded : ∀ d, d <+: below → d ≠ below → f.excludes ("/".intercalate d) = false

/-- The root is never excluded. -/
theorem excludes_root : f.excludes ("/".intercalate []) = false := rfl

/-- The way to the root is open. -/
theorem open_nil : Open t f top [] where
  directories := throughDirectories_nil
  not_excluded _ hd hne := absurd (List.prefix_nil.mp hd) hne

/-- What holds of all directories before an entry holds of its directory and of all before that. -/
theorem forall_before_concat_iff {P : List String → Prop} {below : List String} {name : String} :
    (∀ d, d <+: below ++ [name] → d ≠ below ++ [name] → P d) ↔
      (∀ d, d <+: below → d ≠ below → P d) ∧ P below := by
  constructor
  · intro h
    have hbefore : ∀ d, d <+: below → P d := by
      intro d hd
      refine h d (hd.trans (List.prefix_append below [name])) ?_
      rintro rfl
      have hlength := hd.length_le
      simp at hlength
    exact ⟨fun d hd _ => hbefore d hd, hbefore below List.prefix_rfl⟩
  · rintro ⟨h, hbelow⟩ d hd hne
    have hd' := (List.prefix_concat_iff.mp hd).resolve_left hne
    by_cases heq : d = below
    · exact heq ▸ hbelow
    · exact h d hd' heq

/-- The way to an entry is open if the way to its directory is, and the directory is none that is
excluded. -/
theorem open_concat_iff {below : List String} {name : String} :
    Open t f top (below ++ [name]) ↔ Open t f top below ∧
      t.isDirectory (top ++ below) = true ∧ f.excludes ("/".intercalate below) = false := by
  constructor
  · rintro ⟨hdirectories, hkept⟩
    rw [ThroughDirectories, forall_before_concat_iff] at hdirectories
    rw [forall_before_concat_iff] at hkept
    exact ⟨⟨hdirectories.1, hkept.1⟩, hdirectories.2, hkept.2⟩
  · rintro ⟨⟨hdirectories, hkept⟩, hbelow, hexc⟩
    exact ⟨forall_before_concat_iff.mpr ⟨hdirectories, hbelow⟩,
      forall_before_concat_iff.mpr ⟨hkept, hexc⟩⟩

/-- A directory that is entered is not excluded. -/
theorem Enters.not_excluded {v : Visit} {path : String} {below : List String}
    (h : Enters f v path below) : f.excludes ("/".intercalate below) = false := by
  cases h with
  | root => exact excludes_root
  | entry hexc => exact hexc

/-- **A walk goes only where the way is open.** -/
theorem open_of_leads (hwf : t.WellFormed) (hroot : t.placeOf cwd true root = .ok top) {v : Visit}
    {below : List String} (h : Leads t cwd f (.root root) v) (hv : v.below? = some below) :
    Open t f top below := by
  induction h generalizing below with
  | refl =>
      obtain rfl := Option.some.inj hv
      exact open_nil
  | @tail u w hlead hw ih =>
      have hstands : Stands t cwd root top u := Stands.root.leads hwf hroot hlead
      obtain ⟨path, parent, henters, hstep⟩ := exists_enters_of_mem_inner hw
      rcases hstep with ⟨fault, -, rfl⟩ | ⟨names, name, kind, hlist, -, rfl⟩
      · cases hv
      · obtain rfl := Option.some.inj hv
        obtain ⟨place, hplace, hdirectory, -, -⟩ := FileTree.list_eq_ok_iff.mp hlist
        obtain ⟨-, rfl⟩ := henters.placeOf hwf hroot hstands hplace
        exact open_concat_iff.mpr ⟨ih henters.below?_eq, hdirectory, henters.not_excluded⟩

/-- A result that is no error is there. -/
theorem exists_of_isOk {ε α : Type} {result : Except ε α} (h : result.isOk = true) :
    ∃ value, result = .ok value := by
  cases result with
  | error fault => cases h
  | ok value => exact ⟨value, rfl⟩

/-- A directory that is entered, and can be listed, leads to each entry that stands in it. -/
theorem Enters.leads (hwf : t.WellFormed) (hroot : t.placeOf cwd true root = .ok top) {v : Visit}
    {below : List String} {name : String} {e : Entry}
    (h : Enters f v (pathBelow root below) below) (hlead : Leads t cwd f (.root root) v)
    (hinner : (visit t cwd f v).inner = enter t cwd (pathBelow root below) below)
    (hok : (t.list cwd (pathBelow root below)).isOk = true)
    (hentry : t.entry? (top ++ (below ++ [name])) = some e) :
    Leads t cwd f (.root root)
      (.entry (pathBelow root (below ++ [name])) (below ++ [name]) e.kind) := by
  refine hlead.tail ?_
  rw [hinner, mem_enter_iff, pathBelow_concat]
  obtain ⟨names, hlist⟩ := exists_of_isOk hok
  obtain ⟨place, hplace, -, -, rfl⟩ := FileTree.list_eq_ok_iff.mp hlist
  obtain ⟨-, rfl⟩ := h.placeOf hwf hroot (Stands.root.leads hwf hroot hlead) hplace
  rw [← List.append_assoc] at hentry
  exact .inr ⟨_, name, e.kind, hlist, hwf.mem_children.mpr ⟨e, hentry, rfl⟩, rfl⟩

/-- **A walk enters each directory that the way is open to**, if nothing fails. -/
theorem exists_enters (hwf : t.WellFormed) (hroot : t.placeOf cwd true root = .ok top)
    (hreadable : Readable t cwd root top) {below : List String} (h : Open t f top below)
    (hbelow : t.isDirectory (top ++ below) = true)
    (hexc : f.excludes ("/".intercalate below) = false) :
    ∃ v, Enters f v (pathBelow root below) below ∧ Leads t cwd f (.root root) v ∧
      (visit t cwd f v).inner = enter t cwd (pathBelow root below) below := by
  induction below using List.reverseRecOn with
  | nil =>
      rw [List.append_nil] at hbelow
      obtain ⟨hfollow, hdirectory | hlink⟩ := FileTree.kindOf_directory hroot hbelow
      · exact ⟨.root root, .root root, .refl, by rw [visit, hdirectory]; rfl⟩
      · exact ⟨.root root, .root root, .refl, by rw [visit, hlink, hfollow]; rfl⟩
  | append_singleton below name ih =>
      obtain ⟨hopen, hparent, hkept⟩ := open_concat_iff.mp h
      obtain ⟨v, henters, hlead, hinner⟩ := ih hopen hparent hkept
      have hstep := henters.leads hwf hroot hlead hinner
        (hreadable.list below hopen.directories hparent) (FileTree.isDirectory_iff.mp hbelow)
      refine ⟨_, .entry hexc, hstep, ?_⟩
      rw [visit, hexc]
      rfl

/-- **A walk reaches exactly the entries that the way is open to**, if nothing fails. -/
theorem leads_root_iff (hwf : t.WellFormed) (hroot : t.placeOf cwd true root = .ok top)
    (hreadable : Readable t cwd root top) {path : String} {below : List String}
    {kind : EntryKind} :
    Leads t cwd f (.root root) (.entry path below kind) ↔
      below ≠ [] ∧ path = pathBelow root below ∧ Open t f top below ∧
        ∃ e, t.entry? (top ++ below) = some e ∧ e.kind = kind := by
  constructor
  · intro hlead
    have hopen := open_of_leads hwf hroot hlead rfl
    have hstands : Stands t cwd root top _ := Stands.root.leads hwf hroot hlead
    obtain ⟨parent, name, e, rfl, rfl, hkind, -, -, hentry⟩ := hstands.exists_of_entry
    rw [List.append_assoc] at hentry
    exact ⟨by simp, rfl, hopen, e, hentry, hkind⟩
  · rintro ⟨hne, rfl, hopen, e, hentry, rfl⟩
    obtain ⟨below, name, rfl⟩ := (List.eq_nil_or_concat below).resolve_left hne
    rw [List.concat_eq_append] at *
    obtain ⟨hopen', hparent, hkept⟩ := open_concat_iff.mp hopen
    obtain ⟨v, henters, hlead, hinner⟩ := exists_enters hwf hroot hreadable hopen' hparent hkept
    exact henters.leads hwf hroot hlead hinner (hreadable.list below hopen'.directories hparent)
      hentry

/-! ## What comes of an entry -/

/-- A file, or a link to one, yields an item if its name is wanted and its path not excluded. -/
theorem item_visitFile_eq_some_iff {path name relative : String} {kind : EntryKind} {item : Item} :
    (visitFile t cwd f path name relative kind).item = some item ↔
      (kind = .file ∨ kind = .link ∧ t.isFile cwd path = true) ∧ f.qualifies name = true ∧
        f.excludes relative = false ∧ t.readItem cwd path = item := by
  have hfile : (!(decide (kind = .file) || (decide (kind = .link) && t.isFile cwd path))) = true ↔
      ¬(kind = .file ∨ kind = .link ∧ t.isFile cwd path = true) := by
    rw [Bool.not_eq_true', ← Bool.not_eq_true]
    simp
  unfold visitFile
  by_cases h : kind = .file ∨ kind = .link ∧ t.isFile cwd path = true
  · rw [if_neg fun hnot => hfile.mp hnot h]
    split_ifs <;> simp_all
  · rw [if_pos (hfile.mpr h)]
    simp [h]

/-- A file that is reached, and what a link to a file leads to, can be read. -/
theorem exists_readBytes (hreadable : Readable t cwd root top) {below : List String} {e : Entry}
    (hopen : Open t f top below) (hentry : t.entry? (top ++ below) = some e)
    (hfile : e.kind = .file ∨ e.kind = .link ∧ t.isFile cwd (pathBelow root below) = true) :
    ∃ bytes, t.readBytes cwd (pathBelow root below) = .ok bytes := by
  rcases hfile with hfile | ⟨-, hfile⟩
  · cases e with
    | file found => exact exists_of_isOk (hreadable.read below found hopen.directories hentry)
    | _ => cases hfile
  · obtain ⟨bytes, hleads⟩ := FileTree.isFile_iff_leadsToFile.mp hfile
    exact ⟨bytes, hleads.readBytes⟩

/-- The bytes that stand at a place which the walk reaches are those that are read by its path. -/
theorem bytesAt?_eq_some_iff (hwf : t.WellFormed) (hreadable : Readable t cwd root top)
    {below : List String} {name : String} {e : Entry}
    (hpath : t.placeOf cwd true (pathBelow root below) = .ok (top ++ below))
    (hdirectory : t.isDirectory (top ++ below) = true) (hopen : Open t f top (below ++ [name]))
    (hentry : t.entry? (top ++ below ++ [name]) = some e) (bytes : ByteArray) :
    t.bytesAt? cwd (top ++ (below ++ [name])) (pathBelow root (below ++ [name])) = some bytes ↔
      (e.kind = .file ∨
          e.kind = .link ∧ t.isFile cwd (pathBelow root (below ++ [name])) = true) ∧
        t.readBytes cwd (pathBelow root (below ++ [name])) = .ok bytes := by
  have hentry' : t.entry? (top ++ (below ++ [name])) = some e := by
    rw [← List.append_assoc]
    exact hentry
  rw [FileTree.bytesAt?, hentry']
  cases e with
  | directory => simp [Entry.kind]
  | device => simp [Entry.kind]
  | link target =>
      -- a link to a file holds what is read by its path
      by_cases hfile : t.isFile cwd (pathBelow root (below ++ [name])) = true
      · cases t.readBytes cwd (pathBelow root (below ++ [name])) with
        | error fault => simp [hfile, Except.toOption]
        | ok found => simp [hfile, Except.toOption, Entry.kind]
      · simp [hfile, Entry.kind]
  | file found =>
      -- the path of a file leads to the file itself, if it leads anywhere
      have hread : ∀ read, t.readBytes cwd (pathBelow root (below ++ [name])) = .ok read →
          read = found := by
        intro read h
        obtain ⟨place, e, hplace, hfile, hbytes⟩ := FileTree.readBytes_eq_ok_iff.mp h
        rw [pathBelow_concat] at hplace
        rw [FileTree.placeOf_join hpath hdirectory (hwf.isName hentry) hentry nofun hplace,
          hentry] at hfile
        obtain rfl := Option.some.inj hfile
        exact (Except.ok.inj hbytes).symm
      obtain ⟨read, hfound⟩ := exists_readBytes hreadable hopen hentry' (.inl rfl)
      obtain rfl := hread read hfound
      rw [hfound]
      simp [Entry.kind]

/-- A name qualifies if it ends with one of the suffixes. -/
theorem qualifies_iff {name : String} :
    f.qualifies name = true ↔ ∃ suffix ∈ f.suffixes, suffix.toList <:+ name.toList := by
  simp [FileFilter.qualifies]

/-- An entry that the way is open to is wanted if it has bytes, its name qualifies and it is not
excluded itself. -/
theorem Open.wanted_iff {below : List String} {name : String}
    (h : Open t f top (below ++ [name])) :
    Wanted t cwd f root top (below ++ [name]) ↔
      (∃ bytes, t.bytesAt? cwd (top ++ (below ++ [name])) (pathBelow root (below ++ [name])) =
        some bytes) ∧ f.qualifies name = true ∧
        f.excludes ("/".intercalate (below ++ [name])) = false := by
  have hlast : (below ++ [name]).getLast? = some name := List.getLast?_concat
  constructor
  · rintro ⟨hne, -, hfile, ⟨_, hname, hsuffix⟩, hexc⟩
    obtain rfl := Option.some.inj (hlast.symm.trans hname)
    exact ⟨hfile, qualifies_iff.mpr hsuffix, hexc _ List.prefix_rfl hne⟩
  · rintro ⟨hfile, hname, hexc⟩
    exact {
      ne_root := by simp
      directories := h.directories
      file := hfile
      suffix := ⟨name, hlast, qualifies_iff.mp hname⟩
      not_excluded := fun d hd _ => by
        by_cases heq : d = below ++ [name]
        · exact heq ▸ hexc
        · exact h.not_excluded d hd heq }

/-- **An entry that is reached yields an item if it is wanted**: the one made of its bytes. -/
theorem item_eq_some_iff (hwf : t.WellFormed) (hroot : t.placeOf cwd true root = .ok top)
    (hreadable : Readable t cwd root top) {path : String} {below : List String}
    {kind : EntryKind} {item : Item}
    (hlead : Leads t cwd f (.root root) (.entry path below kind)) :
    (visit t cwd f (.entry path below kind)).item = some item ↔
      Wanted t cwd f root top below ∧
        ∃ bytes, t.bytesAt? cwd (top ++ below) (pathBelow root below) = some bytes ∧
          item = .ofBytes (pathBelow root below) bytes := by
  have hopen := open_of_leads hwf hroot hlead rfl
  have hstands : Stands t cwd root top _ := Stands.root.leads hwf hroot hlead
  obtain ⟨parent, name, e, rfl, rfl, rfl, hpath, hdirectory, hentry⟩ := hstands.exists_of_entry
  have hbytes := bytesAt?_eq_some_iff hwf hreadable hpath hdirectory hopen hentry
  rw [hopen.wanted_iff, visit]
  split
  · next hkind =>
    -- a directory yields nothing, and has no bytes
    constructor
    · intro hitem
      split at hitem <;> cases hitem
    · rintro ⟨-, bytes, hb, -⟩
      rcases ((hbytes bytes).mp hb).1 with h | ⟨h, -⟩ <;> rw [h] at hkind <;> cases hkind
  · rw [item_visitFile_eq_some_iff, List.getLast?_concat, Option.getD_some]
    constructor
    · rintro ⟨hfile, hname, hexc, hitem⟩
      obtain ⟨bytes, hread⟩ := exists_readBytes hreadable hopen
        (List.append_assoc top parent [name] ▸ hentry) hfile
      have hb := (hbytes bytes).mpr ⟨hfile, hread⟩
      refine ⟨⟨⟨bytes, hb⟩, hname, hexc⟩, bytes, hb, ?_⟩
      rw [← hitem, FileTree.readItem_eq hread]
    · rintro ⟨⟨-, hname, hexc⟩, bytes, hb, rfl⟩
      obtain ⟨hkind, hread⟩ := (hbytes bytes).mp hb
      exact ⟨hkind, hname, hexc, FileTree.readItem_eq hread⟩

/-! ## The walk as a whole -/

/-- The root of a walk through a directory yields no item. -/
theorem item_root (hroot : t.placeOf cwd true root = .ok top) (htop : t.isDirectory top = true) :
    (visit t cwd f (.root root)).item = none := by
  obtain ⟨hfollow, hdirectory | hlink⟩ := FileTree.kindOf_directory hroot htop
  · rw [visit, hdirectory]
  · rw [visit, hlink, hfollow]

/-- A directory that is entered stands where the visit is, by the path of its place. -/
theorem Enters.isDirectory (htop : t.isDirectory top = true) {v : Visit} {path : String}
    {below : List String} (h : Enters f v path below) (hstands : Stands t cwd root top v) :
    path = pathBelow root below ∧ t.isDirectory (top ++ below) = true := by
  cases h with
  | root =>
      cases hstands
      exact ⟨rfl, by rwa [List.append_nil]⟩
  | entry =>
      obtain ⟨parent, name, e, rfl, rfl, hkind, -, -, hentry⟩ := hstands.exists_of_entry
      refine ⟨rfl, ?_⟩
      rw [← List.append_assoc, FileTree.isDirectory_iff, hentry]
      cases e with
      | directory => rfl
      | _ => cases hkind

/-- No directory fails to be listed if nothing fails. -/
theorem not_leads_unlisted (hwf : t.WellFormed) (hroot : t.placeOf cwd true root = .ok top)
    (htop : t.isDirectory top = true) (hreadable : Readable t cwd root top) {path : String}
    {fault : IoFault} : ¬Leads t cwd f (.root root) (.unlisted path fault) := by
  intro h
  rcases Relation.ReflTransGen.cases_tail h with h | ⟨u, hlead, hu⟩
  · cases h
  · obtain ⟨path', below, henters, hstep⟩ := exists_enters_of_mem_inner hu
    rcases hstep with ⟨_, hlist, -⟩ | ⟨_, _, _, -, -, hentry⟩
    · obtain ⟨rfl, hdirectory⟩ := henters.isDirectory htop (Stands.root.leads hwf hroot hlead)
      have hopen := open_of_leads hwf hroot hlead henters.below?_eq
      have hok := hreadable.list below hopen.directories hdirectory
      rw [hlist] at hok
      cases hok
    · cases hentry

/-- The item of a visit that yields one is that of a wanted entry. -/
theorem wanted_of_item (hwf : t.WellFormed) (hroot : t.placeOf cwd true root = .ok top)
    (htop : t.isDirectory top = true) (hreadable : Readable t cwd root top) {v : Visit}
    {item : Item} (hlead : Leads t cwd f (.root root) v)
    (hitem : (visit t cwd f v).item = some item) :
    ∃ below, v.below? = some below ∧ Wanted t cwd f root top below ∧
      ∃ bytes, t.bytesAt? cwd (top ++ below) (pathBelow root below) = some bytes ∧
        item = .ofBytes (pathBelow root below) bytes := by
  cases v with
  | root path =>
      have hstands : Stands t cwd root top (.root path) := Stands.root.leads hwf hroot hlead
      cases hstands
      rw [item_root hroot htop] at hitem
      cases hitem
  | unlisted path fault => exact absurd hlead (not_leads_unlisted hwf hroot htop hreadable)
  | entry path below kind =>
      exact ⟨below, rfl, (item_eq_some_iff hwf hroot hreadable hlead).mp hitem⟩

/-- A wanted entry is reached. -/
theorem Wanted.leads (hwf : t.WellFormed) (hroot : t.placeOf cwd true root = .ok top)
    (hreadable : Readable t cwd root top) {below : List String}
    (h : Wanted t cwd f root top below) :
    ∃ kind, Leads t cwd f (.root root) (.entry (pathBelow root below) below kind) := by
  obtain ⟨bytes, hbytes⟩ := h.file
  have hentry : ∃ e, t.entry? (top ++ below) = some e := by
    cases hentry : t.entry? (top ++ below) with
    | none => simp [FileTree.bytesAt?, hentry] at hbytes
    | some e => exact ⟨e, rfl⟩
  obtain ⟨e, hentry⟩ := hentry
  refine ⟨e.kind, (leads_root_iff hwf hroot hreadable).mpr ⟨h.ne_root, rfl, ?_, e, hentry, rfl⟩⟩
  refine ⟨h.directories, fun d hd _ => ?_⟩
  by_cases hnil : d = []
  · exact hnil ▸ excludes_root
  · exact h.not_excluded d hd hnil

/-- A walk through a directory that can be read begins at its root. -/
theorem start_eq (hroot : t.placeOf cwd true root = .ok top) (htop : t.isDirectory top = true)
    (hreadable : Readable t cwd root top) (f : FileFilter) :
    start t cwd root f = .ok ⟨f, [.root root]⟩ := by
  have hok : (t.list cwd root).isOk = true := by
    refine hreadable.list [] throughDirectories_nil ?_
    rw [List.append_nil]
    exact htop
  obtain ⟨names, hlist⟩ := exists_of_isOk hok
  rw [start, (FileTree.kindOf_directory hroot htop).1, hlist]

/-- Lists made from one list by functions that take the same elements correspond. -/
theorem forall₂_filterMap {α β γ : Type} {R : β → γ → Prop} {g : α → Option β}
    {h : α → Option γ} {xs : List α}
    (hrel : ∀ x ∈ xs, ∀ c, h x = some c → ∃ b, g x = some b ∧ R b c) :
    List.Forall₂ R ((xs.filter fun x => (h x).isSome).filterMap g) (xs.filterMap h) := by
  induction xs with
  | nil => exact .nil
  | cons x xs ih =>
      have hrest := ih fun y hy => hrel y (List.mem_cons_of_mem _ hy)
      cases hx : h x with
      | none => simpa [hx] using hrest
      | some c =>
          obtain ⟨b, hb, hR⟩ := hrel x List.mem_cons_self c hx
          simpa [hx, hb] using List.Forall₂.cons hR hrest

/-- **The items of a walk stand for the wanted entries**, one for one, in the order of the bytes of
their names from the root down, if nothing below the root fails to be read.  The item of an entry is
made of its bytes; and then the walk is over. -/
theorem rest_eq_wanted (hwf : t.WellFormed) (hroot : t.placeOf cwd true root = .ok top)
    (htop : t.isDirectory top = true) (hreadable : Readable t cwd root top) (f : FileFilter) :
    ∃ w, start t cwd root f = .ok w ∧ (w.rest t cwd).2.2.pending = [] ∧
      ∃ belows : List (List String),
        belows.Pairwise (fun b b' => b.map Text.utf8Bytes < b'.map Text.utf8Bytes) ∧
        (∀ below, below ∈ belows ↔ Wanted t cwd f root top below) ∧
        List.Forall₂ (fun below item => ∃ bytes,
            t.bytesAt? cwd (top ++ below) (pathBelow root below) = some bytes ∧
              item = .ofBytes (pathBelow root below) bytes)
          belows ((w.rest t cwd).1.map (·.2)) := by
  obtain ⟨made, hmade⟩ := exists_explores_root (f := f) hwf hroot
  have hlight : ∀ v ∈ [Visit.root root], Light t cwd f (share t) v := by
    intro v hv
    obtain rfl := List.mem_singleton.mp hv
    exact light_root hwf hroot
  have hmem : ∀ v, v ∈ made ↔ Leads t cwd f (.root root) v := by
    intro v
    rw [hmade.mem_iff]
    simp
  obtain ⟨hitems, hover⟩ := hmade.rest_spec hlight
  refine ⟨⟨f, [.root root]⟩, start_eq hroot htop hreadable f, by rw [hover],
    (made.filter fun v => (visit t cwd f v).item.isSome).filterMap Visit.below?, ?_, ?_, ?_⟩
  · refine ((hmade.pairwise_below hwf).sublist (List.filter_sublist.filterMap _)).imp ?_
    intro b b' hlt
    exact List.map_lt (fun _ _ => Text.utf8Bytes_lt_utf8Bytes) hlt
  · intro below
    rw [List.mem_filterMap]
    constructor
    · rintro ⟨v, hv, hbelow⟩
      obtain ⟨hv, hsome⟩ := List.mem_filter.mp hv
      obtain ⟨item, hitem⟩ := Option.isSome_iff_exists.mp hsome
      obtain ⟨_, hbelow', hwanted, -⟩ :=
        wanted_of_item hwf hroot htop hreadable ((hmem v).mp hv) hitem
      obtain rfl := Option.some.inj (hbelow.symm.trans hbelow')
      exact hwanted
    · intro hwanted
      obtain ⟨kind, hlead⟩ := hwanted.leads hwf hroot hreadable
      obtain ⟨bytes, hbytes⟩ := hwanted.file
      have hitem := (item_eq_some_iff hwf hroot hreadable hlead).mpr ⟨hwanted, bytes, hbytes, rfl⟩
      refine ⟨_, List.mem_filter.mpr ⟨(hmem _).mpr hlead, ?_⟩, rfl⟩
      rw [hitem]
      rfl
  · rw [hitems, itemsOf]
    refine forall₂_filterMap fun v hv item hitem => ?_
    obtain ⟨below, hbelow, -, hbytes⟩ :=
      wanted_of_item hwf hroot htop hreadable ((hmem v).mp hv) hitem
    exact ⟨below, hbelow, hbytes⟩

/-! ## A tree with links -/

/-- A tree with links to the root of a walk, to a file and in a circle, and with a file of no
text. -/
def linkedTree : FileTree where
  entries := [
    (["s"], .link "c"), (["c"], .directory), (["c", "x"], .file ⟨#[0xff]⟩),
    (["c", "z.js"], .link "x"), (["c", "b"], .directory), (["c", "b", "a.js"], .file ⟨#[0x6f]⟩),
    (["c", "b", "up"], .link "..")]

/-- The tree is well formed. -/
theorem wellFormed_linkedTree : linkedTree.WellFormed := by
  decide +kernel

/-- What stands below the root of the walk is listed in the tree. -/
theorem mem_linkedTree {below : List String} {e : Entry}
    (h : linkedTree.entry? (["c"] ++ below) = some e) :
    (["c"] ++ below, e) ∈ linkedTree.entries := by
  rw [wellFormed_linkedTree.mem_entries_iff]
  exact h

/-- The root of the walk is a link to a directory. -/
theorem placeOf_linkedTree : linkedTree.placeOf [] true "s" = .ok ["c"] :=
  have htakes : FileTree.TakesSteps [] "s" [] ["s"] := by decide +kernel
  htakes.placeOf_eq (FileTree.locate_eq_of_within 9 rfl)

/-- Nothing in the tree fails to be listed or read. -/
theorem readable_linkedTree : Readable linkedTree [] "s" ["c"] := by
  refine readable_of_placeOf rfl fun below e hentry hkind => ?_
  have hplaces : ∀ listed ∈ linkedTree.entries, listed.2.kind ≠ .link →
      listed.1 ∈ [["c"], ["c", "x"], ["c", "b"], ["c", "b", "a.js"]] := by decide +kernel
  have hbelow : below ∈ [[], ["x"], ["b"], ["b", "a.js"]] := by
    simpa using hplaces _ (mem_linkedTree hentry) hkind
  have htakes : ∀ below ∈ [[], ["x"], ["b"], ["b", "a.js"]],
      FileTree.TakesSteps [] (pathBelow "s" below) [] ("s" :: below) := by decide +kernel
  refine (htakes below hbelow).placeOf_eq ?_
  simp only [List.mem_cons, List.not_mem_nil, or_false] at hbelow
  rcases hbelow with rfl | rfl | rfl | rfl <;> exact FileTree.locate_eq_of_within 9 rfl

/-- A walk through the tree yields the link to the file. -/
theorem rest_eq_wanted_linkedTree :
    ∃ w, start linkedTree [] "s" {} = .ok w ∧
      ∃ belows : List (List String), ["z.js"] ∈ belows ∧
        List.Forall₂ (fun below item => ∃ bytes,
            linkedTree.bytesAt? [] (["c"] ++ below) (pathBelow "s" below) = some bytes ∧
              item = .ofBytes (pathBelow "s" below) bytes)
          belows ((w.rest linkedTree []).1.map (·.2)) := by
  obtain ⟨w, hstart, -, belows, -, hmem, hitems⟩ := rest_eq_wanted wellFormed_linkedTree
    placeOf_linkedTree (by decide) readable_linkedTree {}
  have hleads : linkedTree.LeadsToFile [] (pathBelow "s" ["z.js"]) ⟨#[0xff]⟩ := by
    have htakes : FileTree.TakesSteps [] (pathBelow "s" ["z.js"]) [] ["s", "z.js"] := by
      decide +kernel
    have hlocate : linkedTree.locate true FileTree.maxLinks [] ["s", "z.js"] =
        .ok (.found ["c", "x"]) :=
        FileTree.locate_eq_of_within 9 rfl
    exact htakes.leadsToFile hlocate rfl
  refine ⟨w, hstart, belows, (hmem ["z.js"]).mpr ?_, hitems⟩
  exact {
    ne_root := by decide
    directories := by
      intro d hd hne
      rcases List.prefix_cons_iff.mp hd with rfl | ⟨rest, rfl, hrest⟩
      · decide
      · exact absurd (congrArg _ (List.prefix_nil.mp hrest)) hne
    file := ⟨⟨#[0xff]⟩, by
      have hentry : linkedTree.entry? (["c"] ++ ["z.js"]) = some (.link "x") := rfl
      have hfile := FileTree.isFile_iff_leadsToFile.mpr ⟨_, hleads⟩
      rw [FileTree.bytesAt?, hentry]
      simp only [hfile, hleads.readBytes, if_true]
      rfl⟩
    suffix := ⟨"z.js", rfl, ".js", by decide, by decide⟩
    not_excluded := fun d _ _ => by simp [FileFilter.excludes] }

end Walk

end Wording
