import Wording.Proofs.FileTree.NewDirectories

/-!
# A file that is written

* `FileTree.Rooted.exists_entry` — in a rooted tree a path never leads to a link.
* `FileTree.Rooted.makeDirectories` — a tree stays rooted when directories are made in it.
* `FileTree.FileWritten` — two trees are the same but for a file, which was missing or had other
  bytes.
* `FileTree.FileWritten.keeps` — steps lead in the second tree where they led in the first.
* `FileTree.FileWritten.follows_missing` — steps that missed the file lead to it now.
* **`FileTree.Rooted.fileWritten`** — a path by which a file is written leads to this file, or to a
  device that takes it.

The path may end in links, with its last target still to be made, and it may go up.  What goes up
from a directory comes to one as long as the tree is rooted; otherwise a path could come to a link
from below, and the file would be written over it.
-/

namespace Wording

namespace FileTree

variable {t t' : FileTree} {cwd p : Place} {bytes : ByteArray}

/-! ## Rooted trees -/

/-- A directory stands in a directory. -/
theorem Rooted.isDirectory_dropLast (h : t.Rooted) (hp : t.isDirectory p = true) :
    t.isDirectory p.dropLast = true := by
  by_cases hnil : p = []
  · rwa [hnil] at hp ⊢
  · have hlookup : t.entries.lookup p = some .directory := by
      simpa [hnil, entry?] using isDirectory_iff.mp hp
    obtain ⟨front, behind, heq, -⟩ := List.lookup_eq_some_iff.mp hlookup
    exact h p (by simp [heq])

/-- **Steps lead to an entry that is no link**, if they begin at one or lead anywhere else.  Links on
the way are replaced, and what goes up comes to a directory. -/
theorem Rooted.exists_entry (h : t.Rooted) {links links' : Nat} {here place : Place}
    {xs : List String} (hfollows : Follows t links here xs links' place)
    (hstart : xs ≠ [] ∨ ∃ e, t.entry? here = some e ∧ ∀ target, e ≠ .link target) :
    ∃ e, t.entry? place = some e ∧ ∀ target, e ≠ .link target := by
  have hdirectory : ∀ {q}, t.isDirectory q = true →
      ∃ e, t.entry? q = some e ∧ ∀ target, e ≠ .link target := by
    intro q hq
    exact ⟨.directory, isDirectory_iff.mp hq, nofun⟩
  induction hfollows with
  | done links here => exact hstart.resolve_left fun hne => hne rfl
  | stay hhere _ _ ih => exact ih (.inr (hdirectory hhere))
  | up hhere _ ih => exact ih (.inr (hdirectory (h.isDirectory_dropLast hhere)))
  | enter _ hentry hlink _ ih => exact ih (.inr ⟨_, hentry, hlink⟩)
  | link hname _ _ ih =>
      refine ih (.inr (hdirectory ?_))
      split_ifs
      · rfl
      · exact hname.isDirectory

/-- A new directory in a directory keeps a tree rooted. -/
theorem Rooted.put (h : t.Rooted) (hnone : t.entry? p = none)
    (hparent : t.isDirectory p.dropLast = true) : (t.put p .directory).Rooted := by
  intro q hq
  apply (grows_put hnone).keeps.isDirectory
  rcases List.mem_cons.mp hq with rfl | hq
  · exact hparent
  · exact h q ((List.filter_sublist.map _).subset hq)

/-- A directory that is made keeps a tree rooted. -/
theorem Rooted.make (h : t.Rooted) {path : String} (hmake : t.make cwd path .directory = .ok t') :
    t'.Rooted := by
  unfold FileTree.make at hmake
  split at hmake
  · cases hmake
  · cases hmake
  · next parent name slashed hspot =>
    obtain rfl := Except.ok.inj hmake
    obtain ⟨-, -, -, -, hname, hnone⟩ := follows_of_resolve_absent hspot
    apply h.put hnone
    rw [List.dropLast_concat]
    exact hname.isDirectory

/-- **Directories that are made keep a tree rooted**, also if the making fails on the way. -/
theorem Rooted.makeDirectories (h : t.Rooted) (cwd : Place) (path : String) :
    (t.makeDirectories cwd path).1.Rooted :=
  makeParents_induction (fun _ _ _ _ ht hmake => ht.make hmake) h

/-! ## A file in its place -/

/-- The second tree is the first with the file at the place, where a file stood or nothing. -/
structure FileWritten (t t' : FileTree) (p : Place) (bytes : ByteArray) : Prop where
  written : t'.entry? p = some (.file bytes)
  kept : ∀ q, q ≠ p → t'.entry? q = t.entry? q
  replaced : ∀ e, t.entry? p = some e → e.kind = .file

/-- A file is written by putting it where a file stood or nothing. -/
theorem fileWritten_put (t : FileTree) (bytes : ByteArray) (hp : p ≠ [])
    (hreplaced : ∀ e, t.entry? p = some e → e.kind = .file) :
    FileWritten t (t.put p (.file bytes)) p bytes where
  written := by rw [entry_put, if_pos ⟨hp, rfl⟩]
  kept q hq := by rw [entry_put, if_neg fun h => hq h.2]
  replaced := hreplaced

namespace FileWritten

/-- All entries are still there, but for the file. -/
theorem entry (h : FileWritten t t' p bytes) {q : Place} {e : Entry} (hentry : t.entry? q = some e) :
    t'.entry? q = some e ∨ q = p ∧ e.kind = .file := by
  by_cases hq : q = p
  · subst hq
    exact .inr ⟨rfl, h.replaced e hentry⟩
  · left
    rw [h.kept q hq, hentry]

/-- The second tree keeps what stands in the first. -/
theorem keeps (h : FileWritten t t' p bytes) : Keeps t t' where
  entry := by
    intro q e hentry
    refine (h.entry hentry).imp_right ?_
    rintro ⟨rfl, hkind⟩
    exact ⟨hkind, bytes, h.written⟩

/-- **Steps that missed the file lead to it now**, also through a link whose target it is. -/
theorem follows_missing {parent : Place} {name : String}
    (h : FileWritten t t' (parent ++ [name]) bytes) {links : Nat} {here : Place} {xs : List String}
    (hmissing : t.locate true links here xs = .ok (.absent parent name false)) :
    ∃ links', Follows t' links here xs links' (parent ++ [name]) := by
  have hdirectory : ∀ {q}, ¬(!t.isDirectory q) = true → t'.isDirectory q = true := by
    intro q hq
    exact h.keeps.isDirectory (by simpa using hq)
  have hnone : t.entry? (parent ++ [name]) = none := entry_eq_none_of_locate_absent hmissing
  have hkept : ∀ {q e}, t.entry? q = some e → t'.entry? q = some e := by
    intro q e hentry
    rw [h.kept q, hentry]
    rintro rfl
    rw [hnone] at hentry
    cases hentry
  fun_induction locate t true links here xs with
  | case3 links here step rest hhere hstep ih =>
      obtain ⟨links', hrest⟩ := ih hmissing
      exact ⟨links', .stay (hdirectory hhere) hstep hrest⟩
  | case4 links here rest hhere _ ih =>
      obtain ⟨links', hrest⟩ := ih hmissing
      exact ⟨links', .up (hdirectory hhere) hrest⟩
  -- the one step at which something is there now that was not
  | case6 links here step rest hhere hstay hup hlength place _ _ =>
      obtain ⟨rfl, rfl, hslashed⟩ := Spot.absent.inj (Except.ok.inj hmissing)
      obtain rfl : rest = [] := by simpa using hslashed
      exact ⟨links, .enter ⟨hdirectory hhere, hstay, hup, hlength⟩ h.written (by simp)
        (.done links _)⟩
  | case10 here step rest hhere hstay hup hlength place target hentry _ links start ih =>
      obtain ⟨links', hrest⟩ := ih hmissing
      exact ⟨links', .link ⟨hdirectory hhere, hstay, hup, hlength⟩ (hkept hentry) hrest⟩
  | case11 links here step rest hhere hstay hup hlength place e hlink hentry ih =>
      obtain ⟨links', hrest⟩ := ih hmissing
      exact ⟨links', .enter ⟨hdirectory hhere, hstay, hup, hlength⟩ (hkept hentry) hlink hrest⟩
  | _ => cases hmissing

end FileWritten

/-! ## Writing by a path -/

/-- Writing a file puts it where the path leads, or where it misses a file; or a device takes it. -/
theorem writeFile_cases {path : String} (h : t.writeFile cwd path bytes = .ok t') :
    (∃ p, t' = t.put p (.file bytes) ∧
        (∀ e, t.entry? p = some e → e.kind = .file ∨ e.kind = .link) ∧
        (t.resolve cwd true path = .ok (.found p) ∨
          ∃ parent name, p = parent ++ [name] ∧
            t.resolve cwd true path = .ok (.absent parent name false))) ∨
      t' = t ∧ ∃ place device, t.placeOf cwd true path = .ok place ∧
        t.entry? place = some (.device device) ∧ device.refusal? = none := by
  obtain ⟨spot, hspot, ⟨rfl, hkind⟩ | ⟨rfl, place, device, rfl, hdevice⟩⟩ := writeFile_eq_ok h
  · refine .inl ⟨spot.place, rfl, hkind, ?_⟩
    cases spot with
    | found place => exact .inl hspot
    | absent parent name slashed =>
        -- a slash behind the name would be refused
        have hslashed : slashed = false := by
          unfold writeFile at h
          split at h
          · split at h <;> cases h
          · rw [hspot] at h
            cases slashed
            · rfl
            · cases h
        exact .inr ⟨parent, name, rfl, hslashed ▸ hspot⟩
  · refine .inr ⟨rfl, place, device, ?_, hdevice⟩
    rw [placeOf, hspot]

/-- **A path by which a file is written leads to this file**, and the tree is the same otherwise; or
the path leads to a device that takes what is written, and the tree is the same. -/
theorem Rooted.fileWritten (h : t.Rooted) {path : String}
    (hwrite : t.writeFile cwd path bytes = .ok t') :
    ∃ p, t'.placeOf cwd true path = .ok p ∧
      (FileWritten t t' p bytes ∨
        t' = t ∧ ∃ device, t.entry? p = some (.device device) ∧ device.refusal? = none) := by
  rcases writeFile_cases hwrite with ⟨p, rfl, hkind, hspot⟩ | ⟨rfl, p, device, hplace, hdevice⟩
  · have hp : p ≠ [] := by
      rintro rfl
      rcases hkind .directory rfl with hkind | hkind <;> cases hkind
    rcases hspot with hfound | ⟨parent, name, rfl, habsent⟩
    · obtain ⟨-, hlocate⟩ := locate_of_resolve hfound
      obtain ⟨links, hfollows⟩ := exists_follows_of_locate hlocate
      have hpath := text_of_resolve hfound
      obtain ⟨e, hentry, hlink⟩ := h.exists_entry hfollows (.inl (Path.steps_ne_nil hpath.2.1))
      have hwritten : FileWritten t (t.put p (.file bytes)) p bytes := by
        refine fileWritten_put t bytes hp fun e' hentry' => (hkind e' hentry').resolve_right ?_
        obtain rfl := Option.some.inj (hentry.symm.trans hentry')
        intro hkind'
        cases e with
        | link target => exact hlink target rfl
        | _ => cases hkind'
      have htakes : TakesSteps cwd path _ _ := ⟨hpath, rfl, rfl⟩
      exact ⟨p, htakes.placeOf_eq (hwritten.keeps.follows hfollows).locate_eq, .inl hwritten⟩
    · obtain ⟨-, hlocate⟩ := locate_of_resolve habsent
      have hnone := entry_eq_none_of_locate_absent hlocate
      have hwritten := fileWritten_put t bytes hp fun e hentry => by
        rw [hnone] at hentry
        cases hentry
      obtain ⟨links, hfollows⟩ := hwritten.follows_missing hlocate
      have htakes : TakesSteps cwd path _ _ := ⟨text_of_resolve habsent, rfl, rfl⟩
      exact ⟨_, htakes.placeOf_eq hfollows.locate_eq, .inl hwritten⟩
  · exact ⟨p, hplace, .inr ⟨rfl, device, hdevice⟩⟩

end FileTree

end Wording
