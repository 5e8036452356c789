import Wording.Proofs.FileTree.Resolution

/-!
# What the operations come to

* `FileTree.TakesSteps.pathExists_eq`, `FileTree.TakesSteps.make_eq`,
  `FileTree.TakesSteps.writeFile_eq` — an operation on a path comes to what its steps lead to.
* `FileTree.locate_eq_of_within` — what steps lead to can be computed, step by step.
* `FileTree.makeDirectories_of_make`, `FileTree.makeDirectories_of_isDirectoryPath` — a directory
  that can be made at once, and one that is there, need none of the directories above.
* `FileTree.isFile_iff_leadsToFile`, `FileTree.readBytes_eq_ok_iff` — files are told from devices by
  what stands where the path leads, and both can be read.
-/

namespace Wording.FileTree

variable {t t' : FileTree} {cwd here place : Place} {path : String} {steps : List String}

/-! ## Steps that are counted -/

/-- What the steps lead to, if it takes fewer than `fuel` of them, those to the targets of links
included. -/
def locateWithin (t : FileTree) (followLast : Bool) :
    Nat → Nat → Place → List String → Option (Except Errno Spot)
  | 0, _, _, _ => none
  | _ + 1, _, here, [] => some (.ok (.found here))
  | fuel + 1, links, here, name :: rest =>
    if !t.isDirectory here then some (.error .notDirectory)
    else if name = "" ∨ name = "." then t.locateWithin followLast fuel links here rest
    else if name = ".." then t.locateWithin followLast fuel links here.dropLast rest
    else if maxNameLength < name.utf8ByteSize then some (.error .nameTooLong)
    else
      match t.entry? (here ++ [name]) with
      | none =>
        some (if rest.all (· = "") then .ok (.absent here name !rest.isEmpty) else .error .noEntry)
      | some (.link target) =>
        if rest.isEmpty && !followLast then some (.ok (.found (here ++ [name])))
        else
          match links with
          | 0 => some (.error .tooManyLinks)
          | links + 1 =>
            t.locateWithin followLast fuel links (if Path.isAbsolute target then [] else here)
              (Path.steps target ++ rest)
      | some _ => t.locateWithin followLast fuel links (here ++ [name]) rest

/-- **Steps that are counted lead where the steps lead.**  To count them makes it a computation. -/
theorem locate_eq_of_within {follow : Bool} {links : Nat} {here : Place} {xs : List String}
    {result : Except Errno Spot} (fuel : Nat)
    (h : t.locateWithin follow fuel links here xs = some result) :
    t.locate follow links here xs = result := by
  fun_induction locateWithin t follow fuel links here xs with
  | case1 => cases h
  | case2 fuel links here =>
      rw [locate]
      exact Option.some.inj h
  | case3 fuel links here name rest hhere =>
      rw [locate, if_pos hhere]
      exact Option.some.inj h
  | case4 fuel links here name rest hhere hname ih =>
      rw [locate_stay (by simpa using hhere) hname]
      exact ih h
  | case5 fuel links here rest hhere _ ih =>
      rw [locate_up (by simpa using hhere)]
      exact ih h
  | case6 fuel links here name rest hhere hstay hup hlength =>
      rw [locate, if_neg hhere, if_neg hstay, if_neg hup, if_pos hlength]
      exact Option.some.inj h
  | case7 fuel links here name rest hhere hstay hup hlength hentry =>
      rw [locate_name ⟨by simpa using hhere, hstay, hup, hlength⟩, hentry]
      exact Option.some.inj h
  | case8 fuel links here name rest hhere hstay hup hlength target hentry hlast =>
      rw [locate_name ⟨by simpa using hhere, hstay, hup, hlength⟩, hentry]
      simp only [hlast, if_true]
      exact Option.some.inj h
  | case9 fuel here name rest hhere hstay hup hlength target hentry hlast =>
      rw [locate_name ⟨by simpa using hhere, hstay, hup, hlength⟩, hentry]
      simp only [if_neg hlast]
      exact Option.some.inj h
  | case10 fuel here name rest hhere hstay hup hlength target hentry hlast links ih =>
      rw [locate_link ⟨by simpa using hhere, hstay, hup, hlength⟩ hentry (by simpa using hlast)]
      exact ih h
  | case11 fuel links here name rest hhere hstay hup hlength e hlink hentry ih =>
      rw [locate_enter ⟨by simpa using hhere, hstay, hup, hlength⟩ hentry hlink]
      exact ih h

/-! ## By the steps of a path -/

namespace TakesSteps

/-- A path names something if its steps lead to an entry. -/
theorem pathExists_eq (h : TakesSteps cwd path here steps) (t : FileTree) :
    t.pathExists cwd path =
      match t.locate true maxLinks here steps with
      | .ok (.found place) => (t.entry? place).isSome
      | _ => false := by
  rw [pathExists, kindOf, placeOf, h.resolve_eq]
  cases t.locate true maxLinks here steps with
  | error errno => rfl
  | ok spot =>
      cases spot with
      | absent parent name slashed => rfl
      | found place =>
          simp only [Except.mapError]
          cases t.entry? place <;> rfl

/-- A path names a directory if its steps lead to one. -/
theorem isDirectoryPath_of_locate (h : TakesSteps cwd path here steps)
    (hlocate : t.locate true maxLinks here steps = .ok (.found place))
    (hplace : t.isDirectory place = true) : t.isDirectoryPath cwd path = true := by
  rw [isDirectoryPath, kindOf_eq (h.placeOf_eq hlocate) (isDirectory_iff.mp hplace)]
  rfl

/-- Something new is made where the steps of the path, slashes at its end apart, find nothing. -/
theorem make_eq (h : TakesSteps cwd (withoutSlashes path) here steps) (t : FileTree) (e : Entry) :
    t.make cwd path e =
      match t.locate false maxLinks here steps with
      | .error errno => .error (.system errno)
      | .ok (.found _) => .error (.system .fileExists)
      | .ok (.absent parent name _) => .ok (t.put (parent ++ [name]) e) := by
  rw [make, h.resolve_eq]
  cases t.locate false maxLinks here steps with
  | error errno => rfl
  | ok spot => cases spot <;> rfl

/-- A file is written where the steps of the path lead, unless a directory stands there, or a device,
which may take what is written. -/
theorem writeFile_eq (h : TakesSteps cwd path here steps) (hslash : endsInSlash path = false)
    (t : FileTree) (bytes : ByteArray) :
    t.writeFile cwd path bytes =
      match t.locate true maxLinks here steps with
      | .error errno => .error (.system errno)
      | .ok (.absent parent name slashed) =>
        if slashed then .error (.system .isDirectory)
        else .ok (t.put (parent ++ [name]) (.file bytes))
      | .ok (.found place) =>
        match t.entry? place with
        | some .directory => .error (.system .isDirectory)
        | some (.device device) =>
          match device.refusal? with
          | some errno => .error (.system errno)
          | none => .ok t
        | _ => .ok (t.put place (.file bytes)) := by
  rw [writeFile, hslash, h.resolve_eq]
  cases t.locate true maxLinks here steps with
  | error errno => rfl
  | ok spot => cases spot <;> rfl

/-- No file is written by a path with a slash at its end. -/
theorem writeFile_eq_of_slash (h : TakesSteps cwd (withoutSlashes path) here steps)
    (hslash : endsInSlash path = true) (t : FileTree) (bytes : ByteArray) :
    t.writeFile cwd path bytes =
      match t.locate false maxLinks here steps with
      | .error errno => .error (.system errno)
      | .ok _ => .error (.system .isDirectory) := by
  rw [writeFile, hslash, h.resolve_eq]
  cases t.locate false maxLinks here steps <;> rfl

end TakesSteps

/-! ## Making directories -/

/-- A directory that can be made at once is made without its parents. -/
theorem makeParents_of_make (hne : path.isEmpty = false) (parents : List String)
    (h : t.make cwd path .directory = .ok t') :
    t.makeParents cwd (path :: parents) = (t', none) := by
  rw [makeParents, hne, h]
  rfl

/-- A directory that is there is not made. -/
theorem makeParents_of_isDirectoryPath (hne : path.isEmpty = false) (parents : List String)
    (h : t.make cwd path .directory = .error (.system .fileExists))
    (hthere : t.isDirectoryPath cwd path = true) :
    t.makeParents cwd (path :: parents) = (t, none) := by
  rw [makeParents, hne, h, hthere]
  rfl

/-- Only the directory of the path is made if it can be made at once. -/
theorem makeDirectories_of_make (hne : path.isEmpty = false)
    (h : t.make cwd path .directory = .ok t') : t.makeDirectories cwd path = (t', none) :=
  makeParents_of_make hne _ h

/-- No directory is made if the one of the path is there. -/
theorem makeDirectories_of_isDirectoryPath (hne : path.isEmpty = false)
    (h : t.make cwd path .directory = .error (.system .fileExists))
    (hthere : t.isDirectoryPath cwd path = true) : t.makeDirectories cwd path = (t, none) :=
  makeParents_of_isDirectoryPath hne _ h hthere

/-! ## Files and devices -/

/-- The path leads, through links if need be, to a regular file with the bytes. -/
def LeadsToFile (t : FileTree) (cwd : Place) (path : String) (bytes : ByteArray) : Prop :=
  ∃ place, t.placeOf cwd true path = .ok place ∧ t.entry? place = some (.file bytes)

/-- A regular file is found where the path leads to one. -/
theorem isFile_iff_leadsToFile :
    t.isFile cwd path = true ↔ ∃ bytes, t.LeadsToFile cwd path bytes := by
  constructor
  · intro h
    unfold isFile kindOf at h
    split at h
    · next hkind =>
      split at hkind
      · cases hkind
      · next place hplace =>
        split at hkind
        · next e hentry =>
          cases e with
          | file bytes => exact ⟨bytes, place, hplace, hentry⟩
          | link => cases hkind
          | directory => cases hkind
          | device => cases hkind
        · cases hkind
    · cases h
  · rintro ⟨bytes, place, hplace, hentry⟩
    rw [isFile, kindOf_eq hplace hentry]
    rfl

/-- Bytes are read where the path leads to an entry that gives them. -/
theorem readBytes_eq_ok_iff {bytes : ByteArray} :
    t.readBytes cwd path = .ok bytes ↔
      ∃ place e, t.placeOf cwd true path = .ok place ∧ t.entry? place = some e ∧
        e.read = .ok bytes := by
  unfold readBytes
  constructor
  · intro h
    split at h
    · cases h
    · next place hplace =>
      split at h
      · next e hentry =>
        refine ⟨place, e, hplace, hentry, ?_⟩
        cases hread : e.read with
        | error errno =>
            rw [hread] at h
            cases h
        | ok found =>
            rw [hread] at h
            exact congrArg _ (Except.ok.inj h)
      · cases h
  · rintro ⟨place, e, hplace, hentry, hread⟩
    simp only [hplace, hentry, hread]
    rfl

/-- A path leads to a regular file if its steps do. -/
theorem TakesSteps.leadsToFile (h : TakesSteps cwd path here steps) {bytes : ByteArray}
    (hlocate : t.locate true maxLinks here steps = .ok (.found place))
    (hentry : t.entry? place = some (.file bytes)) : t.LeadsToFile cwd path bytes :=
  ⟨place, h.placeOf_eq hlocate, hentry⟩

/-- The bytes of a regular file are read where the path leads to it. -/
theorem LeadsToFile.readBytes {bytes : ByteArray} (h : t.LeadsToFile cwd path bytes) :
    t.readBytes cwd path = .ok bytes := by
  obtain ⟨place, hplace, hentry⟩ := h
  exact readBytes_eq_ok_iff.mpr ⟨place, _, hplace, hentry, rfl⟩

/-- A directory to which the path leads is listed unless it is locked. -/
theorem isOk_list (h : t.placeOf cwd true path = .ok place) (hplace : t.isDirectory place = true)
    (hlocked : t.locked.contains place = false) : (t.list cwd path).isOk = true := by
  rw [list, h]
  simp only [hplace, hlocked]
  rfl

end Wording.FileTree
