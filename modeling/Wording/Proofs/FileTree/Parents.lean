import Mathlib.Data.List.DropRight
import Wording.FileTree.Access
import Wording.Proofs.FileTree.Names

/-!
# The paths on the way to a path

* `Path.names_parent?` — the names of a path begin with those of its parent, and the two are both
  absolute or both relative.
* **`FileTree.names_of_mem_ancestors`** — and so do they with those of every path on the way.
* `FileTree.names_withoutSlashes`, `FileTree.steps_withoutSlashes` — a path without slashes at its
  end has the names that it has with them, and no other steps.

A parent is cut out of the path as it is written, so that it begins as the path does; what is cut
off are whole pieces.
-/

namespace Wording

namespace Path

/-! ## Parents -/

/-- Slashes in a text separate names. -/
theorem namesIn_append_cons (a b : List Char) :
    namesIn (a ++ '/' :: b) = namesIn a ++ namesIn b := by
  simp [namesIn, Text.pieces_append_cons]

/-- Pieces that are put together have those for names that are not empty. -/
theorem namesIn_intercalate {cut : List (List Char)} (h : ∀ piece ∈ cut, '/' ∉ piece) :
    namesIn (['/'].intercalate cut) = (cut.filter (· ≠ [])).map String.ofList := by
  cases cut with
  | nil => rfl
  | cons piece more => rw [namesIn, Text.pieces_intercalate (List.cons_ne_nil _ _) h]

/-- A piece never stands for the place where a path begins. -/
theorem pieceComponent?_ne {piece : List Char} :
    pieceComponent? piece ≠ some .root ∧ pieceComponent? piece ≠ some .current := by
  unfold pieceComponent?
  split_ifs <;> simp

/-- Only a relative path ends in the dot that it begins with. -/
theorem isAbsolute_of_getLast?_eq_current {path : String}
    (h : (components path).getLast? = some .current) : isAbsolute path = false := by
  by_contra habsolute
  rw [Bool.not_eq_false] at habsolute
  rw [components, if_pos habsolute] at h
  have hmem := List.mem_of_getLast? h
  rcases List.mem_cons.mp hmem with hroot | hinner
  · cases hroot
  · obtain ⟨piece, -, hpiece⟩ := List.mem_filterMap.mp hinner
    exact pieceComponent?_ne.2 hpiece

/-- The pieces of a path that its parent keeps. -/
def parentPieces (path : String) : List (List Char) :=
  ((((pieces path).reverse.dropWhile fun piece => (pieceComponent? piece).isNone).tail).dropWhile
    fun piece => (pieceComponent? piece).isNone).reverse

/-- A parent keeps the first pieces of a path. -/
theorem parentPieces_isPrefix (path : String) : parentPieces path <+: pieces path := by
  rw [← List.reverse_suffix, parentPieces, List.reverse_reverse]
  exact (List.dropWhile_suffix _).trans ((List.tail_suffix _).trans (List.dropWhile_suffix _))

/-- A parent that is cut out of a path is a dot that the path begins with, or what its pieces come
to. -/
theorem cut_eq {path parent : String} {empty : Bool}
    (h : ((if isAbsolute path then "/" else "") ++
      if !isAbsolute path && (pieces path).head? == some ['.'] && empty then "."
      else joinPieces (parentPieces path)) = parent) :
    parent = "." ∧ isAbsolute path = false ∧ (pieces path).head? = some ['.'] ∨
      parent = (if isAbsolute path then "/" else "") ++ joinPieces (parentPieces path) := by
  by_cases hdot : (!isAbsolute path && (pieces path).head? == some ['.'] && empty) = true
  · rw [if_pos hdot] at h
    simp only [Bool.and_eq_true, Bool.not_eq_true', beq_iff_eq] at hdot
    obtain ⟨⟨hrelative, hhead⟩, -⟩ := hdot
    refine .inl ⟨?_, hrelative, hhead⟩
    rw [← h, hrelative]
    rfl
  · rw [if_neg hdot] at h
    exact .inr h.symm

/-- A parent is empty, a dot that the path begins with, or what its pieces come to. -/
theorem parent?_eq_some {path parent : String} (h : parent? path = some parent) :
    parent = "" ∧ isAbsolute path = false ∨
      parent = "." ∧ isAbsolute path = false ∧ (pieces path).head? = some ['.'] ∨
      parent = (if isAbsolute path then "/" else "") ++ joinPieces (parentPieces path) := by
  unfold parent? at h
  cases hlast : (components path).getLast? with
  | none => simp [hlast] at h
  | some last =>
      cases last with
      | root => simp [hlast] at h
      | current =>
          simp only [hlast, Option.some.injEq] at h
          exact .inl ⟨h.symm, isAbsolute_of_getLast?_eq_current hlast⟩
      | parent =>
          simp only [hlast, Option.some.injEq] at h
          exact .inr (cut_eq h)
      | name value =>
          simp only [hlast, Option.some.injEq] at h
          exact .inr (cut_eq h)
      | foreign letters =>
          simp only [hlast, Option.some.injEq] at h
          exact .inr (cut_eq h)

/-- **The names of a path begin with those of its parent**, and the two are both absolute or both
relative. -/
theorem names_parent? {path parent : String} (h : parent? path = some parent) :
    isAbsolute parent = isAbsolute path ∧ names parent <+: names path := by
  have hkept : ((parentPieces path).filter (· ≠ [])).map String.ofList <+: names path :=
    ((parentPieces_isPrefix path).filter _).map _
  have hslash : ∀ piece ∈ parentPieces path, '/' ∉ piece := fun piece hpiece =>
    Text.not_mem_of_mem_pieces ((parentPieces_isPrefix path).subset hpiece)
  rcases parent?_eq_some h with ⟨rfl, hrelative⟩ | ⟨rfl, hrelative, hhead⟩ | rfl
  · exact ⟨hrelative.symm ▸ rfl, List.nil_prefix⟩
  · refine ⟨hrelative.symm ▸ rfl, ?_⟩
    obtain ⟨more, hmore⟩ := List.head?_eq_some_iff.mp hhead
    have hnames : names path = "." :: (more.filter (· ≠ [])).map String.ofList := by
      rw [names, hmore]
      rfl
    rw [hnames]
    exact ⟨_, rfl⟩
  · by_cases habsolute : isAbsolute path
    · simp only [habsolute, if_true]
      have hjoined : isAbsolute ("/" ++ joinPieces (parentPieces path)) = true := by
        simp [isAbsolute]
      have hbody : body ("/" ++ joinPieces (parentPieces path)) =
          ['/'].intercalate (parentPieces path) := by
        rw [body, if_pos hjoined]
        simp [joinPieces]
      exact ⟨hjoined, by rwa [names_eq, hbody, namesIn_intercalate hslash]⟩
    · have hrelative : isAbsolute path = false := by simpa using habsolute
      simp only [hrelative, Bool.false_eq_true, if_false, String.empty_append]
      -- the parent is a beginning of the path, and so begins as the path does
      have hprefix : ['/'].intercalate (parentPieces path) <+: path.toList := by
        have hcut := parentPieces_isPrefix path
        rw [pieces, if_neg habsolute] at hcut
        exact Text.intercalate_isPrefix hcut
      have hjoined : isAbsolute (joinPieces (parentPieces path)) = false := by
        rw [isAbsolute] at hrelative ⊢
        rw [joinPieces, String.toList_ofList]
        cases hcut : ['/'].intercalate (parentPieces path) with
        | nil => rfl
        | cons c rest =>
            obtain ⟨behind, hbehind⟩ := hcut ▸ hprefix
            rwa [← hbehind] at hrelative
      have hbody : body (joinPieces (parentPieces path)) =
          ['/'].intercalate (parentPieces path) := by
        rw [body, hjoined]
        simp [joinPieces]
      exact ⟨hjoined, by rwa [names_eq, hbody, namesIn_intercalate hslash]⟩

end Path

namespace FileTree

/-- **The names of a path begin with those of every path on the way to it**, and all of these are
absolute or all of them relative. -/
theorem names_of_mem_ancestors {fuel : Nat} {path ancestor : String}
    (h : ancestor ∈ ancestors fuel path) :
    Path.isAbsolute ancestor = Path.isAbsolute path ∧ Path.names ancestor <+: Path.names path := by
  induction fuel generalizing path with
  | zero => cases h
  | succ fuel ih =>
      rw [ancestors, List.mem_cons] at h
      rcases h with rfl | h
      · exact ⟨rfl, List.prefix_rfl⟩
      · split at h
        · next parent hparent =>
          obtain ⟨habsolute, hnames⟩ := Path.names_parent? hparent
          obtain ⟨habsolute', hnames'⟩ := ih h
          exact ⟨habsolute'.trans habsolute, hnames'.trans hnames⟩
        · cases h

/-! ## Slashes at the end -/

/-- A path is what it is without slashes at its end, with slashes behind. -/
theorem exists_toList_eq_append (path : String) :
    ∃ bare count, path.toList = bare ++ List.replicate count '/' ∧ bare.getLast? ≠ some '/' ∧
      (path.toList.reverse.dropWhile (· == '/')).reverse = bare := by
  refine ⟨path.toList.rdropWhile (· == '/'), (path.toList.rtakeWhile (· == '/')).length,
    ?_, ?_, rfl⟩
  · have hslashes : path.toList.rtakeWhile (· == '/') =
        List.replicate (path.toList.rtakeWhile (· == '/')).length '/' := by
      refine List.eq_replicate_iff.mpr ⟨rfl, fun c hc => ?_⟩
      simpa using List.mem_rtakeWhile_imp hc
    rw [← hslashes]
    exact (List.rdropWhile_append_rtakeWhile ..).symm
  · intro hlast
    have hne : path.toList.rdropWhile (· == '/') ≠ [] := by
      intro hnil
      simp [hnil] at hlast
    have hnot := List.rdropWhile_last_not (· == '/') path.toList hne
    rw [List.getLast?_eq_some_getLast hne] at hlast
    simp [Option.some.inj hlast] at hnot

/-- Slashes at the end of a text are behind all names in it. -/
theorem namesIn_append_slashes (text : List Char) (count : Nat) :
    Path.namesIn (text ++ List.replicate count '/') = Path.namesIn text := by
  induction count generalizing text with
  | zero => simp
  | succ count ih =>
      have hsplit : text ++ List.replicate (count + 1) '/' =
          (text ++ ['/']) ++ List.replicate count '/' := by
        simp [List.replicate_succ]
      have hnil : Path.namesIn [] = [] := rfl
      rw [hsplit, ih, Path.namesIn_append_cons, hnil, List.append_nil]

/-- **Slashes at its end do not matter for the names of a path**, nor for where it begins. -/
theorem names_withoutSlashes (path : String) :
    Path.isAbsolute (withoutSlashes path) = Path.isAbsolute path ∧
      Path.names (withoutSlashes path) = Path.names path := by
  obtain ⟨bare, count, hpath, -, hbare⟩ := exists_toList_eq_append path
  rw [withoutSlashes, hbare]
  cases bare with
  | nil => simp
  | cons c rest =>
      have hempty : (String.ofList (c :: rest)).isEmpty = false := by simp
      simp only [hempty, Bool.false_eq_true, if_false]
      have habsolute : Path.isAbsolute (String.ofList (c :: rest)) = Path.isAbsolute path := by
        simp [Path.isAbsolute, hpath]
      have hbody : Path.body path =
          Path.body (String.ofList (c :: rest)) ++ List.replicate count '/' := by
        rw [Path.body, Path.body, habsolute, hpath]
        split_ifs <;> simp
      refine ⟨habsolute, ?_⟩
      rw [Path.names_eq path, hbody, namesIn_append_slashes, Path.names_eq]

/-- The steps of a path without slashes at its end are its names, unless it has none. -/
theorem steps_withoutSlashes {path : String} (h : Path.names path ≠ []) :
    Path.steps (withoutSlashes path) = Path.names path := by
  obtain ⟨-, hnames⟩ := names_withoutSlashes path
  obtain ⟨bare, count, hpath, hlast, hbare⟩ := exists_toList_eq_append path
  have hwithout : (withoutSlashes path).toList.getLast? ≠ some '/' := by
    rw [withoutSlashes, hbare]
    cases bare with
    | nil =>
        -- the path has nothing but slashes, and so no names
        have hbody : Path.body path = [] ++ List.replicate (Path.body path).length '/' := by
          unfold Path.body
          split_ifs <;> simp [hpath]
        rw [Path.names_eq, hbody, namesIn_append_slashes] at h
        exact absurd rfl h
    | cons c rest => simpa using hlast
  rw [← hnames, Path.steps, if_neg (by simpa using hwithout)]
  rfl

end FileTree

end Wording
