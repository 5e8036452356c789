import Mathlib.Data.List.Basic
import Wording.Proofs.FileTree.Names
import Wording.SystemPath

/-!
# Paths that are texts, and those that are not

* `SystemPath.display_ofText`, `SystemPath.components_ofText` — a text is shown as it is, and has the
  components that it has as a text.
* **`SystemPath.exists_foreign_iff`** — a path has a name that is not UTF-8 among its components
  exactly if it is no text.
* `SystemPath.display_join` — what is below a directory is shown below what the directory is shown
  as.
-/

namespace Wording

/-! ## Letters -/

namespace Letter

/-- Different characters are different letters. -/
theorem char_injective : Function.Injective Letter.char := fun _ _ h => Letter.char.inj h

/-- A text is the text that its letters are. -/
theorem text?_map_char (text : List Char) : text? (text.map .char) = some text := by
  induction text with
  | nil => rfl
  | cons c rest ih =>
      rw [List.map_cons, text?, ih]
      rfl

/-- Letters are a text if none of them is broken. -/
theorem exists_eq_map_char {letters : List Letter} (h : ∀ bytes, .broken bytes ∉ letters) :
    ∃ text : List Char, letters = text.map .char := by
  induction letters with
  | nil => exact ⟨[], rfl⟩
  | cons letter rest ih =>
      obtain ⟨text, rfl⟩ := ih fun bytes hrest => h bytes (List.mem_cons_of_mem _ hrest)
      cases letter with
      | char c => exact ⟨c :: text, rfl⟩
      | broken bytes => exact absurd List.mem_cons_self (h bytes)

/-- Letters are no text if one of them is broken. -/
theorem text?_eq_none {letters : List Letter} {bytes : List UInt8} (h : .broken bytes ∈ letters) :
    text? letters = none := by
  induction letters with
  | nil => cases h
  | cons letter rest ih =>
      cases letter with
      | char c =>
          have hrest : .broken bytes ∈ rest := by simpa using h
          rw [text?, ih hrest]
          rfl
      | broken => rfl

end Letter

/-! ## Texts -/

namespace SystemPath

variable {p : SystemPath} {name : String}

/-- A text is shown as it is. -/
@[simp] theorem display_ofText (path : String) : (ofText path).display = path := by
  have hmap : (path.toList.map .char).map Letter.shown = path.toList := by
    rw [List.map_map]
    exact List.map_id _
  rw [display, ofText, hmap, String.ofList_toList]

/-- A text begins at the root as the path that it is. -/
theorem isAbsolute_ofText (path : String) : (ofText path).isAbsolute = Path.isAbsolute path := by
  unfold isAbsolute Path.isAbsolute ofText
  cases path.toList with
  | nil => rfl
  | cons c rest =>
      by_cases hc : c = '/' <;> simp [hc]

/-- A text has the pieces of the path that it is. -/
theorem pieces_ofText (path : String) :
    (ofText path).pieces = (Path.pieces path).map (List.map .char) := by
  rw [pieces, Path.pieces, isAbsolute_ofText, ← Text.pieces_map Letter.char_injective]
  split_ifs <;> simp [ofText]

/-- A piece that is a text stands for what it stands for as a text. -/
theorem pieceComponent?_map_char (piece : List Char) :
    pieceComponent? (piece.map .char) = Path.pieceComponent? piece := by
  rw [pieceComponent?, Letter.text?_map_char]

/-- **A text has the components of the path that it is.** -/
@[simp] theorem components_ofText (path : String) :
    (ofText path).components = Path.components path := by
  have hinner : (ofText path).pieces.filterMap pieceComponent? =
      (Path.pieces path).filterMap Path.pieceComponent? := by
    rw [pieces_ofText, List.filterMap_map]
    exact congrArg (List.filterMap · _) (funext pieceComponent?_map_char)
  have hcurrent : (ofText path).pieces.head? = some [.char '.'] ↔
      (Path.pieces path).head? = some ['.'] := by
    rw [pieces_ofText, List.head?_map]
    have hmap := Option.map_injective (List.map_injective_iff.mpr Letter.char_injective)
    exact hmap.eq_iff (b := some ['.'])
  simp only [components, Path.components, hinner, hcurrent, isAbsolute_ofText]

/-! ## Names that are not UTF-8 -/

/-- A text has no name that is not UTF-8 among its components. -/
theorem foreign_not_mem_components (letters : List Letter) (path : String) :
    Component.foreign letters ∉ Path.components path := by
  have hinner : Component.foreign letters ∉ (Path.pieces path).filterMap Path.pieceComponent? := by
    intro h
    obtain ⟨piece, -, hpiece⟩ := List.mem_filterMap.mp h
    unfold Path.pieceComponent? at hpiece
    split_ifs at hpiece <;> cases hpiece
  simp only [Path.components]
  split_ifs <;> simp [hinner]

/-- A broken letter is in a piece, and that piece is a name that is not UTF-8. -/
theorem exists_foreign_of_mem {bytes : List UInt8} (h : .broken bytes ∈ p.letters) :
    ∃ letters, .foreign letters ∈ p.components := by
  have hbody : .broken bytes ∈ if p.isAbsolute then p.letters.tail else p.letters := by
    split_ifs with habsolute
    · -- the letter at the beginning is a slash
      obtain ⟨rest, hrest⟩ := List.head?_eq_some_iff.mp (beq_iff_eq.mp habsolute)
      rw [hrest] at h ⊢
      simpa using h
    · exact h
  have hslash : Letter.broken bytes ≠ .char '/' := nofun
  obtain ⟨piece, hpiece, hmem⟩ := Text.exists_mem_pieces hbody hslash
  have hforeign : pieceComponent? piece = some (.foreign piece) := by
    rw [pieceComponent?, Letter.text?_eq_none hmem]
  have hinner : .foreign piece ∈ p.pieces.filterMap pieceComponent? :=
    List.mem_filterMap.mpr ⟨piece, hpiece, hforeign⟩
  refine ⟨piece, ?_⟩
  simp only [components]
  split_ifs <;> simp [hinner]

/-- **A path is no text exactly if it has a name that is not UTF-8** among its components. -/
theorem exists_foreign_iff :
    (∃ letters, .foreign letters ∈ p.components) ↔ ¬∃ text, p = ofText text := by
  constructor
  · rintro ⟨letters, hletters⟩ ⟨text, rfl⟩
    rw [components_ofText] at hletters
    exact foreign_not_mem_components letters text hletters
  · intro hno
    by_contra hnone
    obtain ⟨text, htext⟩ := Letter.exists_eq_map_char fun bytes hbytes =>
      hnone (exists_foreign_of_mem (p := p) hbytes)
    refine hno ⟨String.ofList text, ?_⟩
    rw [ofText, String.toList_ofList, ← htext]

/-! ## Joining -/

/-- The characters that a path is shown as. -/
theorem toList_display (p : SystemPath) : p.display.toList = p.letters.map Letter.shown :=
  String.toList_ofList

/-- What follows a path is shown behind what the path is shown as. -/
theorem display_append (p : SystemPath) (text : String) :
    (⟨p.letters ++ (ofText text).letters⟩ : SystemPath).display = p.display ++ text := by
  have htext : (ofText text).letters.map Letter.shown = text.toList := by
    rw [← toList_display, display_ofText]
  rw [← String.toList_inj, toList_display, List.map_append, htext, String.toList_append,
    toList_display]

/-- A path ends in a slash if what it is shown as does. -/
theorem getLast?_display (p : SystemPath) :
    p.display.toList.getLast? = some '/' ↔ p.letters.getLast? = some (.char '/') := by
  have hshown : ∀ letter : Letter, letter.shown = '/' ↔ letter = .char '/' := by
    rintro (c | bytes) <;> simp [Letter.shown]
  rw [toList_display, List.getLast?_map]
  cases p.letters.getLast? with
  | none => simp
  | some letter => simp [hshown]

/-- **What is below a directory is shown below what the directory is shown as.** -/
theorem display_join (p : SystemPath) (hname : FileTree.IsName name) :
    (p.join name).display = Path.join p.display name := by
  have hempty : p.letters.isEmpty = p.display.isEmpty := by
    rw [Bool.eq_iff_iff, List.isEmpty_iff, String.isEmpty_iff, ← String.toList_eq_nil_iff,
      toList_display, List.map_eq_nil_iff]
  have hslash : (p.letters.getLast? == some (.char '/')) =
      (p.display.toList.getLast? == some '/') := by
    rw [Bool.eq_iff_iff, beq_iff_eq, beq_iff_eq, getLast?_display]
  rw [Path.join, Path.isAbsolute_eq_false hname, join, hempty, hslash]
  simp only [Bool.false_eq_true, if_false]
  split_ifs
  · exact display_append p name
  · rw [String.append_assoc, ← display_append]
    simp [ofText]

end SystemPath

end Wording
