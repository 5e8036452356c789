import Wording.Proofs.Scan.Findings

/-!
# Findings stay in their lines

* `findingsFrom_append`, `findingsFrom_add` — the findings in lines are those in the first of them
  and those in the others, and a line further down has them further down.
* `Text.Returned text text'` — `text'` is the text with carriage returns put in before some of its
  line feeds, and perhaps one at its end.
* **`Text.Returned.lines_eq`** — the lines stay what they are, if none ended in a carriage return.
* **`SourceFile.findings_local_to_lines`** — so the findings in a text are those in its parts, and
  do not depend on how lines end.

A line is judged by its own characters alone: what is looked at beyond a place in it, for the form
of a sigma or for the end of a word, ends where the line ends.
-/

namespace Wording

/-! ## Lines further down -/

/-- The finding in a line so much further down. -/
def Finding.down (count : Nat) (f : Finding) : Finding :=
  { f with line := f.line + count }

/-- A line further down has its findings there. -/
theorem findingsInLine_add (rules : RuleSet) (path : String) (limit number count : Nat)
    (line : List Char) :
    findingsInLine rules path limit (number + count) line =
      (findingsInLine rules path limit number line).map (·.down count) := by
  rw [findingsInLine, findingsInLine, List.map_map]
  rfl

/-- Lines further down have their findings there. -/
theorem findingsFrom_add (rules : RuleSet) (path : String) (limit number count : Nat)
    (lines : List (List Char)) :
    findingsFrom rules path limit (number + count) lines =
      (findingsFrom rules path limit number lines).map (·.down count) := by
  induction lines generalizing number with
  | nil => rfl
  | cons line rest ih =>
      rw [findingsFrom, findingsFrom, List.map_append, findingsInLine_add, Nat.add_right_comm, ih]

/-- **The findings in lines are those in the first of them and those in the others**, which are
numbered from where the first end. -/
theorem findingsFrom_append (rules : RuleSet) (path : String) (limit number : Nat)
    (first others : List (List Char)) :
    findingsFrom rules path limit number (first ++ others) =
      findingsFrom rules path limit number first ++
        findingsFrom rules path limit (number + first.length) others := by
  induction first generalizing number with
  | nil => rfl
  | cons line rest ih =>
      have hnumber : number + (line :: rest).length = number + 1 + rest.length := by
        rw [List.length_cons]
        omega
      rw [List.cons_append, findingsFrom, findingsFrom, ih, List.append_assoc, hnumber]

namespace Text

/-- A line feed between two texts separates their lines. -/
theorem lines_append_cons (a b : List Char) : lines (a ++ '\n' :: b) = lines a ++ lines b := by
  rw [lines, pieces_append_cons, List.map_append, lines, lines]

/-! ## Carriage returns -/

/-- The second text is the first with a carriage return put in before some of its line feeds, and
perhaps one at its end. -/
inductive Returned : List Char → List Char → Prop where
  | nil : Returned [] []
  | atEnd : Returned [] ['\r']
  | keep (c : Char) {text text' : List Char} (hrest : Returned text text') :
      Returned (c :: text) (c :: text')
  | beforeFeed {text text' : List Char} (hrest : Returned text text') :
      Returned ('\n' :: text) ('\r' :: '\n' :: text')

/-- No carriage return stands right before a line feed or at the end of the text. -/
structure FreeOfReturns (text : List Char) : Prop where
  beforeFeed : ¬['\r', '\n'] <:+: text
  atEnd : ¬['\r'] <:+ text

/-- The second piece is the first, perhaps with a carriage return behind it. -/
def SameButReturn (piece piece' : List Char) : Prop :=
  piece' = piece ∨ piece' = piece ++ ['\r']

/-- What stands before a piece does not matter. -/
theorem SameButReturn.cons {piece piece' : List Char} (h : SameButReturn piece piece') (c : Char) :
    SameButReturn (c :: piece) (c :: piece') := by
  rcases h with rfl | rfl
  · exact .inl rfl
  · exact .inr rfl

/-- **Carriage returns that are put in end pieces of the text**, one at most for each piece. -/
theorem Returned.forall₂_pieces {text text' : List Char} (h : Returned text text') :
    List.Forall₂ SameButReturn (pieces '\n' text) (pieces '\n' text') := by
  induction h with
  | nil => exact .cons (.inl rfl) .nil
  | atEnd => exact .cons (.inr rfl) .nil
  | @keep c text text' _ ih =>
      by_cases hc : c = '\n'
      · rw [pieces, pieces, if_pos hc, if_pos hc]
        exact .cons (.inl rfl) ih
      · obtain ⟨piece, more, hpieces, hcons⟩ := pieces_cons_of_ne hc text
        obtain ⟨piece', more', hpieces', hcons'⟩ := pieces_cons_of_ne hc text'
        rw [hpieces, hpieces'] at ih
        obtain ⟨hpiece, hmore⟩ := List.forall₂_cons.mp ih
        rw [hcons, hcons']
        exact .cons (hpiece.cons c) hmore
  | beforeFeed _ ih => exact .cons (.inr rfl) ih

/-- What follows the first character is free of such carriage returns if all is. -/
theorem FreeOfReturns.tail {c : Char} {text : List Char} (h : FreeOfReturns (c :: text)) :
    FreeOfReturns text where
  beforeFeed hinfix := h.beforeFeed (List.infix_cons hinfix)
  atEnd hsuffix := h.atEnd (hsuffix.trans (List.suffix_cons c text))

/-- A carriage return that is a whole piece, but for what stands before it, stands right before a
line feed or at the end. -/
theorem FreeOfReturns.head_ne {c : Char} {text : List Char} {more : List (List Char)}
    (h : FreeOfReturns (c :: text)) (hpieces : pieces '\n' text = [] :: more) : c ≠ '\r' := by
  rintro rfl
  cases text with
  | nil => exact h.atEnd List.suffix_rfl
  | cons d rest =>
      by_cases hd : d = '\n'
      · subst hd
        exact h.beforeFeed ⟨[], rest, rfl⟩
      · obtain ⟨piece, more', -, hcons⟩ := pieces_cons_of_ne hd rest
        rw [hcons] at hpieces
        cases hpieces

/-- No piece ends in a carriage return if none stands before a line feed or at the end. -/
theorem FreeOfReturns.getLast?_ne {text piece : List Char} (h : FreeOfReturns text)
    (hpiece : piece ∈ pieces '\n' text) : piece.getLast? ≠ some '\r' := by
  induction text generalizing piece with
  | nil =>
      obtain rfl := List.mem_singleton.mp hpiece
      nofun
  | cons c text ih =>
      by_cases hc : c = '\n'
      · rw [pieces, if_pos hc, List.mem_cons] at hpiece
        rcases hpiece with rfl | hpiece
        · nofun
        · exact ih h.tail hpiece
      · obtain ⟨first, more, hpieces, hcons⟩ := pieces_cons_of_ne hc text
        rw [hcons, List.mem_cons] at hpiece
        rcases hpiece with rfl | hmore
        · cases first with
          | nil =>
              -- the piece is this character alone
              rw [List.getLast?_singleton]
              intro hreturn
              exact h.head_ne hpieces (Option.some.inj hreturn)
          | cons d first =>
              rw [List.getLast?_cons_cons]
              exact ih h.tail (hpieces ▸ List.mem_cons_self)
        · exact ih h.tail (hpieces ▸ List.mem_cons_of_mem _ hmore)

/-- A piece that does not end in a carriage return is a line as it is, and also with one behind
it. -/
theorem SameButReturn.dropCarriageReturn_eq {piece piece' : List Char}
    (h : SameButReturn piece piece') (hpiece : piece.getLast? ≠ some '\r') :
    dropCarriageReturn piece' = dropCarriageReturn piece := by
  rcases h with rfl | rfl
  · rfl
  · rw [dropCarriageReturn, dropCarriageReturn, if_neg hpiece, List.getLast?_concat, if_pos rfl,
      List.dropLast_concat]

/-- **Carriage returns that are put in change no line.** -/
theorem Returned.lines_eq {text text' : List Char} (h : Returned text text')
    (hfree : FreeOfReturns text) : lines text' = lines text := by
  have hpieces := h.forall₂_pieces
  have hnone : ∀ piece ∈ pieces '\n' text, piece.getLast? ≠ some '\r' :=
    fun _ hpiece => hfree.getLast?_ne hpiece
  rw [lines, lines]
  generalize pieces '\n' text = first at hpieces hnone
  generalize pieces '\n' text' = second at hpieces
  induction hpieces with
  | nil => rfl
  | cons hpiece _ ih =>
      obtain ⟨hlast, hmore⟩ := List.forall_mem_cons.mp hnone
      rw [List.map_cons, List.map_cons, hpiece.dropCarriageReturn_eq hlast, ih hmore]

end Text

/-- **Findings stay in their lines, however these end.**  The findings in two texts with a line feed
between them are those in the first and those in the second, further down by the lines of the first.
And carriage returns put in before line feeds, and at the end, change nothing in the findings, if
none stood there before. -/
theorem SourceFile.findings_local_to_lines (rules : RuleSet) (path : String) (limit : Nat) :
    (∀ a b : String, SourceFile.findings ⟨path, a ++ "\n" ++ b⟩ rules limit =
        SourceFile.findings ⟨path, a⟩ rules limit ++
          (SourceFile.findings ⟨path, b⟩ rules limit).map
            (Finding.down (1 + a.toList.count '\n'))) ∧
      ∀ c c' : String, Text.FreeOfReturns c.toList → Text.Returned c.toList c'.toList →
        SourceFile.findings ⟨path, c'⟩ rules limit = SourceFile.findings ⟨path, c⟩ rules limit := by
  constructor
  · intro a b
    have htext : (a ++ "\n" ++ b).toList = a.toList ++ '\n' :: b.toList := by simp
    have hnumber : 1 + (Text.lines a.toList).length = 1 + (1 + a.toList.count '\n') := by
      rw [Text.length_lines, Nat.add_comm 1 (a.toList.count '\n')]
    simp only [SourceFile.findings]
    rw [htext, Text.lines_append_cons, findingsFrom_append, hnumber, findingsFrom_add]
  · intro c c' hfree hreturned
    simp only [SourceFile.findings]
    rw [hreturned.lines_eq hfree]

/-- Three lines, the first two of them ended in either way, and a carriage return at the end. -/
theorem SourceFile.findings_local_to_lines_fix :
    Text.FreeOfReturns "Fix\nit\nfix".toList ∧
      Text.Returned "Fix\nit\nfix".toList "Fix\r\nit\nfix\r".toList ∧
      SourceFile.findings ⟨"a.js", "Fix\r\nit\nfix\r"⟩ ⟨[], [{ pattern := "fix" }]⟩ 100 =
        SourceFile.findings ⟨"a.js", "Fix\nit\nfix"⟩ ⟨[], [{ pattern := "fix" }]⟩ 100 := by
  have hfree : Text.FreeOfReturns "Fix\nit\nfix".toList :=
    ⟨by decide +kernel, by decide +kernel⟩
  have hreturned : Text.Returned "Fix\nit\nfix".toList "Fix\r\nit\nfix\r".toList :=
    .keep 'F' (.keep 'i' (.keep 'x' (.beforeFeed (.keep 'i' (.keep 't' (.keep '\n'
      (.keep 'f' (.keep 'i' (.keep 'x' .atEnd)))))))))
  obtain ⟨-, hsame⟩ := SourceFile.findings_local_to_lines ⟨[], [{ pattern := "fix" }]⟩ "a.js" 100
  exact ⟨hfree, hreturned, hsame _ _ hfree hreturned⟩

end Wording
