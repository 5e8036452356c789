import Wording.Yaml.Lexer

/-!
# The lexer outside of brackets

* `Yaml.Lexer.Reaches` — reading from one state comes to another, with a character at least for
  each token in between.
* `Yaml.Lexer.inBlock`, `Yaml.Lexer.atLine` — the states outside of brackets, and of these the ones
  at the beginning of a line.
* `Yaml.opened`, `Yaml.openings`, `Yaml.endings` — the columns when a collection begins, and the
  tokens that open it and that close others.
* **`Yaml.Lexer.advance_inBlock`** — going to the next token closes what is further right.
* **`Yaml.Lexer.reaches_lineEnd`** — of a line that is over nothing is left.
* **`Yaml.Lexer.openBlock_eq`** — what is met opens a collection in its column.
* `Yaml.Lexer.readAll_atLine` — what has been read when the text is over.

The tokens that open and close collections have no characters of their own.  They follow from the
column of what is met, so what is said about a state says which columns are open.  The innermost of
them come first: those to be closed, then those that are kept.
-/

namespace Wording.Yaml

/-! ## Openings and endings -/

/-- The columns of the open collections when one begins at the column, unless it is open. -/
def opened (columns : List Nat) (column : Nat) : List Nat :=
  if columns.head? = some column then columns else column :: columns

/-- The token that opens a collection at the column, unless it is open. -/
def openings (columns : List Nat) (column : Nat) (t : Token) : List Token :=
  if columns.head? = some column then [] else [t]

/-- The tokens that close so many collections. -/
def endings (count : Nat) : List Token :=
  List.replicate count .blockEnd

/-- What begins at the column is the innermost collection then. -/
theorem head?_opened (columns : List Nat) (column : Nat) :
    (opened columns column).head? = some column := by
  unfold opened
  split
  · assumption
  · rfl

/-- What begins at the column is further left than what comes behind it. -/
theorem le_of_mem_head?_opened {columns : List Nat} {column bound : Nat} (h : column ≤ bound) :
    ∀ k ∈ (opened columns column).head?, k ≤ bound := by
  intro k hk
  rw [head?_opened] at hk
  obtain rfl := Option.some.inj hk
  exact h

namespace Lexer

/-! ## Going from state to state -/

/-- Reading from the first state comes to the second, with a character at least for each token in
between. -/
def Reaches (l l' : Lexer) : Prop :=
  ∃ n, n + l'.cursor.rest.length ≤ l.cursor.rest.length ∧
    ∀ fuel, readAll (fuel + n) l = readAll fuel l'

variable {l l' l'' m : Lexer}

theorem Reaches.refl (l : Lexer) : Reaches l l :=
  ⟨0, by omega, fun _ => rfl⟩

theorem Reaches.trans (h : Reaches l l') (h' : Reaches l' l'') : Reaches l l'' := by
  obtain ⟨n, hlength, hread⟩ := h
  obtain ⟨n', hlength', hread'⟩ := h'
  refine ⟨n' + n, by omega, fun fuel => ?_⟩
  rw [← Nat.add_assoc, hread, hread']

/-- Nothing but what is in front of the next token tells the states apart. -/
theorem Reaches.of_advance_eq (h : l.advance = l'.advance)
    (hlength : l'.cursor.rest.length ≤ l.cursor.rest.length) : Reaches l l' := by
  refine ⟨0, by omega, fun fuel => ?_⟩
  cases fuel with
  | zero => rfl
  | succ fuel => rw [Nat.add_zero, readAll, readAll, h]

/-- One token. -/
theorem Reaches.of_next {c : Char} {rest : List Char} (hadvance : l.advance = .ok m)
    (hrest : m.cursor.rest = c :: rest) (hnext : m.next c rest = .ok l')
    (hlength : l'.cursor.rest.length < l.cursor.rest.length) : Reaches l l' := by
  refine ⟨1, by omega, fun fuel => ?_⟩
  rw [readAll, hadvance]
  simp only [hrest, hnext]

/-! ## States outside of brackets -/

/-- Outside of brackets, with the tokens read so far, the first one first. -/
def inBlock (cursor : Cursor) (read : List Token) (columns : List Nat) (keyAllowed : Bool) :
    Lexer :=
  { cursor, tokens := read.reverse, count := read.length, columns, keyAllowed }

/-- At the beginning of a line. -/
def atLine (text : List Char) (line : Nat) (read : List Token) (columns : List Nat) : Lexer :=
  inBlock ⟨text, line, 0⟩ read columns true

/-- A token begins with the character wherever it stands. -/
structure BeginsToken (c : Char) : Prop where
  not_break : isBreak c = false
  not_passed : c ∉ [' ', '\t', '\uFEFF', '#']

/-- Spaces are passed. -/
theorem passGap_spaces (inFlow keyAllowed : Bool) (line column n : Nat) (text : List Char) :
    passGap inFlow keyAllowed false line column (List.replicate n ' ' ++ text) =
      passGap inFlow keyAllowed false line (column + n) text := by
  induction n generalizing column with
  | zero => rfl
  | succ n ih =>
      rw [List.replicate_succ, List.cons_append, passGap]
      simp only [show isBreak ' ' = false from rfl, Bool.false_eq_true, if_false, decide_true,
        Bool.or_true, Bool.true_or, if_true]
      rw [ih, Nat.add_assoc, Nat.add_comm 1 n]

/-- A token is where the gap ends. -/
theorem passGap_token {c : Char} (hc : BeginsToken c) (inFlow keyAllowed : Bool)
    (line column : Nat) (rest : List Char) :
    passGap inFlow keyAllowed false line column (c :: rest) =
      (⟨c :: rest, line, column⟩, keyAllowed) := by
  have hpassed := hc.not_passed
  simp only [List.mem_cons, not_or] at hpassed
  rw [passGap]
  simp [hc.not_break, hpassed]

/-- A gap ends in its line or in a later one. -/
theorem le_line_passGap (inFlow keyAllowed inComment : Bool) (line column : Nat)
    (text : List Char) :
    line ≤ (passGap inFlow keyAllowed inComment line column text).1.line := by
  fun_induction passGap inFlow keyAllowed inComment line column text with
  | case1 => exact Nat.le_refl _
  | case2 keyAllowed inComment line column c rest hbreak ih => omega
  | case3 keyAllowed inComment line column c rest hbreak hpassed ih => exact ih
  | case4 keyAllowed inComment line column rest hbreak hpassed ih => exact ih
  | case5 => exact Nat.le_refl _

/-- The innermost collection is kept, and so are all around it. -/
theorem takeWhile_eq_nil_of_kept {keep : Nat → Bool} {columns : List Nat}
    (h : ∀ k ∈ columns.head?, keep k = true) : columns.takeWhile (fun k => !keep k) = [] := by
  cases columns with
  | nil => rfl
  | cons k outside => exact List.takeWhile_cons_of_neg (by simp [h k rfl])

/-- Nothing is closed, if the innermost collection is kept. -/
theorem closeBlocks_eq_self {keep : Nat → Bool} (h : ∀ k ∈ l.columns.head?, keep k = true) :
    l.closeBlocks keep = l := by
  unfold closeBlocks
  split
  · rfl
  · simp [takeWhile_eq_nil_of_kept h]

/-- The collections up to the first one that is kept are closed. -/
theorem closeBlocks_inBlock {cursor : Cursor} {read : List Token} {keyAllowed : Bool}
    {closed kept : List Nat} {keep : Nat → Bool} (hclosed : ∀ k ∈ closed, keep k = false)
    (hkept : ∀ k ∈ kept.head?, keep k = true) :
    (inBlock cursor read (closed ++ kept) keyAllowed).closeBlocks keep =
      inBlock cursor (read ++ endings closed.length) kept keyAllowed := by
  have hleft : ∀ k ∈ closed, (!keep k) = true := by
    intro k hk
    simp [hclosed k hk]
  have htaken : (closed ++ kept).takeWhile (fun k => !keep k) = closed := by
    rw [List.takeWhile_append_of_pos hleft, takeWhile_eq_nil_of_kept hkept, List.append_nil]
  have hflow : inFlow (inBlock cursor read (closed ++ kept) keyAllowed) = false := rfl
  unfold closeBlocks
  simp only [hflow, Bool.false_eq_true, if_false]
  simp [inBlock, htaken, endings, List.map_const']

/-- Going to the next token, outside of brackets. -/
theorem advance_eq {cursor : Cursor} {keyAllowed : Bool} (houter : l.outer = [])
    (hgap : passGap false l.keyAllowed false l.cursor.line l.cursor.column l.cursor.rest =
      (cursor, keyAllowed))
    (hcandidate : ∀ k ∈ l.candidate, k.isStale cursor.line cursor.column = true →
      k.required = false) :
    l.advance = .ok (closeBlocks { l with
      cursor
      keyAllowed
      candidate := l.candidate.filter fun k => !k.isStale cursor.line cursor.column }
        (· ≤ cursor.column)) := by
  have hflow : l.inFlow = false := by rw [inFlow, houter]; rfl
  have hrequired : ((l.candidate :: l.outer).any fun k =>
      k.any fun k => k.required && k.isStale cursor.line cursor.column) = false := by
    rw [houter]
    cases hk : l.candidate with
    | none => rfl
    | some k =>
        cases hstale : k.isStale cursor.line cursor.column with
        | false => simp [hstale]
        | true => simp [hcandidate k hk hstale]
  unfold advance
  rw [hflow, hgap]
  simp only [dropStale, hrequired, Bool.false_eq_true, if_false]
  simp [houter, bind, Except.bind, pure, Except.pure]

/-- Going to the next token closes what is further right. -/
theorem advance_inBlock {text : List Char} {line column : Nat} {cursor : Cursor}
    {keyAllowed keyAllowed' : Bool} {closed kept : List Nat}
    (hgap : passGap false keyAllowed false line column text = (cursor, keyAllowed'))
    (hclosed : ∀ k ∈ closed, cursor.column < k) (hkept : ∀ k ∈ kept.head?, k ≤ cursor.column)
    (read : List Token) :
    (inBlock ⟨text, line, column⟩ read (closed ++ kept) keyAllowed).advance =
      .ok (inBlock cursor (read ++ endings closed.length) kept keyAllowed') := by
  let l := inBlock ⟨text, line, column⟩ read (closed ++ kept) keyAllowed
  have hcandidate : ∀ k ∈ l.candidate,
      k.isStale cursor.line cursor.column = true → k.required = false := by
    intro k hk
    cases hk
  rw [advance_eq (l := l) rfl hgap hcandidate]
  refine congrArg Except.ok (closeBlocks_inBlock ?_ ?_)
  · intro k hk
    exact decide_eq_false (Nat.not_le_of_lt (hclosed k hk))
  · intro k hk
    exact decide_eq_true (hkept k hk)

/-- Going to a token behind spaces closes what is further right. -/
theorem advance_spaces {c : Char} (hc : BeginsToken c) (n line column : Nat) (rest : List Char)
    (read : List Token) (closed kept : List Nat) (keyAllowed : Bool)
    (hclosed : ∀ k ∈ closed, column + n < k)
    (hkept : ∀ k ∈ kept.head?, k ≤ column + n) :
    (inBlock ⟨List.replicate n ' ' ++ c :: rest, line, column⟩ read (closed ++ kept)
        keyAllowed).advance =
      .ok (inBlock ⟨c :: rest, line, column + n⟩ (read ++ endings closed.length) kept
        keyAllowed) := by
  have hgap : passGap false keyAllowed false line column (List.replicate n ' ' ++ c :: rest) =
      (⟨c :: rest, line, column + n⟩, keyAllowed) := by
    rw [passGap_spaces, passGap_token hc]
  exact advance_inBlock hgap hclosed hkept read

/-- A gap that ends the line leaves nothing of it behind, if what has been met in it last need not
be a key. -/
theorem reaches_lineEnd (rest : List Char) (line column : Nat) (read : List Token)
    (columns : List Nat) (keyAllowed : Bool) {candidate : Option Candidate}
    (hcandidate : ∀ k ∈ candidate, k.line = line ∧ k.required = false) :
    Reaches { inBlock ⟨'\n' :: rest, line, column⟩ read columns keyAllowed with candidate }
      (atLine rest (line + 1) read columns) := by
  let gap := passGap false true false (line + 1) 0 rest
  have hline : line + 1 ≤ gap.1.line := le_line_passGap ..
  have hgap : passGap false keyAllowed false line column ('\n' :: rest) = (gap.1, gap.2) := by
    rw [passGap]
    simp [isBreak, gap]
  have hdropped : candidate.filter (fun k => !k.isStale gap.1.line gap.1.column) = none := by
    cases hk : candidate with
    | none => rfl
    | some k =>
        have hbefore : k.line < gap.1.line := by
          have := (hcandidate k hk).1
          omega
        simp [Option.filter, Candidate.isStale, hbefore]
  refine Reaches.of_advance_eq ?_ (Nat.le_succ _)
  have hhere := advance_eq (l := { inBlock ⟨'\n' :: rest, line, column⟩ read columns keyAllowed with
    candidate }) rfl hgap fun k hk _ => (hcandidate k hk).2
  have hthere := advance_eq (l := atLine rest (line + 1) read columns) rfl
    (show _ = (gap.1, gap.2) from rfl) fun k hk _ => by cases hk
  rw [hhere, hthere]
  exact congrArg (fun candidate => Except.ok (closeBlocks
    { inBlock gap.1 read columns gap.2 with candidate } (· ≤ gap.1.column))) hdropped

/-! ## Opening collections -/

/-- A token that is put between others. -/
theorem insertIdx_length_append (before after : List Token) (t : Token) :
    (before ++ after).insertIdx before.length t = before ++ t :: after := by
  induction before with
  | nil => rfl
  | cons first before ih => exact congrArg (first :: ·) ih

/-- A token that is put in front of the last ones. -/
theorem insertIdx_reverse (read later : List Token) (t : Token) :
    (read ++ later).reverse.insertIdx ((read ++ later).length - read.length) t =
      (read ++ t :: later).reverse := by
  have hcount : (read ++ later).length - read.length = later.reverse.length := by simp
  rw [hcount, List.reverse_append, insertIdx_length_append]
  simp

/-- What is met at a column opens a collection there, if none is open, in front of the last
tokens. -/
theorem openBlock_eq (read later : List Token) {column : Nat} (houter : l.outer = [])
    (htokens : l.tokens = (read ++ later).reverse) (hcount : l.count = (read ++ later).length)
    (hcolumns : ∀ k ∈ l.columns.head?, k ≤ column) (t : Token) :
    l.openBlock column read.length t =
      { l with
        tokens := (read ++ openings l.columns column t ++ later).reverse
        count := (read ++ openings l.columns column t ++ later).length
        columns := opened l.columns column } := by
  have hflow : l.inFlow = false := by rw [inFlow, houter]; rfl
  by_cases hopen : l.columns.head? = some column
  · have hinner : ¬l.innerColumn ≤ column := by
      obtain ⟨outside, hcons⟩ := List.head?_eq_some_iff.mp hopen
      rw [innerColumn, hcons]
      exact Nat.not_succ_le_self column
    simp [openBlock, hinner, openings, opened, hopen, ← htokens, ← hcount]
  · have hinner : l.innerColumn ≤ column := by
      unfold innerColumn
      cases hcons : l.columns with
      | nil => exact Nat.zero_le _
      | cons k outside =>
          have hk : k ≤ column := hcolumns k (by rw [hcons]; rfl)
          have hdiff : k ≠ column := by
            rintro rfl
            exact hopen (by rw [hcons]; rfl)
          show k + 1 ≤ column
          omega
    have hinsert : l.tokens.insertIdx (l.count - read.length) t =
        (read ++ [t] ++ later).reverse := by
      rw [htokens, hcount, insertIdx_reverse, List.append_assoc, List.singleton_append]
    have hlonger : l.count + 1 = (read ++ [t] ++ later).length := by
      rw [hcount]
      simp only [List.length_append, List.length_singleton]
      omega
    have hopenings : openings l.columns column t = [t] := if_neg hopen
    have hopened : opened l.columns column = column :: l.columns := if_neg hopen
    rw [openBlock, if_pos (by simp [hflow, hinner]), insert, hinsert, hlonger, hopenings, hopened]

/-! ## The end of the text -/

/-- At the end of the text all collections are closed. -/
theorem readAll_atLine {text : List Char} {line : Nat} {read : List Token}
    {closed kept : List Nat} (h : Reaches (atLine text 0 [] []) (atLine [] line read
      (closed ++ kept))) (hclosed : ∀ k ∈ closed, 0 < k) (hkept : ∀ k ∈ kept.head?, k ≤ 0) :
    readAll (text.length + 1) (atLine text 0 [] []) =
      .ok (read ++ endings (closed ++ kept).length ++ [Token.streamEnd]) := by
  obtain ⟨n, hlength, hread⟩ := h
  have hfewer : n + 0 ≤ text.length := hlength
  obtain ⟨more, hfuel⟩ : ∃ more, text.length + 1 = more + 1 + n :=
    ⟨text.length - n, by omega⟩
  have hgap : passGap false true false line 0 [] = (⟨[], line, 0⟩, true) := rfl
  have hadvance := advance_inBlock hgap hclosed hkept read
  rw [hfuel, hread, readAll]
  unfold atLine
  rw [hadvance]
  have hrest : (inBlock ⟨[], line, 0⟩ (read ++ endings closed.length) (kept ++ [])
      true).closeBlocks (fun _ => false) =
        inBlock ⟨[], line, 0⟩ (read ++ endings closed.length ++ endings kept.length) [] true :=
    closeBlocks_inBlock (fun _ _ => rfl) (by simp)
  rw [List.append_nil] at hrest
  show ((closeBlocks _ fun _ => false).dropCandidate >>= _) = _
  rw [hrest]
  simp [inBlock, dropCandidate, endings, bind, Except.bind, pure, Except.pure]

end Lexer

end Wording.Yaml
