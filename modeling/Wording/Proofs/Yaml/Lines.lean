import Wording.Proofs.Yaml.Blocks
import Wording.Proofs.Yaml.Quoted

/-!
# Lines of nested blocks

What the lexer makes of the lines in which nested blocks are written.

* **`Yaml.Lexer.reaches_key`**, **`Yaml.Lexer.reaches_dash`**, **`Yaml.Lexer.reaches_quoted`** — a
  key with its colon, the dash of an item, and a quoted text that ends its line.
* `Yaml.Lexer.reaches_entryLine`, `Yaml.Lexer.reaches_keyLine`, `Yaml.Lexer.reaches_itemLine` — the
  lines that are made of them.
* `Yaml.Lexer.WritesItem`, **`Yaml.Lexer.reaches_items`** — the lines of an item, and a sequence of
  any length.

A key is known only when its colon is met.  So its token, and the one that opens its mapping, are
put in front of what has been read last.
-/

namespace Wording.Yaml.Lexer

variable {l : Lexer}

/-! ## Marks and words -/

/-- What means something, or is white space, where a token begins. -/
def marks : List Char :=
  ['%', '-', '.', '?', ':', ',', '[', ']', '\x7b', '\x7d', '#', '&', '*', '!', '|', '>', '\'', '"',
    '@', '`', ' ', '\t', '\n', '\u2028', '\u2029', '\uFEFF']

/-- A letter is no mark. -/
theorem not_mem_marks_of_isLower {c : Char} (hc : c.isLower = true) : c ∉ marks := by
  intro hmem
  have hmarks : marks.all (!·.isLower) = true := by decide
  have hmark := List.all_eq_true.mp hmarks c hmem
  simp [hc] at hmark

/-- A letter begins a token. -/
theorem beginsToken_of_isLower {c : Char} (hc : c.isLower = true) : BeginsToken c := by
  have hmarks := not_mem_marks_of_isLower hc
  simp only [marks, List.mem_cons, not_or] at hmarks
  exact ⟨by simp [isBreak, hmarks], by simp [hmarks]⟩

/-- A letter begins a plain scalar. -/
theorem next_letter {c : Char} (hc : c.isLower = true) (rest : List Char) :
    l.next c rest = l.plainScalar := by
  have hmarks := not_mem_marks_of_isLower hc
  simp only [marks, List.mem_cons, not_or] at hmarks
  simp [next, hmarks, atDocumentMarker, beginsPlain, isIndicator, isSpace]

/-- A double quote begins a quoted scalar. -/
theorem next_quote (rest : List Char) : l.next '"' rest = l.quotedScalar false := by
  simp [next, atDocumentMarker]

/-- A dash with a gap after it begins an item; at the beginning of a line it might mark a
document. -/
theorem next_dash (hcolumn : 0 < l.cursor.column) {rest : List Char} (hgap : atGap rest = true) :
    l.next '-' rest = l.blockEntry := by
  have hzero : l.cursor.column ≠ 0 := Nat.ne_of_gt hcolumn
  simp [next, hzero, hgap]

/-- A colon with a gap after it stands in front of a value. -/
theorem next_colon {rest : List Char} (hgap : atGap rest = true) : l.next ':' rest = l.value := by
  simp [next, atDocumentMarker, hgap]

/-! ## Dashes and keys -/

section Lines

variable {n line column : Nat} {rest : List Char} {read : List Token} {closed kept : List Nat}

/-- A dash, where no collection has to be closed. -/
theorem blockEntry_inBlock (hkept : ∀ k ∈ kept.head?, k ≤ column) :
    (inBlock ⟨'-' :: rest, line, column⟩ read kept true).blockEntry =
      .ok (inBlock ⟨rest, line, column + 1⟩
        (read ++ openings kept column .blockSequenceStart ++ [Token.blockEntry]) (opened kept column)
        true) := by
  let l := inBlock ⟨'-' :: rest, line, column⟩ read kept true
  have hopen := openBlock_eq (l := l) read [] rfl (by simp [l, inBlock])
    (by simp [l, inBlock]) hkept .blockSequenceStart
  show (l.openBlock column read.length .blockSequenceStart).dropCandidate >>= _ = _
  rw [hopen]
  simp [l, dropCandidate, inBlock, take, emit, Cursor.skip, bind, Except.bind, pure, Except.pure,
    Nat.add_assoc]

/-- **The dash of an item** closes what is further right, and it opens a sequence in its column if
none is open there. -/
theorem reaches_dash (n line column : Nat) (rest : List Char) (read : List Token)
    (closed kept : List Nat) (hcolumn : 0 < column + n) (hgap : atGap rest = true)
    (hclosed : ∀ k ∈ closed, column + n < k) (hkept : ∀ k ∈ kept.head?, k ≤ column + n) :
    Reaches
      (inBlock ⟨List.replicate n ' ' ++ '-' :: rest, line, column⟩ read (closed ++ kept) true)
      (inBlock ⟨rest, line, column + n + 1⟩
        (read ++ endings closed.length ++ openings kept (column + n) .blockSequenceStart ++
          [Token.blockEntry])
        (opened kept (column + n)) true) := by
  have hadvance := advance_spaces (c := '-') ⟨rfl, by decide⟩ n line column rest read closed kept
    true hclosed hkept
  have hnext := (next_dash (l := inBlock ⟨'-' :: rest, line, column + n⟩
    (read ++ endings closed.length) kept true) hcolumn hgap).trans (blockEntry_inBlock hkept)
  refine Reaches.of_next hadvance rfl hnext ?_
  simp [inBlock]
  omega

/-- A colon after what can be a key. -/
theorem value_inBlock {k : Candidate} (hk : k.token = read.length)
    (hkept : ∀ c ∈ kept.head?, c ≤ k.column) (t : Token) :
    value { inBlock ⟨':' :: rest, line, column⟩ (read ++ [t]) kept false with
        candidate := some k } =
      .ok (inBlock ⟨rest, line, column + 1⟩
        (read ++ openings kept k.column .blockMappingStart ++ [Token.key, t, .value])
        (opened kept k.column) false) := by
  let l : Lexer :=
    { inBlock ⟨':' :: rest, line, column⟩ (read ++ [t]) kept false with candidate := some k }
  have hinsert := insertIdx_reverse read [t] .key
  have hopen := openBlock_eq (l := l.insert read.length .key) read [.key, t]
    rfl hinsert (by simp [l, insert, inBlock]) hkept .blockMappingStart
  show Except.ok { ((l.insert k.token .key).openBlock k.column k.token .blockMappingStart).take
    .value 1 with candidate := none, keyAllowed := false } = _
  rw [hk, hopen]
  simp [l, insert, inBlock, take, emit, Cursor.skip, Nat.add_assoc]

/-- A colon right behind what can be a key. -/
theorem reaches_value {k : Candidate} (hk : k.token = read.length)
    (hfresh : k.isStale line column = false) (hcolumn : k.column ≤ column)
    (hkept : ∀ c ∈ kept.head?, c ≤ k.column) (hgap : atGap rest = true) (t : Token) :
    Reaches
      { inBlock ⟨':' :: rest, line, column⟩ (read ++ [t]) kept false with candidate := some k }
      (inBlock ⟨rest, line, column + 1⟩
        (read ++ openings kept k.column .blockMappingStart ++ [Token.key, t, .value])
        (opened kept k.column) false) := by
  let l : Lexer :=
    { inBlock ⟨':' :: rest, line, column⟩ (read ++ [t]) kept false with candidate := some k }
  have hcolon : passGap false false false line column (':' :: rest) =
      (⟨':' :: rest, line, column⟩, false) := passGap_token ⟨rfl, by decide⟩ ..
  have hcandidate : ∀ k ∈ l.candidate, k.isStale line column = true → k.required = false := by
    rintro _ ⟨⟩ hstale
    rw [hfresh] at hstale
    cases hstale
  have hfilter : l.candidate.filter (fun k => !k.isStale line column) = some k := by
    simp [l, Option.filter, hfresh]
  have hadvance : l.advance = .ok l := by
    rw [advance_eq (l := l) rfl hcolon hcandidate, hfilter]
    refine congrArg Except.ok (closeBlocks_eq_self ?_)
    intro c hc
    exact decide_eq_true (Nat.le_trans (hkept c hc) hcolumn)
  exact Reaches.of_next hadvance rfl ((next_colon hgap).trans (value_inBlock hk hkept t))
    (Nat.lt_succ_self _)

/-- A plain scalar goes up to the colon behind a word. -/
theorem readPlain_word {word : List Char} (hword : ∀ c ∈ word, c.isLower = true)
    (hgap : atGap rest = true) (indent : Nat) (acc : List Char) (line column : Nat) :
    readPlain false indent .none acc line column (word ++ ':' :: rest) =
      .ok (word.reverse ++ acc, false, ⟨':' :: rest, line, column + word.length⟩) := by
  induction word generalizing acc column with
  | nil =>
      rw [List.nil_append, readPlain]
      simp [isSpace, isBreak, Gap.none, Gap.isOpen, Gap.isBroken, hgap]
  | cons c word ih =>
      have hmarks := not_mem_marks_of_isLower (hword c List.mem_cons_self)
      simp only [marks, List.mem_cons, not_or] at hmarks
      have hspace : isSpace c = false := by simp [isSpace, hmarks]
      have hbreak : isBreak c = false := by simp [isBreak, hmarks]
      have hcolon : (c == ':') = false := by simp [hmarks]
      have hstep : readPlain false indent .none acc line column (c :: (word ++ ':' :: rest)) =
          readPlain false indent .none (c :: acc) line (column + 1) (word ++ ':' :: rest) := by
        rw [readPlain]
        simp [hspace, hbreak, hcolon, Gap.none, Gap.isOpen, Gap.text]
      rw [List.cons_append, hstep, ih fun d hd => hword d (List.mem_cons_of_mem _ hd)]
      simp [Nat.add_left_comm, Nat.add_comm]

/-- A short word in lower-case letters. -/
structure IsKey (word : List Char) : Prop where
  isLower : ∀ c ∈ word, c.isLower = true
  not_empty : word ≠ []
  length_le : word.length ≤ 1024

instance : DecidablePred IsKey := fun word =>
  decidable_of_iff (word.all Char.isLower = true ∧ word ≠ [] ∧ word.length ≤ 1024)
    ⟨fun h => ⟨List.all_eq_true.mp h.1, h.2.1, h.2.2⟩,
      fun h => ⟨List.all_eq_true.mpr h.isLower, h.not_empty, h.length_le⟩⟩

/-- What may turn out to be a key, where a key may begin. -/
theorem noteCandidate_inBlock (cursor : Cursor) (read : List Token) (columns : List Nat) :
    (inBlock cursor read columns true).noteCandidate = .ok { inBlock cursor read columns true with
      candidate := some
        ⟨cursor.line, cursor.column, read.length, columns.head? == some cursor.column⟩ } :=
  rfl

/-- A word, where no collection has to be closed, which may turn out to be a key. -/
theorem plainScalar_inBlock {word : List Char} (hword : IsKey word) (hgap : atGap rest = true) :
    (inBlock ⟨word ++ ':' :: rest, line, column⟩ read kept true).plainScalar =
      .ok { inBlock ⟨':' :: rest, line, column + word.length⟩
        (read ++ [Token.scalar (String.ofList word) true]) kept false with
        candidate := some ⟨line, column, read.length, kept.head? == some column⟩ } := by
  let l := inBlock ⟨word ++ ':' :: rest, line, column⟩ read kept true
  have hplain := readPlain_word hword.isLower hgap l.innerColumn [] line column
  rw [plainScalar, noteCandidate_inBlock]
  show (readPlain false l.innerColumn .none [] line column (word ++ ':' :: rest) >>= _) = _
  rw [hplain]
  simp [inBlock, emit, bind, Except.bind, pure, Except.pure]

/-- **A key and its colon** close what is further right, and they open a mapping in their column if
none is open there. -/
theorem reaches_key {word : List Char} (hword : IsKey word) (n line column : Nat)
    (rest : List Char) (read : List Token) (closed kept : List Nat) (hgap : atGap rest = true)
    (hclosed : ∀ k ∈ closed, column + n < k) (hkept : ∀ k ∈ kept.head?, k ≤ column + n) :
    Reaches
      (inBlock ⟨List.replicate n ' ' ++ (word ++ ':' :: rest), line, column⟩ read (closed ++ kept)
        true)
      (inBlock ⟨rest, line, column + n + word.length + 1⟩
        (read ++ endings closed.length ++ openings kept (column + n) .blockMappingStart ++
          [Token.key, .scalar (String.ofList word) true, .value])
        (opened kept (column + n)) false) := by
  let read' := read ++ endings closed.length
  let candidate : Candidate :=
    ⟨line, column + n, read'.length, kept.head? == some (column + n)⟩
  have hfresh : candidate.isStale line (column + n + word.length) = false := by
    have hlength := hword.length_le
    simp [Candidate.isStale, candidate]
    omega
  have hvalue := reaches_value (k := candidate) rfl hfresh (Nat.le_add_right ..)
    hkept hgap (.scalar (String.ofList word) true)
  refine Reaches.trans ?_ hvalue
  obtain ⟨c, more, rfl⟩ := List.exists_cons_of_ne_nil hword.not_empty
  have hc := hword.isLower c List.mem_cons_self
  have hadvance := advance_spaces (beginsToken_of_isLower hc) n line column (more ++ ':' :: rest)
    read closed kept true hclosed hkept
  refine Reaches.of_next hadvance rfl
    ((next_letter hc _).trans (plainScalar_inBlock hword hgap)) ?_
  simp [inBlock]
  omega

/-! ## Quoted texts -/

variable {text : List Char} {columns : List Nat}

/-- A quoted text in front of another. -/
theorem quoted_append (text rest : List Char) :
    quoted text ++ rest = '"' :: (escaped text ++ '"' :: rest) := by
  simp [quoted]

/-- A quoted text.  Where a key may begin, it may turn out to be one. -/
theorem quotedScalar_inBlock (htext : ∀ c ∈ text, isBreak c = false) (line column : Nat)
    (rest : List Char) (read : List Token) (columns : List Nat) (keyAllowed : Bool) :
    (inBlock ⟨quoted text ++ rest, line, column⟩ read columns keyAllowed).quotedScalar false =
      .ok { inBlock ⟨rest, line, column + (escaped text).length + 2⟩
        (read ++ [Token.scalar (String.ofList text) false]) columns false with
        candidate := if keyAllowed then
          some ⟨line, column, read.length, columns.head? == some column⟩ else none } := by
  have hread := readQuoted_escaped htext [] [] line (Nat.succ_pos column) rest
  rw [quoted_append]
  cases keyAllowed with
  | false =>
      show (readQuoted false .none [] line (column + 1) (escaped text ++ '"' :: rest) >>= _) = _
      rw [Gap.none, hread]
      simp [inBlock, emit, bind, Except.bind, pure, Except.pure]
      omega
  | true =>
      rw [quotedScalar, noteCandidate_inBlock]
      show (readQuoted false .none [] line (column + 1) (escaped text ++ '"' :: rest) >>= _) = _
      rw [Gap.none, hread]
      simp [inBlock, emit, bind, Except.bind, pure, Except.pure]
      omega

/-- **A quoted text up to the end of its line.**  It is further right than all collections, so it
need not be a key. -/
theorem reaches_quoted (htext : ∀ c ∈ text, isBreak c = false) (line : Nat) (rest : List Char)
    (read : List Token) (hcolumns : ∀ k ∈ columns.head?, k ≤ column) (keyAllowed : Bool) :
    Reaches
      (inBlock ⟨' ' :: (quoted text ++ '\n' :: rest), line, column⟩ read columns keyAllowed)
      (atLine rest (line + 1) (read ++ [Token.scalar (String.ofList text) false]) columns) := by
  have hadvance := advance_spaces (c := '"') ⟨rfl, by decide⟩ 1 line column
    (escaped text ++ '"' :: '\n' :: rest) read [] columns keyAllowed (by simp)
    fun k hk => Nat.le_succ_of_le (hcolumns k hk)
  have hnotRequired : (columns.head? == some (column + 1)) = false := by
    cases hhead : columns.head? with
    | none => rfl
    | some k =>
        have hk := hcolumns k hhead
        simp
        omega
  let k : Candidate := ⟨line, column + 1, read.length, columns.head? == some (column + 1)⟩
  have hcandidate : ∀ k' ∈ (if keyAllowed then some k else none),
      k'.line = line ∧ k'.required = false := by
    intro k' hk
    cases keyAllowed with
    | false => cases hk
    | true =>
        obtain rfl := Option.some.inj hk
        exact ⟨rfl, hnotRequired⟩
  refine Reaches.trans ?_ (reaches_lineEnd rest line (column + 1 + (escaped text).length + 2) _
    columns false hcandidate)
  have hscalar := quotedScalar_inBlock htext line (column + 1) ('\n' :: rest) read columns
    keyAllowed
  rw [quoted_append] at hscalar ⊢
  refine Reaches.of_next hadvance rfl ((next_quote _).trans ?_) ?_
  · simpa [endings] using hscalar
  · simp [inBlock]
    omega

/-! ## Lines -/

/-- A line with a key and a quoted text. -/
theorem reaches_entryLine {word : List Char} (hword : IsKey word)
    (htext : ∀ c ∈ text, isBreak c = false) (n line column : Nat) (rest : List Char)
    (read : List Token) (closed kept : List Nat) (hclosed : ∀ k ∈ closed, column + n < k)
    (hkept : ∀ k ∈ kept.head?, k ≤ column + n) :
    Reaches
      (inBlock ⟨List.replicate n ' ' ++ (word ++ ':' :: ' ' :: (quoted text ++ '\n' :: rest)), line,
        column⟩ read (closed ++ kept) true)
      (atLine rest (line + 1)
        (read ++ endings closed.length ++ openings kept (column + n) .blockMappingStart ++
          [Token.key, .scalar (String.ofList word) true, .value, .scalar (String.ofList text) false])
        (opened kept (column + n))) := by
  have hinner : ∀ k ∈ (opened kept (column + n)).head?, k ≤ column + n + word.length + 1 :=
    le_of_mem_head?_opened (by omega)
  have hkey := reaches_key hword n line column (' ' :: (quoted text ++ '\n' :: rest)) read closed
    kept rfl hclosed hkept
  have hvalue := reaches_quoted htext line rest (read ++ endings closed.length ++
    openings kept (column + n) .blockMappingStart ++
      [Token.key, .scalar (String.ofList word) true, .value]) hinner false
  rw [List.append_assoc _ [_, _, _]] at hvalue
  exact hkey.trans hvalue

/-- A line with nothing but a key. -/
theorem reaches_keyLine {word : List Char} (hword : IsKey word) (n line column : Nat)
    (rest : List Char) (read : List Token) (closed kept : List Nat)
    (hclosed : ∀ k ∈ closed, column + n < k) (hkept : ∀ k ∈ kept.head?, k ≤ column + n) :
    Reaches
      (inBlock ⟨List.replicate n ' ' ++ (word ++ ':' :: '\n' :: rest), line, column⟩ read
        (closed ++ kept) true)
      (atLine rest (line + 1)
        (read ++ endings closed.length ++ openings kept (column + n) .blockMappingStart ++
          [Token.key, .scalar (String.ofList word) true, .value])
        (opened kept (column + n))) := by
  have hkey := reaches_key hword n line column ('\n' :: rest) read closed kept rfl hclosed hkept
  have hnone : ∀ k ∈ (none : Option Candidate), k.line = line ∧ k.required = false := by simp
  exact hkey.trans (reaches_lineEnd rest line _ _ _ false hnone)

/-- A line with a dash and a quoted text. -/
theorem reaches_itemLine (htext : ∀ c ∈ text, isBreak c = false) (n line column : Nat)
    (rest : List Char) (read : List Token) (closed kept : List Nat) (hcolumn : 0 < column + n)
    (hclosed : ∀ k ∈ closed, column + n < k) (hkept : ∀ k ∈ kept.head?, k ≤ column + n) :
    Reaches
      (inBlock ⟨List.replicate n ' ' ++ '-' :: ' ' :: (quoted text ++ '\n' :: rest), line, column⟩
        read (closed ++ kept) true)
      (atLine rest (line + 1)
        (read ++ endings closed.length ++ openings kept (column + n) .blockSequenceStart ++
          [Token.blockEntry, .scalar (String.ofList text) false])
        (opened kept (column + n))) := by
  have hinner : ∀ k ∈ (opened kept (column + n)).head?, k ≤ column + n + 1 :=
    le_of_mem_head?_opened (Nat.le_succ _)
  have hdash := reaches_dash n line column (' ' :: (quoted text ++ '\n' :: rest)) read closed kept
    hcolumn rfl hclosed hkept
  have hvalue := reaches_quoted htext line rest (read ++ endings closed.length ++
    openings kept (column + n) .blockSequenceStart ++ [Token.blockEntry]) hinner true
  rw [List.append_assoc _ [_]] at hvalue
  exact hdash.trans hvalue

end Lines

/-! ## Items -/

/-- The lines write an item of a sequence in the column, after whatever is open: they give a dash
and the tokens, up to the ends of the collections at the columns `inner`, which show only behind
it. -/
def WritesItem (column : Nat) (inner : List Nat) (lines : List Char) (tokens : List Token) :
    Prop :=
  ∀ closed kept rest line read, (∀ k ∈ closed, column < k) → (∀ k ∈ kept.head?, k ≤ column) →
    ∃ line' read',
      Reaches (atLine (lines ++ rest) line read (closed ++ kept))
        (atLine rest line' read' (inner ++ opened kept column)) ∧
      read' ++ endings inner.length =
        read ++ endings closed.length ++ openings kept column .blockSequenceStart ++
          .blockEntry :: tokens

section Items

variable {α : Type} {column : Nat} {inner : List Nat} {lines : α → List Char}
  {tokens : α → List Token}

/-- Items behind an item. -/
theorem reaches_moreItems {xs : List α}
    (hitem : ∀ x ∈ xs, WritesItem column inner (lines x) (tokens x))
    (hinner : ∀ k ∈ inner, column < k) (outside : List Nat) (rest : List Char) (line : Nat)
    (read : List Token) :
    ∃ line' read',
      Reaches (atLine (xs.flatMap lines ++ rest) line read (inner ++ column :: outside))
        (atLine rest line' read' (inner ++ column :: outside)) ∧
      read' ++ endings inner.length =
        read ++ endings inner.length ++ xs.flatMap fun x => .blockEntry :: tokens x := by
  induction xs generalizing line read with
  | nil => exact ⟨line, read, .refl _, by simp⟩
  | cons x xs ih =>
      have hopened : opened (column :: outside) column = column :: outside := if_pos rfl
      have hopenings : openings (column :: outside) column .blockSequenceStart = [] := if_pos rfl
      obtain ⟨line₁, read₁, hreaches₁, hread₁⟩ := hitem x List.mem_cons_self inner
        (column :: outside) (xs.flatMap lines ++ rest) line read hinner (by simp)
      obtain ⟨line₂, read₂, hreaches₂, hread₂⟩ :=
        ih (fun y hy => hitem y (List.mem_cons_of_mem _ hy)) line₁ read₁
      rw [hopened] at hreaches₁
      rw [hopenings, List.append_nil] at hread₁
      refine ⟨line₂, read₂, ?_, ?_⟩
      · rw [List.flatMap_cons, List.append_assoc]
        exact hreaches₁.trans hreaches₂
      · rw [hread₂, hread₁, List.flatMap_cons, List.append_assoc]

/-- **A sequence**, further right than what is open.  Its end, too, shows only behind it. -/
theorem reaches_items {x : α} {xs : List α}
    (hitem : ∀ y ∈ x :: xs, WritesItem column inner (lines y) (tokens y))
    (hinner : ∀ k ∈ inner, column < k) (outside : List Nat)
    (houtside : ∀ k ∈ outside.head?, k < column) (rest : List Char) (line : Nat)
    (read : List Token) :
    ∃ line' read',
      Reaches (atLine ((x :: xs).flatMap lines ++ rest) line read outside)
        (atLine rest line' read' (inner ++ column :: outside)) ∧
      read' ++ endings (inner.length + 1) =
        read ++ .blockSequenceStart ::
          ((x :: xs).flatMap (fun x => .blockEntry :: tokens x) ++ [Token.blockEnd]) := by
  have hnew : outside.head? ≠ some column := by
    intro hhead
    exact Nat.lt_irrefl column (houtside column hhead)
  have hopened : opened outside column = column :: outside := if_neg hnew
  have hopenings : openings outside column .blockSequenceStart = [.blockSequenceStart] :=
    if_neg hnew
  obtain ⟨line₁, read₁, hreaches₁, hread₁⟩ := hitem x List.mem_cons_self [] outside
    (xs.flatMap lines ++ rest) line read (by simp) fun k hk => Nat.le_of_lt (houtside k hk)
  obtain ⟨line₂, read₂, hreaches₂, hread₂⟩ := reaches_moreItems
    (fun y hy => hitem y (List.mem_cons_of_mem _ hy)) hinner outside rest line₁ read₁
  rw [hopened] at hreaches₁
  rw [hopenings] at hread₁
  refine ⟨line₂, read₂, ?_, ?_⟩
  · rw [List.flatMap_cons, List.append_assoc]
    exact hreaches₁.trans hreaches₂
  · have hlast : endings (inner.length + 1) = endings inner.length ++ [Token.blockEnd] :=
      List.replicate_succ'
    rw [hlast, ← List.append_assoc, hread₂, hread₁]
    simp [endings]

end Items

end Wording.Yaml.Lexer
