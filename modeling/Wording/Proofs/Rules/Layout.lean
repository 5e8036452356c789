import Wording.Proofs.Yaml.Lines
import Wording.Proofs.Yaml.Tree
import Wording.RulesDocument

/-!
# The layout of rules documents

* `RulesDocument.layout` — a table as rules documents are laid out, with every text in double
  quotes.
* `RulesDocument.tree` — the entries of the tree that the layout writes.
* `RulesDocument.writesItem_phrase`, `RulesDocument.writesItem_caution` — the lines of a phrase and
  of a caution word are items of a sequence.
* `RulesDocument.reaches_section` — a key and the lines of its list, of any length.
* **`RulesDocument.tokens_layout`** — the lexer cuts the layout into the tokens of that tree.

Only ordinary characters are laid out: neither controls nor what would end a line.  Anything else
may stand in a text, in particular all that means something outside of quotes.
-/

namespace Wording

namespace RulesDocument

open Yaml

/-! ## Laying out -/

/-- A key and a text, up to the end of the line. -/
def entry (key text : String) : List Char :=
  key.toList ++ ':' :: ' ' :: (quoted text.toList ++ ['\n'])

/-- A key with nothing behind it. -/
def keyLine (key : String) : List Char :=
  key.toList ++ [':', '\n']

/-- The lines of a phrase. -/
def phraseLines (phrase : String × String) : List Char :=
  List.replicate 2 ' ' ++ '-' :: ' ' :: (entry "pattern" phrase.1 ++
    (List.replicate 4 ' ' ++ entry "suggestion" phrase.2))

/-- The line of a caution word. -/
def cautionLine (word : String) : List Char :=
  List.replicate 2 ' ' ++ '-' :: ' ' :: (quoted word.toList ++ ['\n'])

/-- The table with the name, the phrases and the caution words. -/
def layout (name : String) (phrases : List (String × String)) (cautions : List String) : String :=
  String.ofList (entry "version" supportedVersion ++ (entry "name" name ++
    (keyLine "phrases" ++ (phrases.flatMap phraseLines ++
      (keyLine "caution" ++ cautions.flatMap cautionLine)))))

example : layout "my-rules" [("Calm down", "Take a short pause")] ["Fix"] =
    "version: \"1\"\nname: \"my-rules\"\nphrases:\n  - pattern: \"Calm down\"\n" ++
      "    suggestion: \"Take a short pause\"\ncaution:\n  - \"Fix\"\n" := by
  decide

/-- A key that is written plain. -/
def keyNode (key : String) : Node :=
  .scalar key true none

/-- A text in quotes. -/
def textNode (text : String) : Node :=
  .scalar text false none

/-- A phrase. -/
def phraseNode (phrase : String × String) : Node :=
  .mapping [(keyNode "pattern", textNode phrase.1), (keyNode "suggestion", textNode phrase.2)]

/-- A list; for the empty one nothing is written. -/
def listNode : List Node → Node
  | [] => .empty
  | item :: items => .sequence (item :: items)

/-- The entries of the table. -/
def tree (name : String) (phrases : List (String × String)) (cautions : List String) :
    List (Node × Node) :=
  [(keyNode "version", textNode supportedVersion), (keyNode "name", textNode name),
    (keyNode "phrases", listNode (phrases.map phraseNode)),
    (keyNode "caution", listNode (cautions.map textNode))]

/-! ## From the layout to tokens -/

/-- The text has only ordinary characters. -/
def IsOrdinaryText (text : String) : Prop :=
  ∀ c ∈ text.toList, IsOrdinary c

instance : DecidablePred IsOrdinaryText := fun text =>
  List.decidableBAll IsOrdinary text.toList

/-- A text of ordinary characters is in one line. -/
theorem IsOrdinaryText.isBreak_eq {text : String} (h : IsOrdinaryText text) :
    ∀ c ∈ text.toList, isBreak c = false :=
  fun c hc => (h c hc).isBreak_eq

open Lexer

/-- A line with a key and a text. -/
theorem reaches_entry (key : String) {text : String} (hkey : IsKey key.toList)
    (htext : IsOrdinaryText text) (n line column : Nat) (rest : List Char) (read : List Token)
    (closed kept : List Nat) (hclosed : ∀ k ∈ closed, column + n < k)
    (hkept : ∀ k ∈ kept.head?, k ≤ column + n) :
    Reaches
      (inBlock ⟨List.replicate n ' ' ++ (entry key text ++ rest), line, column⟩ read
        (closed ++ kept) true)
      (atLine rest (line + 1)
        (read ++ endings closed.length ++ openings kept (column + n) .blockMappingStart ++
          [Token.key, .scalar key true, .value, .scalar text false])
        (opened kept (column + n))) := by
  have hline := reaches_entryLine hkey htext.isBreak_eq n line column rest read closed kept hclosed
    hkept
  rw [String.ofList_toList, String.ofList_toList] at hline
  simpa [entry] using hline

/-- The lines of a phrase are an item. -/
theorem writesItem_phrase {phrase : String × String} (hpattern : IsOrdinaryText phrase.1)
    (hsuggestion : IsOrdinaryText phrase.2) :
    WritesItem 2 [4] (phraseLines phrase) (phraseNode phrase).tokens := by
  intro closed kept rest line read hclosed hkept
  -- What is left of the text, and what has been read, after the dash and after the first line.
  let second := List.replicate 4 ' ' ++ (entry "suggestion" phrase.2 ++ rest)
  let first := List.replicate 1 ' ' ++ (entry "pattern" phrase.1 ++ second)
  let read₁ := read ++ endings closed.length ++ openings kept 2 .blockSequenceStart ++
    [Token.blockEntry]
  let read₂ := read₁ ++ endings 0 ++ [Token.blockMappingStart] ++
    [Token.key, .scalar "pattern" true, .value, .scalar phrase.1 false]
  have hhead := head?_opened kept 2
  have hnew : (opened kept 2).head? ≠ some 4 := by simp [hhead]
  have hopened : opened (opened kept 2) 4 = 4 :: opened kept 2 := if_neg hnew
  have hopenings : openings (opened kept 2) 4 .blockMappingStart = [.blockMappingStart] :=
    if_neg hnew
  have hopened' : opened (4 :: opened kept 2) 4 = 4 :: opened kept 2 := if_pos rfl
  have hopenings' : openings (4 :: opened kept 2) 4 .blockMappingStart = [] := if_pos rfl
  have hdash := reaches_dash 2 line 0 first read closed kept (by decide) rfl hclosed hkept
  have hfirst := reaches_entry "pattern" (by decide) hpattern 1 line 3 second read₁ []
    (opened kept 2) (by simp) (by simp [hhead])
  have hsecond := reaches_entry "suggestion" (by decide) hsuggestion 4 (line + 1) 0 rest read₂ []
    (4 :: opened kept 2) (by simp) (by simp)
  rw [Nat.zero_add] at hdash
  rw [List.nil_append, hopened, hopenings] at hfirst
  rw [List.nil_append, Nat.zero_add, hopened', hopenings'] at hsecond
  have htext : phraseLines phrase ++ rest = List.replicate 2 ' ' ++ '-' :: first := by
    simp [phraseLines, first, second]
  have htokens : (phraseNode phrase).tokens =
      [.blockMappingStart, .key, .scalar "pattern" true, .value, .scalar phrase.1 false, .key,
        .scalar "suggestion" true, .value, .scalar phrase.2 false, .blockEnd] := by
    simp [phraseNode, keyNode, textNode, Node.tokens, entriesTokens]
  rw [htext, htokens]
  exact ⟨_, _, hdash.trans (hfirst.trans hsecond), by simp [read₁, read₂, endings]⟩

/-- The line of a caution word is an item. -/
theorem writesItem_caution {word : String} (hword : IsOrdinaryText word) :
    WritesItem 2 [] (cautionLine word) (textNode word).tokens := by
  intro closed kept rest line read hclosed hkept
  have hline := reaches_itemLine hword.isBreak_eq 2 line 0 rest read closed kept (by decide) hclosed
    hkept
  have htext : cautionLine word ++ rest =
      List.replicate 2 ' ' ++ '-' :: ' ' :: (quoted word.toList ++ '\n' :: rest) := by
    simp [cautionLine]
  rw [String.ofList_toList] at hline
  rw [htext]
  exact ⟨_, _, hline, by simp [endings, textNode, Node.tokens]⟩

section Section

variable {α : Type} {lines : α → List Char} {node : α → Node} {inner closed : List Nat}
  {xs : List α}

/-- The lines of a list, below a key at the beginning of a line. -/
theorem reaches_list (hitem : ∀ x ∈ xs, WritesItem 2 inner (lines x) (node x).tokens)
    (hinner : ∀ k ∈ inner, 2 < k) (rest : List Char) (line : Nat) (read : List Token) :
    ∃ line' read' closed',
      Reaches (atLine (xs.flatMap lines ++ rest) line read [0])
        (atLine rest line' read' (closed' ++ [0])) ∧
      (∀ k ∈ closed', 0 < k) ∧
      read' ++ endings closed'.length = read ++ (listNode (xs.map node)).tokens := by
  cases xs with
  | nil =>
      have htokens : (listNode (([] : List α).map node)).tokens = [] := rfl
      exact ⟨line, read, [], .refl _, by simp, by rw [htokens]; rfl⟩
  | cons x xs =>
      obtain ⟨line', read', hreaches, hread⟩ := reaches_items hitem hinner [0] (by simp) rest line
        read
      refine ⟨line', read', inner ++ [2], ?_, ?_, ?_⟩
      · simpa using hreaches
      · intro k hk
        rcases List.mem_append.mp hk with hk | hk
        · exact Nat.lt_trans (by decide) (hinner k hk)
        · obtain rfl := List.mem_singleton.mp hk
          decide
      · rw [List.length_append, List.length_singleton, hread, List.map_cons, listNode, Node.tokens,
          itemsTokens_eq_flatMap, ← List.map_cons, List.flatMap_map]

/-- A key at the beginning of a line and the lines of its list. -/
theorem reaches_section (key : String) (hkey : IsKey key.toList)
    (hitem : ∀ x ∈ xs, WritesItem 2 inner (lines x) (node x).tokens) (hinner : ∀ k ∈ inner, 2 < k)
    (hclosed : ∀ k ∈ closed, 0 < k) (rest : List Char) (line : Nat) (read : List Token) :
    ∃ line' read' closed',
      Reaches (atLine (keyLine key ++ (xs.flatMap lines ++ rest)) line read (closed ++ [0]))
        (atLine rest line' read' (closed' ++ [0])) ∧
      (∀ k ∈ closed', 0 < k) ∧
      read' ++ endings closed'.length = read ++ endings closed.length ++
        [Token.key, .scalar key true, .value] ++ (listNode (xs.map node)).tokens := by
  have hline := reaches_keyLine hkey 0 line 0 (xs.flatMap lines ++ rest) read closed [0] hclosed
    (by simp)
  have hopened : opened [0] 0 = [0] := rfl
  have hopenings : openings [0] 0 .blockMappingStart = [] := rfl
  rw [Nat.add_zero, hopened, hopenings, List.append_nil, String.ofList_toList] at hline
  obtain ⟨line', read', closed', hreaches, hclosed', hread⟩ := reaches_list hitem hinner rest
    (line + 1) (read ++ endings closed.length ++ [Token.key, .scalar key true, .value])
  refine ⟨line', read', closed', ?_, hclosed', hread⟩
  rw [keyLine, List.append_assoc]
  exact hline.trans hreaches

end Section

/-! ## The characters of the layout -/

/-- A character of the layout is ordinary, or it ends a line. -/
def IsWritten (c : Char) : Prop :=
  IsOrdinary c ∨ c = '\n'

instance : DecidablePred IsWritten := fun c =>
  inferInstanceAs (Decidable (IsOrdinary c ∨ c = '\n'))

/-- All characters are ordinary, or they end a line. -/
def AreWritten (text : List Char) : Prop :=
  ∀ c ∈ text, IsWritten c

instance : DecidablePred AreWritten := fun text =>
  List.decidableBAll IsWritten text

theorem areWritten_cons {c : Char} {text : List Char} :
    AreWritten (c :: text) ↔ IsWritten c ∧ AreWritten text :=
  List.forall_mem_cons

theorem areWritten_append {text rest : List Char} :
    AreWritten (text ++ rest) ↔ AreWritten text ∧ AreWritten rest :=
  List.forall_mem_append

theorem areWritten_flatMap {α : Type} {lines : α → List Char} {xs : List α}
    (h : ∀ x ∈ xs, AreWritten (lines x)) : AreWritten (xs.flatMap lines) := by
  intro c hc
  obtain ⟨x, hx, hmem⟩ := List.mem_flatMap.mp hc
  exact h x hx c hmem

theorem areWritten_quoted {text : String} (htext : IsOrdinaryText text) :
    AreWritten (quoted text.toList) :=
  fun c hc => .inl (isOrdinary_of_mem_quoted htext c hc)

theorem areWritten_entry (key : String) {text : String} (hkey : AreWritten key.toList)
    (htext : IsOrdinaryText text) : AreWritten (entry key text) := by
  have hquoted := areWritten_quoted htext
  simp only [entry, areWritten_append, areWritten_cons]
  exact ⟨hkey, by decide, by decide, hquoted, by decide, by decide⟩

theorem areWritten_phraseLines {phrase : String × String} (hpattern : IsOrdinaryText phrase.1)
    (hsuggestion : IsOrdinaryText phrase.2) : AreWritten (phraseLines phrase) := by
  have hfirst := areWritten_entry "pattern" (by decide) hpattern
  have hsecond := areWritten_entry "suggestion" (by decide) hsuggestion
  simp only [phraseLines, areWritten_append, areWritten_cons]
  exact ⟨by decide, by decide, by decide, hfirst, by decide, hsecond⟩

theorem areWritten_cautionLine {word : String} (hword : IsOrdinaryText word) :
    AreWritten (cautionLine word) := by
  have hquoted := areWritten_quoted hword
  simp only [cautionLine, areWritten_append, areWritten_cons]
  exact ⟨by decide, by decide, by decide, hquoted, by decide, by decide⟩

/-- Nothing is changed or refused before such a text is cut into tokens. -/
theorem tokens_eq_readAll {text : List Char} (h : AreWritten text) :
    Token.ofText? text = readAll (text.length + 1) (atLine text 0 [] []) := by
  have hreadable : text.all isReadable = true := by
    rw [List.all_eq_true]
    intro c hc
    rcases h c hc with hordinary | rfl
    · exact hordinary.isReadable_eq
    · rfl
  have hsame : unifyBreaks text = text := by
    refine unifyBreaks_eq_self fun c hc => ?_
    have hreturn : ¬IsWritten '\r' := by decide
    have hnext : ¬IsWritten '\u0085' := by decide
    constructor
    · rintro rfl
      exact hreturn (h _ hc)
    · rintro rfl
      exact hnext (h _ hc)
  rw [Token.ofText?, if_pos hreadable, hsame]
  rfl

section Layout

variable {name : String} {phrases : List (String × String)} {cautions : List String}

theorem areWritten_layout (hname : IsOrdinaryText name)
    (hphrases : ∀ p ∈ phrases, IsOrdinaryText p.1 ∧ IsOrdinaryText p.2)
    (hcautions : ∀ w ∈ cautions, IsOrdinaryText w) :
    AreWritten (layout name phrases cautions).toList := by
  have hversion : IsOrdinaryText supportedVersion := by decide
  have hversionLine := areWritten_entry "version" (by decide) hversion
  have hnameLine := areWritten_entry "name" (by decide) hname
  have hphraseLines : AreWritten (phrases.flatMap phraseLines) := areWritten_flatMap fun p hp =>
    areWritten_phraseLines (hphrases p hp).1 (hphrases p hp).2
  have hcautionLines : AreWritten (cautions.flatMap cautionLine) := areWritten_flatMap fun w hw =>
    areWritten_cautionLine (hcautions w hw)
  simp only [layout, String.toList_ofList, areWritten_append]
  exact ⟨hversionLine, hnameLine, by decide, hphraseLines, by decide, hcautionLines⟩

/-- The first two lines of the layout. -/
theorem reaches_head (hname : IsOrdinaryText name) (rest : List Char) :
    Reaches (atLine (entry "version" supportedVersion ++ (entry "name" name ++ rest)) 0 [] [])
      (atLine rest 2 [.blockMappingStart, .key, .scalar "version" true, .value,
        .scalar supportedVersion false, .key, .scalar "name" true, .value, .scalar name false]
        [0]) := by
  have hversion : IsOrdinaryText supportedVersion := by decide
  have hversionLine := reaches_entry "version" (by decide) hversion 0 0 0
    (entry "name" name ++ rest) [] [] [] (by simp) (by simp)
  have hnameLine := reaches_entry "name" (by decide) hname 0 1 0 rest [.blockMappingStart,
    .key, .scalar "version" true, .value, .scalar supportedVersion false] [] [0] (by simp) (by simp)
  exact hversionLine.trans hnameLine

/-- **The lexer cuts the layout into the tokens of its tree.** -/
theorem tokens_layout (hname : IsOrdinaryText name)
    (hphrases : ∀ p ∈ phrases, IsOrdinaryText p.1 ∧ IsOrdinaryText p.2)
    (hcautions : ∀ w ∈ cautions, IsOrdinaryText w) :
    Token.ofText? (layout name phrases cautions).toList =
      .ok ((Node.mapping (tree name phrases cautions)).tokens ++ [Token.streamEnd]) := by
  let head : List Token := [.blockMappingStart, .key, .scalar "version" true, .value,
    .scalar supportedVersion false, .key, .scalar "name" true, .value, .scalar name false]
  have hhead := reaches_head hname (keyLine "phrases" ++ (phrases.flatMap phraseLines ++
    (keyLine "caution" ++ cautions.flatMap cautionLine)))
  have hphraseItem : ∀ p ∈ phrases, WritesItem 2 [4] (phraseLines p) (phraseNode p).tokens :=
    fun p hp => writesItem_phrase (hphrases p hp).1 (hphrases p hp).2
  have hcautionItem : ∀ w ∈ cautions, WritesItem 2 [] (cautionLine w) (textNode w).tokens :=
    fun w hw => writesItem_caution (hcautions w hw)
  have hclosed₀ : ∀ k ∈ ([] : List Nat), 0 < k := by simp
  obtain ⟨line₁, read₁, closed₁, hphraseSection, hclosed₁, hread₁⟩ := reaches_section "phrases"
    (by decide) hphraseItem (by simp) hclosed₀
    (keyLine "caution" ++ cautions.flatMap cautionLine) 2 head
  obtain ⟨line₂, read₂, closed₂, hcautionSection, hclosed₂, hread₂⟩ := reaches_section "caution"
    (by decide) hcautionItem (by simp) hclosed₁ [] line₁ read₁
  rw [List.append_nil] at hcautionSection
  have hall : Reaches (atLine (layout name phrases cautions).toList 0 [] [])
      (atLine [] line₂ read₂ (closed₂ ++ [0])) := by
    rw [layout, String.toList_ofList]
    exact hhead.trans (hphraseSection.trans hcautionSection)
  have hlast : endings (closed₂ ++ [0]).length = endings closed₂.length ++ [Token.blockEnd] := by
    rw [List.length_append]
    exact List.replicate_succ'
  have htokens : read₂ ++ endings (closed₂ ++ [0]).length =
      (Node.mapping (tree name phrases cautions)).tokens := by
    rw [hlast, ← List.append_assoc, hread₂, hread₁]
    simp [head, endings, tree, keyNode, textNode, Node.tokens, entriesTokens]
  rw [tokens_eq_readAll (areWritten_layout hname hphrases hcautions), ← htokens]
  exact readAll_atLine hall hclosed₂ (by simp)

end Layout

end RulesDocument

end Wording
