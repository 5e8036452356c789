import Mathlib.Data.List.DropRight
import Mathlib.Data.List.Infix
import Mathlib.Tactic.Common
import Wording.Json.Printer
import Wording.Json.Reader

/-!
# Reading what was written

* `Json.readString_renderString` — a string is read back from what stands between its quotes.
* `Json.readMagnitude_toDigits` — so is an unsigned integer, if no more of a number follows it.
* `Json.readValue_render` — so is each value, in any layout and whatever follows it.
* **`Json.ofText?_compact`**, **`Json.ofText?_pretty`** — a text that a value is written as is read
  as this value.

The induction is on the value, with its items and fields.  What follows the value and the fuel are
left free; no step is made without a character read, so twice the length of the text is fuel enough.
-/

namespace Wording.Json

/-! ## White space -/

/-- Skipping white space twice is skipping it once. -/
theorem skipSpace_skipSpace (text : List Char) : skipSpace (skipSpace text) = skipSpace text :=
  List.dropWhile_idempotent isSpace text

/-- Nothing is skipped in front of another character. -/
theorem skipSpace_cons {c : Char} (hc : isSpace c = false) (text : List Char) :
    skipSpace (c :: text) = c :: text :=
  List.dropWhile_cons_of_neg (by simp [hc])

/-- The line break in front of an item is skipped. -/
theorem skipSpace_lineBreak (level : Option Nat) (text : List Char) :
    skipSpace (lineBreak level ++ text) = skipSpace text := by
  refine List.dropWhile_append_of_pos fun c hc => ?_
  cases level with
  | none => cases hc
  | some level =>
      rcases List.mem_cons.mp hc with rfl | hc
      · rfl
      · obtain ⟨-, rfl⟩ := List.mem_replicate.mp hc
        rfl

/-- A value is read from the next token on. -/
theorem readValue_skipSpace (fuel : Nat) (text : List Char) :
    readValue fuel (skipSpace text) = readValue fuel text := by
  cases fuel with
  | zero => rfl
  | succ fuel => rw [readValue, readValue, skipSpace_skipSpace]

/-- A value is read behind a line break as without it. -/
theorem readValue_lineBreak (level : Option Nat) (fuel : Nat) (text : List Char) :
    readValue fuel (lineBreak level ++ text) = readValue fuel text := by
  rw [← readValue_skipSpace, skipSpace_lineBreak, readValue_skipSpace]

/-- Items are read from the next token on. -/
theorem readItems_skipSpace (fuel : Nat) (text : List Char) :
    readItems fuel (skipSpace text) = readItems fuel text := by
  cases fuel with
  | zero => rfl
  | succ fuel => rw [readItems, readItems, readValue_skipSpace]

/-- Fields are read from the next token on. -/
theorem readFields_skipSpace (fuel : Nat) (text : List Char) :
    readFields fuel (skipSpace text) = readFields fuel text := by
  cases fuel with
  | zero => rfl
  | succ fuel => rw [readFields, readFields, skipSpace_skipSpace]

/-! ## Strings -/

/-- A control character is read from its four hexadecimal digits. -/
theorem codeUnit?_twoHexDigits {n : Nat} (h : n < 0x20) :
    codeUnit? '0' '0' (Nat.digitChar (n / 16)) (Nat.digitChar (n % 16)) = some n := by
  have hall : ∀ n < 0x20,
      codeUnit? '0' '0' (Nat.digitChar (n / 16)) (Nat.digitChar (n % 16)) = some n := by
    decide +kernel
  exact hall n h

/-- **A character is read from what is written for it.** -/
theorem readString_escapeChar (text : List Char) (c : Char) (rest : List Char) :
    readString ⟨some text, none⟩ (escapeChar c ++ rest) =
      readString ⟨some (c :: text), none⟩ rest := by
  unfold escapeChar
  split_ifs with hquote hslash hb hf hn hr ht hlow
  · subst hquote
    rfl
  · subst hslash
    rfl
  · subst hb
    rfl
  · subst hf
    rfl
  · subst hn
    rfl
  · subst hr
    rfl
  · subst ht
    rfl
  · have hunit : (⟨some text, none⟩ : Partial).addUnit c.toNat = ⟨some (c :: text), none⟩ := by
      have hhigh : ¬(0xD800 ≤ c.toNat ∧ c.toNat ≤ 0xDBFF) := by omega
      have hsecond : ¬(0xDC00 ≤ c.toNat ∧ c.toNat ≤ 0xDFFF) := by omega
      simp [Partial.addUnit, hhigh, hsecond, Partial.add]
    simp only [twoHexDigits, List.cons_append, List.nil_append, readString,
      codeUnit?_twoHexDigits hlow, hunit]
  · rw [List.cons_append, List.nil_append, readString]
    · rw [if_neg (not_or.mpr ⟨hslash, hlow⟩)]
      rfl
    · exact hquote
    · rintro a b c' d rest' rfl
      exact absurd rfl hslash
    · rintro c' rest' rfl
      exact absurd rfl hslash

/-- **A string is read back** from what is written behind its opening quote. -/
theorem readString_renderString (s : String) (rest : List Char) :
    readString {} (s.toList.flatMap escapeChar ++ '"' :: rest) = some (some s, rest) := by
  have hchars : ∀ chars text : List Char,
      readString ⟨some text, none⟩ (chars.flatMap escapeChar ++ '"' :: rest) =
        some (some (String.ofList (text.reverse ++ chars)), rest) := by
    intro chars
    induction chars with
    | nil =>
        intro text
        rw [List.append_nil]
        rfl
    | cons c chars ih =>
        intro text
        rw [List.flatMap_cons, List.append_assoc, readString_escapeChar, ih, List.reverse_cons,
          List.append_assoc]
        rfl
  have hall := hchars s.toList []
  rwa [List.reverse_nil, List.nil_append, String.ofList_toList] at hall

/-! ## Numbers -/

/-- What follows is no more of a number. -/
def EndsNumber (rest : List Char) : Prop :=
  ∀ c, rest.head? = some c → c.isDigit = false ∧ c ≠ '.' ∧ c ≠ 'e' ∧ c ≠ 'E'

/-- A number ends at the end of the text. -/
theorem endsNumber_nil : EndsNumber [] := nofun

/-- A number ends in front of a character that is not one of its own. -/
theorem endsNumber_cons {c : Char} (hc : c.isDigit = false ∧ c ≠ '.' ∧ c ≠ 'e' ∧ c ≠ 'E')
    (rest : List Char) : EndsNumber (c :: rest) := by
  rintro d hd
  obtain rfl := Option.some.inj hd
  exact hc

/-- A number ends in front of a bracket or brace that closes what it is in, on the same line or on
the next. -/
theorem endsNumber_lineBreak (level : Option Nat) {c : Char}
    (hc : c.isDigit = false ∧ c ≠ '.' ∧ c ≠ 'e' ∧ c ≠ 'E') (rest : List Char) :
    EndsNumber (lineBreak level ++ c :: rest) := by
  cases level with
  | none => exact endsNumber_cons hc rest
  | some level => exact endsNumber_cons (by decide) _

/-- Digits in front of what is no more of a number are split off. -/
theorem digits?_append {digits rest : List Char} (hne : digits ≠ [])
    (hdigits : ∀ c ∈ digits, c.isDigit = true) (hrest : EndsNumber rest) :
    digits? (digits ++ rest) = some (digits, rest) := by
  have hdrop : rest.dropWhile Char.isDigit = rest := by
    cases rest with
    | nil => rfl
    | cons c rest => exact List.dropWhile_cons_of_neg (by simp [(hrest c rfl).1])
  have htake : rest.takeWhile Char.isDigit = [] := by
    cases rest with
    | nil => rfl
    | cons c rest => exact List.takeWhile_cons_of_neg (by simp [(hrest c rfl).1])
  have hspan : (digits ++ rest).span Char.isDigit = (digits, rest) := by
    rw [List.span_eq_takeWhile_dropWhile, List.takeWhile_append_of_pos hdigits,
      List.dropWhile_append_of_pos hdigits, htake, hdrop, List.append_nil]
  obtain ⟨c, more, rfl⟩ := List.exists_cons_of_ne_nil hne
  rw [digits?, hspan]

/-- Only zero is written with a zero at the beginning. -/
theorem head?_toDigits_ne {n : Nat} (hn : n ≠ 0) : (Nat.toDigits 10 n).head? ≠ some '0' := by
  induction n using Nat.strongRecOn with
  | _ n ih =>
      by_cases hlt : n < 10
      · rw [Nat.toDigits_of_lt_base hlt, List.head?_cons]
        intro h
        exact hn (Nat.digitChar_eq_zero.mp (Option.some.inj h))
      · rw [Nat.toDigits_of_base_le (by decide) (by omega),
          List.head?_append_of_ne_nil _ Nat.toDigits_ne_nil]
        exact ih (n / 10) (by omega) (by omega)

/-- The digits of a number are split off. -/
theorem integer?_toDigits (n : Nat) {rest : List Char} (hrest : EndsNumber rest) :
    integer? (Nat.toDigits 10 n ++ rest) = some (Nat.toDigits 10 n, rest) := by
  have hdigits : digits? (Nat.toDigits 10 n ++ rest) = some (Nat.toDigits 10 n, rest) :=
    digits?_append Nat.toDigits_ne_nil
      (fun c hc => Nat.isDigit_of_mem_toDigits (by decide) (by decide) hc) hrest
  rw [integer?, hdigits]
  by_cases hn : n = 0
  · subst hn
    rfl
  · simp [head?_toDigits_ne hn]

/-- No fraction and no exponent follow a number that ends. -/
theorem afterExponent?_afterFraction? {rest : List Char} (hrest : EndsNumber rest) :
    (afterFraction? rest).bind afterExponent? = some rest := by
  cases rest with
  | nil => rfl
  | cons c rest =>
      obtain ⟨-, hdot, hsmall, hcapital⟩ := hrest c rfl
      have hfraction : afterFraction? (c :: rest) = some (c :: rest) := by
        rw [afterFraction?]
        rintro text heq
        exact hdot (List.cons.inj heq).1
      simp [hfraction, afterExponent?, hsmall, hcapital]

/-- The number that the digits of a number write is this number. -/
theorem ofDigits_toDigits (n : Nat) : ofDigits (Nat.toDigits 10 n) = n := by
  have hfold : ∀ digits : List Char, ofDigits digits = Nat.ofDigitChars 10 digits 0 := by
    intro digits
    rw [Nat.ofDigitChars_eq_foldl, ofDigits]
    simp only [Nat.mul_comm]
  rw [hfold, Nat.ofDigitChars_ten_toDigits]

/-- **An unsigned integer is read back** in front of what is no more of a number. -/
theorem readMagnitude_toDigits (n : Nat) {rest : List Char} (hrest : EndsNumber rest) :
    readMagnitude (Nat.toDigits 10 n ++ rest) = some (.number n, rest) := by
  have hafter := afterExponent?_afterFraction? hrest
  obtain ⟨after, hfraction, hexponent⟩ := Option.bind_eq_some_iff.mp hafter
  simp [readMagnitude, integer?_toDigits n hrest, hfraction, hexponent, ofDigits_toDigits]

/-! ## Values -/

/-- A digit is no white space. -/
theorem isSpace_of_isDigit {c : Char} (hc : c.isDigit = true) : isSpace c = false := by
  by_contra h
  simp only [isSpace, Bool.not_eq_false, Bool.or_eq_true, beq_iff_eq] at h
  rcases h with ((rfl | rfl) | rfl) | rfl <;> cases hc

/-- A number is written with a digit at the beginning. -/
theorem exists_toDigits_eq_cons (n : Nat) :
    ∃ c text, Nat.toDigits 10 n = c :: text ∧ c.isDigit = true := by
  obtain ⟨c, text, hdigits⟩ := List.exists_cons_of_ne_nil (@Nat.toDigits_ne_nil n 10)
  refine ⟨c, text, hdigits, ?_⟩
  have hmem : c ∈ Nat.toDigits 10 n := hdigits ▸ List.mem_cons_self
  exact Nat.isDigit_of_mem_toDigits (by decide) (by decide) hmem

/-- A value is written with a character at the beginning that is no white space and ends no
array. -/
theorem exists_render_eq_cons (level : Option Nat) (value : Json) :
    ∃ c text, render level value = c :: text ∧ isSpace c = false ∧ c ≠ ']' := by
  cases value with
  | null => exact ⟨_, _, rfl, by decide, by decide⟩
  | bool value => cases value <;> exact ⟨_, _, rfl, by decide, by decide⟩
  | number n =>
      obtain ⟨c, text, hdigits, hc⟩ := exists_toDigits_eq_cons n
      refine ⟨c, text, hdigits, isSpace_of_isDigit hc, ?_⟩
      rintro rfl
      cases hc
  | string s => exact ⟨_, _, rfl, by decide, by decide⟩
  | array items => cases items <;> exact ⟨_, _, rfl, by decide, by decide⟩
  | object fields => cases fields <;> exact ⟨_, _, rfl, by decide, by decide⟩
  | other => exact ⟨_, _, rfl, by decide, by decide⟩

/-- A text with a digit at the beginning is read as a number. -/
theorem readValue_of_isDigit {c : Char} (hc : c.isDigit = true) (fuel : Nat) (text : List Char) :
    readValue (fuel + 1) (c :: text) = readMagnitude (c :: text) := by
  have hne : ∀ d : Char, d.isDigit = false → c ≠ d := by
    rintro d hd rfl
    rw [hc] at hd
    cases hd
  rw [readValue, skipSpace_cons (isSpace_of_isDigit hc)]
  split
  · next heq => exact absurd (List.cons.inj heq).1 (hne _ (by decide))
  · next heq => exact absurd (List.cons.inj heq).1 (hne _ (by decide))
  · next heq => exact absurd (List.cons.inj heq).1 (hne _ (by decide))
  · next heq => exact absurd (List.cons.inj heq).1 (hne _ (by decide))
  · next heq => exact absurd (List.cons.inj heq).1 (hne _ (by decide))
  · next heq => exact absurd (List.cons.inj heq).1 (hne _ (by decide))
  · rw [readNumber]
    rintro more heq
    exact hne _ (by decide) (List.cons.inj heq).1

/-- What is none of the other values is read back as such. -/
theorem readValue_other (fuel : Nat) {rest : List Char} (hrest : EndsNumber rest) :
    readValue (fuel + 1) ('-' :: '0' :: rest) = some (.other, rest) := by
  have hzero : readMagnitude ('0' :: rest) = some (.number 0, rest) :=
    readMagnitude_toDigits 0 hrest
  have hread : readValue (fuel + 1) ('-' :: '0' :: rest) =
      (readMagnitude ('0' :: rest)).map fun r => (.other, r.2) := rfl
  rw [hread, hzero]
  rfl

/-- An array is read by reading its items, if it has some. -/
theorem readValue_array {fuel : Nat} {text rest : List Char} {items : List Json}
    (hstart : (skipSpace text).head? ≠ some ']')
    (hitems : readItems fuel text = some (items, rest)) :
    readValue (fuel + 1) ('[' :: text) = some (.array items, rest) := by
  simp only [readValue, skipSpace_cons (by decide : isSpace '[' = false)]
  split
  · next heq =>
    rw [heq] at hstart
    exact absurd rfl hstart
  · rw [readItems_skipSpace, hitems, Option.map_some]

/-- Elements that are read one by one are read together. -/
theorem mapM_map_eq_some {α β γ : Type} {f : α → β} {g : β → Option γ} {h : α → γ} {xs : List α}
    (hg : ∀ x ∈ xs, g (f x) = some (h x)) : (xs.map f).mapM g = some (xs.map h) := by
  induction xs with
  | nil => rfl
  | cons x xs ih =>
      rw [List.map_cons, List.mapM_cons, hg x List.mem_cons_self,
        ih fun y hy => hg y (List.mem_cons_of_mem _ hy)]
      rfl

/-- Fields whose names all have texts make an object. -/
theorem ofFields_some (fields : List (String × Json)) :
    ofFields (fields.map fun f => (some f.1, f.2)) = .object fields := by
  have hall : (fields.map fun f => (some f.1, f.2)).mapM
      (fun f : Option String × Json => f.1.map fun name => (name, f.2)) = some (fields.map id) :=
    mapM_map_eq_some fun _ _ => rfl
  rw [ofFields, hall, List.map_id]

/-- An object is read by reading its fields, if it has some. -/
theorem readValue_object {fuel : Nat} {text rest : List Char}
    {fields : List (String × Json)} (hstart : (skipSpace text).head? ≠ some '\x7d')
    (hfields : readFields fuel text = some (fields.map fun f => (some f.1, f.2), rest)) :
    readValue (fuel + 1) ('\x7b' :: text) = some (.object fields, rest) := by
  simp only [readValue, skipSpace_cons (by decide : isSpace '\x7b' = false)]
  split
  · next heq =>
    rw [heq] at hstart
    exact absurd rfl hstart
  · rw [readFields_skipSpace, hfields, Option.map_some, ofFields_some]

/-- Items do not begin with the bracket that closes an array. -/
theorem head?_renderItems (level : Option Nat) (item : Json) (items : List Json)
    (rest : List Char) :
    (skipSpace (renderItems level (item :: items) ++ rest)).head? ≠ some ']' := by
  obtain ⟨c, text, hrender, hspace, hbracket⟩ := exists_render_eq_cons level item
  have hstart : ∃ more, renderItems level (item :: items) = lineBreak level ++ c :: more := by
    cases items with
    | nil => exact ⟨text, by rw [renderItems, hrender]⟩
    | cons next items =>
        exact ⟨_, by rw [renderItems, hrender, List.cons_append]⟩
  obtain ⟨more, hmore⟩ := hstart
  rw [hmore, List.append_assoc, skipSpace_lineBreak, List.cons_append, skipSpace_cons hspace]
  exact fun h => hbracket (Option.some.inj h)

/-- Fields do not begin with the brace that closes an object. -/
theorem head?_renderFields (level : Option Nat) (field : String × Json)
    (fields : List (String × Json)) (rest : List Char) :
    (skipSpace (renderFields level (field :: fields) ++ rest)).head? ≠ some '\x7d' := by
  have hstart : ∃ more, renderFields level (field :: fields) = lineBreak level ++ '"' :: more := by
    cases fields with
    | nil => exact ⟨_, by rw [renderFields, renderString, List.cons_append]⟩
    | cons next fields => exact ⟨_, by rw [renderFields, renderString, List.cons_append]⟩
  obtain ⟨more, hmore⟩ := hstart
  rw [hmore, List.append_assoc, skipSpace_lineBreak, List.cons_append, skipSpace_cons (by decide)]
  exact fun h => absurd (Option.some.inj h) (by decide)

/-- The last item of an array has the closing bracket behind it. -/
theorem readItems_last {fuel : Nat} {text rest : List Char} {item : Json} (level : Option Nat)
    (hitem : readValue fuel text = some (item, lineBreak level ++ ']' :: rest)) :
    readItems (fuel + 1) text = some ([item], rest) := by
  rw [readItems, hitem]
  simp only [skipSpace_lineBreak, skipSpace_cons (by decide : isSpace ']' = false)]

/-- Any other item has a comma behind it, and then the items that follow. -/
theorem readItems_next {fuel : Nat} {text more rest : List Char} {item : Json} {items : List Json}
    (hitem : readValue fuel text = some (item, ',' :: more))
    (hitems : readItems fuel more = some (items, rest)) :
    readItems (fuel + 1) text = some (item :: items, rest) := by
  rw [readItems, hitem]
  simp only [skipSpace_cons (by decide : isSpace ',' = false), hitems, Option.map_some]

/-- Between a field's name and its value there is a colon, and perhaps space. -/
theorem exists_colon_eq (level : Option Nat) (fuel : Nat) (text : List Char) :
    ∃ blanks, colon level = ':' :: blanks ∧
      readValue fuel (blanks ++ text) = readValue fuel text := by
  cases level with
  | none => exact ⟨[], rfl, rfl⟩
  | some level =>
      refine ⟨[' '], rfl, ?_⟩
      have hskip : skipSpace (' ' :: text) = skipSpace text := rfl
      rw [List.singleton_append, ← readValue_skipSpace, hskip, readValue_skipSpace]

/-- The last field of an object has the closing brace behind its value. -/
theorem readFields_last {fuel : Nat} {text rest : List Char} {value : Json}
    (level outer : Option Nat) (name : String)
    (hvalue : readValue fuel text = some (value, lineBreak outer ++ '\x7d' :: rest)) :
    readFields (fuel + 1) (lineBreak level ++ (renderString name ++ (colon level ++ text))) =
      some ([(some name, value)], rest) := by
  obtain ⟨blanks, hcolon, hblanks⟩ := exists_colon_eq level fuel text
  rw [readFields, skipSpace_lineBreak, renderString, List.cons_append, List.append_assoc,
    List.singleton_append, skipSpace_cons (by decide : isSpace '"' = false)]
  simp only [readString_renderString, hcolon, List.cons_append,
    skipSpace_cons (by decide : isSpace ':' = false), hblanks, hvalue, skipSpace_lineBreak,
    skipSpace_cons (by decide : isSpace '\x7d' = false)]

/-- Any other field has a comma behind its value, and then the fields that follow. -/
theorem readFields_next {fuel : Nat} {text more rest : List Char} {value : Json}
    {fields : List (Option String × Json)} (level : Option Nat) (name : String)
    (hvalue : readValue fuel text = some (value, ',' :: more))
    (hfields : readFields fuel more = some (fields, rest)) :
    readFields (fuel + 1) (lineBreak level ++ (renderString name ++ (colon level ++ text))) =
      some ((some name, value) :: fields, rest) := by
  obtain ⟨blanks, hcolon, hblanks⟩ := exists_colon_eq level fuel text
  rw [readFields, skipSpace_lineBreak, renderString, List.cons_append, List.append_assoc,
    List.singleton_append, skipSpace_cons (by decide : isSpace '"' = false)]
  simp only [readString_renderString, hcolon, List.cons_append,
    skipSpace_cons (by decide : isSpace ':' = false), hblanks, hvalue,
    skipSpace_cons (by decide : isSpace ',' = false), hfields, Option.map_some]

mutual

/-- **A value is read back** in front of what is no more of a number. -/
theorem readValue_render (value : Json) (level : Option Nat) {fuel : Nat} {rest : List Char}
    (hfuel : 2 * (render level value).length ≤ fuel) (hrest : EndsNumber rest) :
    readValue fuel (render level value ++ rest) = some (value, rest) := by
  obtain ⟨c, text, hrender, -⟩ := exists_render_eq_cons level value
  obtain ⟨fuel, rfl⟩ : ∃ m, fuel = m + 1 := by
    refine ⟨fuel - 1, ?_⟩
    rw [hrender, List.length_cons] at hfuel
    omega
  match value with
  | .null => rfl
  | .bool true => rfl
  | .bool false => rfl
  | .number n =>
      obtain ⟨c, text, hdigits, hc⟩ := exists_toDigits_eq_cons n
      rw [render, ← readMagnitude_toDigits n hrest, hdigits, List.cons_append,
        readValue_of_isDigit hc]
  | .string s =>
      have hread : readValue (fuel + 1) (render level (.string s) ++ rest) =
          (readString {} (s.toList.flatMap escapeChar ++ ['"'] ++ rest)).map
            fun r => (ofText r.1, r.2) := rfl
      rw [hread, List.append_assoc]
      exact congrArg _ (readString_renderString s rest)
  | .array [] => rfl
  | .array (item :: items) =>
      have hlength : 2 * (renderItems (level.map (· + 1)) (item :: items)).length + 1 ≤ fuel := by
        rw [render, List.length_cons, List.length_append] at hfuel
        omega
      rw [render, List.cons_append, List.append_assoc, List.append_assoc]
      exact readValue_array (head?_renderItems _ item items _)
        (readItems_renderItems (item :: items) (List.cons_ne_nil _ _) _ level hlength)
  | .object [] => rfl
  | .object (field :: fields) =>
      have hlength :
          2 * (renderFields (level.map (· + 1)) (field :: fields)).length + 1 ≤ fuel := by
        rw [render, List.length_cons, List.length_append] at hfuel
        omega
      rw [render, List.cons_append, List.append_assoc, List.append_assoc]
      exact readValue_object (head?_renderFields _ field fields _)
        (readFields_renderFields (field :: fields) (List.cons_ne_nil _ _) _ level hlength)
  | .other => exact readValue_other fuel hrest

/-- Items are read back up to the end of their array. -/
theorem readItems_renderItems (items : List Json) (hne : items ≠ []) (level outer : Option Nat)
    {fuel : Nat} {rest : List Char} (hfuel : 2 * (renderItems level items).length + 1 ≤ fuel) :
    readItems fuel (renderItems level items ++ (lineBreak outer ++ ']' :: rest)) =
      some (items, rest) := by
  obtain ⟨fuel, rfl⟩ : ∃ m, fuel = m + 1 := ⟨fuel - 1, by omega⟩
  match items with
  | [] => exact absurd rfl hne
  | [item] =>
      rw [renderItems, List.length_append] at hfuel
      rw [renderItems, List.append_assoc]
      refine readItems_last outer ?_
      rw [readValue_lineBreak]
      exact readValue_render item level (by omega) (endsNumber_lineBreak outer (by decide) rest)
  | item :: next :: items =>
      simp only [renderItems, List.length_append, List.length_cons] at hfuel
      simp only [renderItems, List.append_assoc, List.cons_append]
      refine readItems_next ?_
        (readItems_renderItems (next :: items) (List.cons_ne_nil _ _) level outer (by omega))
      rw [readValue_lineBreak]
      exact readValue_render item level (by omega) (endsNumber_cons (by decide) _)

/-- Fields are read back up to the end of their object. -/
theorem readFields_renderFields (fields : List (String × Json)) (hne : fields ≠ [])
    (level outer : Option Nat) {fuel : Nat} {rest : List Char}
    (hfuel : 2 * (renderFields level fields).length + 1 ≤ fuel) :
    readFields fuel (renderFields level fields ++ (lineBreak outer ++ '\x7d' :: rest)) =
      some (fields.map fun f => (some f.1, f.2), rest) := by
  obtain ⟨fuel, rfl⟩ : ∃ m, fuel = m + 1 := ⟨fuel - 1, by omega⟩
  match fields with
  | [] => exact absurd rfl hne
  | [(name, value)] =>
      simp only [renderFields, List.length_append] at hfuel
      simp only [renderFields, List.append_assoc]
      exact readFields_last level outer name (readValue_render value level (by omega)
        (endsNumber_lineBreak outer (by decide) rest))
  | (name, value) :: next :: fields =>
      simp only [renderFields, List.length_append, List.length_cons] at hfuel
      simp only [renderFields, List.append_assoc, List.cons_append]
      exact readFields_next level name
        (readValue_render value level (by omega) (endsNumber_cons (by decide) _))
        (readFields_renderFields (next :: fields) (List.cons_ne_nil _ _) level outer (by omega))

end

/-! ## Texts -/

/-- A text that a value is written as, with white space behind it, is read as this value. -/
theorem ofText?_render (level : Option Nat) (value : Json) {blanks : List Char}
    (hblanks : EndsNumber blanks) (hskip : skipSpace blanks = []) :
    ofText? (String.ofList (render level value ++ blanks)) = some value := by
  have hread := readValue_render value level
    (by simp only [List.length_append]; omega :
      _ ≤ 2 * (render level value ++ blanks).length + 2) hblanks
  simp only [ofText?, String.toList_ofList, hread, hskip]
  rfl

/-- **A value written on one line is read back.** -/
theorem ofText?_compact (value : Json) : ofText? (compact value) = some value := by
  rw [compact, ← List.append_nil (render none value)]
  exact ofText?_render none value endsNumber_nil rfl

/-- **A value that is laid out is read back.** -/
theorem ofText?_pretty (value : Json) : ofText? (pretty value) = some value :=
  ofText?_render (some 0) value (endsNumber_cons (by decide) []) rfl

end Wording.Json
