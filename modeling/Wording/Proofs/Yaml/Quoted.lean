import Wording.Yaml.Scalar

/-!
# Texts in double quotes

* `Yaml.escaped`, `Yaml.quoted` — a text with a backslash before each quote and each backslash, and
  in quotes.
* `Yaml.IsOrdinary` — a character that is neither a control, a line break, a byte order mark nor the
  last code points of the first plane; a text of such characters is in one line.
* **`Yaml.readQuoted_escaped`** — the reader of quoted scalars takes such a text as it is.
* `Yaml.unifyBreaks_eq_self`, `Yaml.IsOrdinary.isReadable_eq` — so does what comes before the
  reader.

White space within a scalar is kept apart until it is known that no line break follows it.  So the
induction leaves free what has been read of such white space.
-/

namespace Wording.Yaml

/-! ## Writing -/

/-- The character as it stands between double quotes. -/
def escapedOne (c : Char) : List Char :=
  if c = '"' ∨ c = '\\' then ['\\', c] else [c]

/-- The text as it stands between double quotes. -/
def escaped (text : List Char) : List Char :=
  text.flatMap escapedOne

/-- The text in double quotes. -/
def quoted (text : List Char) : List Char :=
  '"' :: (escaped text ++ ['"'])

/-! ## Ordinary characters -/

/-- The character is no control character, no line break, no byte order mark, and none of the last
two code points of the first plane. -/
structure IsOrdinary (c : Char) : Prop where
  not_control : ¬(c.toNat < 0x20 ∨ 0x7F ≤ c.toNat ∧ c.toNat ≤ 0x9F)
  not_special : c ∉ ['\u0085', '\u2028', '\u2029', '\uFEFF', '\uFFFE', '\uFFFF']

instance : DecidablePred IsOrdinary := fun c =>
  decidable_of_iff (¬(c.toNat < 0x20 ∨ 0x7F ≤ c.toNat ∧ c.toNat ≤ 0x9F) ∧
      c ∉ ['\u0085', '\u2028', '\u2029', '\uFEFF', '\uFFFE', '\uFFFF'])
    ⟨fun h => ⟨h.1, h.2⟩, fun h => ⟨h.1, h.2⟩⟩

/-- Ordinary characters end no line. -/
theorem IsOrdinary.isBreak_eq {c : Char} (h : IsOrdinary c) : isBreak c = false := by
  have hfeed : c ≠ '\n' := by
    rintro rfl
    exact h.not_control (by decide)
  have hspecial := h.not_special
  simp only [List.mem_cons, not_or] at hspecial
  simp [isBreak, hfeed, hspecial]

/-- Ordinary characters may stand in a document. -/
theorem IsOrdinary.isReadable_eq {c : Char} (h : IsOrdinary c) : isReadable c = true := by
  have hcontrol := h.not_control
  have hspecial := h.not_special
  have hvalid := c.valid
  have hother : c.toNat ≠ 0xFFFE ∧ c.toNat ≠ 0xFFFF := by
    constructor
    · intro heq
      exact hspecial (by rw [← Char.ofNat_toNat c, heq]; decide)
    · intro heq
      exact hspecial (by rw [← Char.ofNat_toNat c, heq]; decide)
  have hpoint : c.toNat < 0xD800 ∨ 0xDFFF < c.toNat ∧ c.toNat < 0x110000 := hvalid
  simp only [isReadable, Bool.or_eq_true, Bool.and_eq_true, beq_iff_eq, decide_eq_true_eq]
  omega

/-- Quoting adds ordinary characters only. -/
theorem isOrdinary_of_mem_quoted {text : List Char} (htext : ∀ c ∈ text, IsOrdinary c) :
    ∀ c ∈ quoted text, IsOrdinary c := by
  have hquote : IsOrdinary '"' := by decide
  have hescaped : ∀ c ∈ escaped text, IsOrdinary c := by
    intro c hc
    obtain ⟨d, hd, hone⟩ := List.mem_flatMap.mp hc
    have hordinary := htext d hd
    unfold escapedOne at hone
    split at hone
    · rw [List.mem_cons, List.mem_singleton] at hone
      rcases hone with rfl | rfl
      · decide
      · exact hordinary
    · obtain rfl := List.mem_singleton.mp hone
      exact hordinary
  refine List.forall_mem_cons.mpr ⟨hquote, List.forall_mem_append.mpr ⟨hescaped, ?_⟩⟩
  exact List.forall_mem_singleton.mpr hquote

/-! ## Reading -/

section Reading

variable {spaces acc rest : List Char} {line column : Nat} {c : Char}

/-- The quote at the end. -/
theorem readQuoted_quote (hcolumn : 0 < column) :
    readQuoted false (.spaces spaces) acc line column ('"' :: rest) =
      .ok (spaces ++ acc, ⟨rest, line, column + 1⟩) := by
  have hzero : column ≠ 0 := Nat.ne_of_gt hcolumn
  rw [readQuoted]
  simp [hzero, isSpace, isBreak, Gap.text]

/-- A space within the text is kept apart. -/
theorem readQuoted_space (hcolumn : 0 < column) (hspace : isSpace c = true) :
    readQuoted false (.spaces spaces) acc line column (c :: rest) =
      readQuoted false (.spaces (c :: spaces)) acc line (column + 1) rest := by
  have hzero : column ≠ 0 := Nat.ne_of_gt hcolumn
  rw [readQuoted]
  simp [hzero, hspace, Gap.addSpace]

/-- A backslash and what it stands in front of, which it leaves as it is. -/
theorem readQuoted_escape (hcolumn : 0 < column) (hc : c = '"' ∨ c = '\\') :
    readQuoted false (.spaces spaces) acc line column ('\\' :: c :: rest) =
      readQuoted false (.spaces []) (c :: (spaces ++ acc)) line (column + 2) rest := by
  have hzero : column ≠ 0 := Nat.ne_of_gt hcolumn
  have hbreak : isBreak c = false := by rcases hc with rfl | rfl <;> rfl
  have hmeaning : escapedChar? c = some c := by rcases hc with rfl | rfl <;> rfl
  have hspace : isSpace '\\' = false := rfl
  have hbreak' : isBreak '\\' = false := rfl
  rw [readQuoted]
  simp [hzero, hspace, hbreak', hbreak, hmeaning, Gap.text, Gap.none]

/-- Any other character of a line. -/
theorem readQuoted_other (hcolumn : 0 < column) (hspace : isSpace c = false)
    (hbreak : isBreak c = false) (hc : ¬(c = '"' ∨ c = '\\')) :
    readQuoted false (.spaces spaces) acc line column (c :: rest) =
      readQuoted false (.spaces []) (c :: (spaces ++ acc)) line (column + 1) rest := by
  have hzero : column ≠ 0 := Nat.ne_of_gt hcolumn
  obtain ⟨hquote, hbackslash⟩ := not_or.mp hc
  rw [readQuoted]
  simp [hzero, hspace, hbreak, hquote, hbackslash, Gap.text, Gap.none]

end Reading

/-- **The reader of quoted scalars takes an escaped text as it is**, white space in front of it
included.  Only at the beginning of a line would it look for the mark of a document. -/
theorem readQuoted_escaped {text : List Char} (htext : ∀ c ∈ text, isBreak c = false)
    (spaces acc : List Char) (line : Nat) {column : Nat} (hcolumn : 0 < column)
    (rest : List Char) :
    readQuoted false (.spaces spaces) acc line column (escaped text ++ '"' :: rest) =
      .ok (text.reverse ++ (spaces ++ acc), ⟨rest, line, column + (escaped text).length + 1⟩) := by
  induction text generalizing spaces acc column with
  | nil => exact readQuoted_quote hcolumn
  | cons c text ih =>
      have hwhole : escaped (c :: text) = escapedOne c ++ escaped text := rfl
      have hrest := fun spaces acc {column} (hcolumn : 0 < column) =>
        ih (fun d hd => htext d (List.mem_cons_of_mem _ hd)) spaces acc hcolumn
      by_cases hescape : c = '"' ∨ c = '\\'
      · have hone : escapedOne c = ['\\', c] := if_pos hescape
        rw [hwhole, hone, List.append_assoc, List.cons_append, List.singleton_append,
          readQuoted_escape hcolumn hescape, hrest _ _ (by omega)]
        simp only [List.length_append, List.length_cons, List.length_nil, List.reverse_cons,
          List.append_assoc, List.singleton_append, List.nil_append]
        congr 3
        omega
      · have hone : escapedOne c = [c] := if_neg hescape
        rw [hwhole, hone, List.append_assoc, List.singleton_append]
        by_cases hspace : isSpace c = true
        · rw [readQuoted_space hcolumn hspace, hrest _ _ (by omega)]
          simp [Nat.add_assoc, Nat.add_comm]
        · rw [readQuoted_other hcolumn (by simpa using hspace) (htext c List.mem_cons_self) hescape,
            hrest _ _ (by omega)]
          simp [Nat.add_assoc, Nat.add_comm]

/-! ## Before reading -/

/-- A text without carriage returns and without U+0085 keeps its line breaks. -/
theorem unifyBreaks_eq_self {text : List Char} (h : ∀ c ∈ text, c ≠ '\r' ∧ c ≠ '\u0085') :
    unifyBreaks text = text := by
  induction text with
  | nil => rfl
  | cons c rest ih =>
      obtain ⟨hreturn, hnext⟩ := h c List.mem_cons_self
      have hrest := ih fun d hd => h d (List.mem_cons_of_mem _ hd)
      have hpair : ∀ more, c = '\r' → rest = '\n' :: more → False :=
        fun _ heq _ => hreturn heq
      rw [unifyBreaks, if_neg (not_or.mpr ⟨hreturn, hnext⟩), hrest]
      exact hpair

end Wording.Yaml
