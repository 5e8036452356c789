import Wording.Glob.Parser
import Wording.Proofs.FileTree.Names
import Wording.Proofs.Glob.Shape
import Wording.Proofs.Text.ByteEnds

/-!
# Patterns of literal text

* `Glob.Ordinary` — a text in which nothing is a wildcard, an escape or a slash.
* **`Glob.Pattern.exists_ofText?_ordinary`** — as a pattern it matches the path which is the text.
* **`Glob.Pattern.exists_ofText?_ending`** — behind `**/*` it matches the paths that end with it.
* `Glob.endsInParent_intercalate`, `Glob.isSuffix_intercalate_concat_iff` — how paths that are made
  of names end.
-/

namespace Wording.Glob

/-- The text has no characters in it that have a meaning of their own in a pattern, or that divide
paths. -/
def Ordinary (text : List Char) : Prop :=
  ∀ c ∈ text, c ∉ ['/', '*', '?', '[', ']', '\x7b', '\x7d', '\\']

instance : DecidablePred Ordinary := fun text => List.decidableBAll _ text

namespace Reading

variable {r : Reading} {c : Char} {text : List Char}

/-- A comma outside of groups, and any character with no meaning of its own, stands for itself. -/
theorem plain_eq_push (hgroups : r.groups = [])
    (hc : c ∉ ['/', '*', '?', '[', ']', '\x7b', '\x7d', '\\']) :
    r.plain c = .ok (r.push (.literal c)) := by
  unfold plain
  split
  all_goals try exact absurd hc (by decide)
  · rw [nextAlternative, hgroups]
  · rfl

/-- **A text with no such characters** is read as itself. -/
theorem readAll_ordinary (hclass : r.openClass = none) (hgroups : r.groups = [])
    (htext : Ordinary text) : r.readAll text = .ok ⟨r.current.reverse ++ text.map .literal⟩ := by
  induction text generalizing r with
  | nil =>
      unfold readAll
      simp [finish, hclass, hgroups]
  | cons c text ih =>
      obtain ⟨hc, htext⟩ := List.forall_mem_cons.mp htext
      have hrest := ih (r := (r.push (.literal c)).passed c) hclass hgroups htext
      unfold readAll
      rw [hclass]
      simp only
      split
      all_goals try exact absurd hc (by decide)
      rw [plain_eq_push hgroups hc]
      refine hrest.trans ?_
      simp [push, passed]

/-- A double star before a slash, with nothing before it, stands for leading directories. -/
theorem readAll_leadingDirs (hclass : r.openClass = none) (hcurrent : r.current = []) :
    r.readAll ('*' :: '*' :: '/' :: text) =
      ((r.push .leadingDirs).passed '/').readAll text := by
  conv => lhs; unfold readAll
  rw [hclass, hcurrent]
  rfl

/-- A star with no other behind it stands for any bytes. -/
theorem readAll_anyRun (hclass : r.openClass = none) (htext : text.head? ≠ some '*') :
    r.readAll ('*' :: text) = ((r.push .anyRun).passed '*').readAll text := by
  conv => lhs; unfold readAll
  rw [hclass]
  cases text with
  | nil => rfl
  | cons c rest =>
      have hc : c ≠ '*' := fun h => htext (congrArg some h)
      simp [hc]

end Reading

namespace Pattern

variable {text : String} {bs : List UInt8}

/-! ## A text -/

/-- A text with no such characters is a pattern of its characters. -/
theorem ofText?_ordinary (h : Ordinary text.toList) :
    ofText? text = .ok ⟨text.toList.map .literal⟩ :=
  Reading.readAll_ordinary rfl rfl h

/-- Characters that stand for themselves ask for the whole path. -/
theorem isPlain_literals (text : List Char) : isPlain (text.map .literal) = true := by
  unfold isPlain
  split
  · next h => cases text <;> cases h
  · next h => cases text <;> cases h
  · next h => cases text <;> cases h
  · simp [Token.isLiteral]

/-- Such a pattern takes `..` like any other path. -/
theorem isBaseName_or_isDotted_literals (text : List Char) :
    (isBaseName (text.map .literal) || isDotted (text.map .literal)) = false := by
  have hbase : isBaseName (text.map .literal) = false := by
    unfold isBaseName
    split
    · next h => cases text <;> cases h
    · rfl
  rw [hbase, isDotted, isPlain_literals]
  split <;> rfl

/-- The shape of a pattern is that of its tokens, unless it is a leading double star alone. -/
theorem shape_eq {tokens : List Token} (h : tokens ≠ [.leadingDirs]) :
    shape ⟨tokens⟩ = tokensShape tokens := by
  unfold shape
  split
  · next heq => exact absurd heq h
  · rfl

/-- **A pattern that is a text** matches the path which is the text, and no other. -/
theorem exists_ofText?_ordinary (h : Ordinary text.toList) :
    ∃ p, ofText? text = .ok p ∧
      ∀ path : String, p.isMatch path.toUTF8.toList = true ↔ path = text := by
  refine ⟨_, ofText?_ordinary h, fun path => ?_⟩
  have hne : text.toList.map Token.literal ≠ [.leadingDirs] := by
    simp [List.map_eq_singleton_iff]
  rw [isMatch, isBaseName_or_isDotted_literals, shape_eq hne, Bool.false_and, Bool.not_false,
    Bool.true_and, Shape.isMatch_iff, describes_literals_iff, Text.toList_toUTF8]
  constructor
  · intro heq
    exact String.toList_inj.mp (Text.flatMap_utf8EncodeChar_inj heq)
  · rintro rfl
    rfl

/-! ## The end of a text -/

/-- The tokens of a pattern for all paths that end with the text. -/
def endingTokens (text : List Char) : List Token :=
  .leadingDirs :: .anyRun :: text.map .literal

/-- A leading double star and a star before a text are read as such. -/
theorem ofText?_ending (h : Ordinary text.toList) :
    ofText? ("**/*" ++ text) = .ok ⟨endingTokens text.toList⟩ := by
  have hstars : ("**/*" ++ text).toList = '*' :: '*' :: '/' :: '*' :: text.toList := by
    rw [String.toList_append]
    rfl
  have hhead : text.toList.head? ≠ some '*' := by
    intro hhead
    exact absurd (h '*' (List.mem_of_head? hhead)) (by decide)
  rw [ofText?, hstars, Reading.readAll_leadingDirs rfl rfl, Reading.readAll_anyRun rfl hhead,
    Reading.readAll_ordinary rfl rfl h]
  rfl

/-- **A pattern for the end of a text** matches the paths that end with it, `..` apart. -/
theorem exists_ofText?_ending (h : Ordinary text.toList) :
    ∃ p, ofText? ("**/*" ++ text) = .ok p ∧
      ∀ path : String, endsInParent path.toUTF8.toList = false →
        (p.isMatch path.toUTF8.toList = true ↔ text.toList <:+ path.toList) := by
  refine ⟨_, ofText?_ending h, fun path hparent => ?_⟩
  rw [isMatch, hparent, Bool.and_false, Bool.not_false, Bool.true_and,
    shape_eq (by simp [endingTokens]), Shape.isMatch_iff, endingTokens,
    describes_tokensShape_cons_iff, Text.toList_toUTF8,
    ← Text.isSuffix_flatMap_iff]
  constructor
  · rintro ⟨xs, ys, hxs, -, hys⟩
    obtain ⟨run, bs, rfl, -, hbs⟩ := describes_tokensShape_cons_iff _ _ |>.mp hys
    obtain rfl := describes_literals_iff _ |>.mp hbs
    rw [← hxs, ← List.append_assoc]
    exact List.suffix_append _ _
  · rintro ⟨run, hrun⟩
    -- no directories lead, and the star takes all that is before the text
    refine ⟨[], _, rfl, .inl (.inl rfl), ?_⟩
    exact describes_tokensShape_cons_iff _ _ |>.mpr
      ⟨run, _, hrun, trivial, describes_literals_iff _ |>.mpr rfl⟩

end Pattern

/-! ## Paths of names -/

/-- No path that is made of names ends in `..`. -/
theorem endsInParent_intercalate {names : List String} (hne : names ≠ [])
    (hnames : ∀ name ∈ names, FileTree.IsName name) :
    endsInParent ("/".intercalate names).toUTF8.toList = false := by
  have hpieces := Path.pieces_intercalate hne hnames
  have hparent : ['.', '.'] ∉ names.map String.toList := by
    intro hmem
    obtain ⟨name, hname, heq⟩ := List.mem_map.mp hmem
    exact (hnames name hname).ne_dotdot (String.toList_inj.mp heq)
  have hdots : [0x2E, 0x2E] = ['.', '.'].flatMap String.utf8EncodeChar := by decide
  have hslash : [0x2F, 0x2E, 0x2E] = ['/', '.', '.'].flatMap String.utf8EncodeChar := by decide
  rw [← hpieces] at hparent
  rw [← Bool.not_eq_true, endsInParent, Bool.or_eq_true, beq_iff_eq, List.isSuffixOf_iff_suffix,
    Text.toList_toUTF8, hslash, hdots, Text.isSuffix_flatMap_iff]
  rintro (heq | ⟨before, hbefore⟩)
  · rw [Text.flatMap_utf8EncodeChar_inj heq] at hparent
    exact hparent (by decide)
  · rw [← hbefore, Text.pieces_append_cons] at hparent
    exact hparent (List.mem_append_right _ (by decide))

/-- A path ends with a text that has no slash in it if its last name does. -/
theorem isSuffix_intercalate_concat_iff {ending : List Char} (hslash : '/' ∉ ending)
    (names : List String) (last : String) :
    ending <:+ ("/".intercalate (names ++ [last])).toList ↔ ending <:+ last.toList := by
  by_cases hnil : names = []
  · rw [hnil, List.nil_append, String.intercalate_singleton]
  · have hpath : ("/".intercalate (names ++ [last])).toList =
        ("/".intercalate names).toList ++ '/' :: last.toList := by
      rw [String.intercalate_append_of_ne_nil hnil (List.cons_ne_nil _ _),
        String.intercalate_singleton, String.toList_append, String.toList_append, List.append_assoc]
      rfl
    have hlast : '/' :: last.toList <:+ ("/".intercalate names).toList ++ '/' :: last.toList :=
      List.suffix_append _ _
    rw [hpath]
    constructor
    · intro hending
      rcases List.suffix_or_suffix_of_suffix hending hlast with hshort | hlong
      · rcases List.suffix_cons_iff.mp hshort with rfl | hshort
        · exact absurd List.mem_cons_self hslash
        · exact hshort
      · exact absurd (hlong.subset List.mem_cons_self) hslash
    · intro hending
      exact (hending.trans (List.suffix_cons _ _)).trans hlast

end Wording.Glob
