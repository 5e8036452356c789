import Wording.Proofs.Report.TextLines

/-!
# Colours only decorate

* `Text.withoutCodes` — a text without its codes, deleted in one pass from left to right.
* `Text.IsCode`, `Text.withoutCodes_code` — what a code is, and that each is deleted.
* **`Text.withoutCodes_append`** — two texts lose their codes apart from each other, if the second
  does not go on with what may be the beginning of a code.
* `TextReport.withoutCodes_paint` — a painted text is left with what it has without paint.
* **`TextReport.colour_only_decorates`** — so the report in colours and the report without them are
  the same when their codes are deleted.

The texts of a report are arbitrary, and may have codes in them, or the beginnings of codes.  A code
that is put in begins with an escape character, which belongs to no code that has begun before it,
and what comes behind it in the report is a blank, a line feed or the text itself.
-/

namespace Wording

namespace Text

/-! ## Codes -/

/-- The character with which a code begins. -/
def escape : Char := '\x1B'

/-- A digit or a semicolon. -/
def isParameter (c : Char) : Bool :=
  c.isDigit || c == ';'

/-- What is behind the character, if the text begins with it. -/
def behind? (c : Char) : List Char → Option (List Char)
  | d :: rest => if d = c then some rest else none
  | [] => none

/-- What is behind a code, of which the escape character has been read. -/
def behindCode? (text : List Char) : Option (List Char) :=
  (behind? '[' text).bind fun inside => behind? 'm' (inside.dropWhile isParameter)

theorem behind?_eq_some_iff {c : Char} {text rest : List Char} :
    behind? c text = some rest ↔ text = c :: rest := by
  cases text with
  | nil => simp [behind?]
  | cons d text =>
      by_cases hd : d = c
      · simp [behind?, hd]
      · simp [behind?, hd]

/-- What is behind a code is shorter. -/
theorem length_behindCode?_lt {text behind : List Char} (h : behindCode? text = some behind) :
    behind.length < text.length := by
  obtain ⟨inside, hinside, hbehind⟩ := Option.bind_eq_some_iff.mp h
  obtain rfl := behind?_eq_some_iff.mp hinside
  have hle := (List.dropWhile_suffix isParameter (l := inside)).length_le
  rw [behind?_eq_some_iff.mp hbehind] at hle
  simp only [List.length_cons] at hle ⊢
  omega

/-- The text without its codes, which are deleted in one pass from left to right. -/
def withoutCodes : List Char → List Char
  | [] => []
  | c :: rest =>
    if c = escape then
      match _h : behindCode? rest with
      | some behind => withoutCodes behind
      | none => c :: withoutCodes rest
    else c :: withoutCodes rest
termination_by text => text.length
decreasing_by
  · exact Nat.lt_succ_of_lt (length_behindCode?_lt _h)
  · exact Nat.lt_succ_self _
  · exact Nat.lt_succ_self _

@[simp]
theorem withoutCodes_nil : withoutCodes [] = [] := by
  rw [withoutCodes]

theorem withoutCodes_of_some {rest behind : List Char} (h : behindCode? rest = some behind) :
    withoutCodes (escape :: rest) = withoutCodes behind := by
  rw [withoutCodes, if_pos rfl]
  split <;> simp_all

theorem withoutCodes_of_none {rest : List Char} (h : behindCode? rest = none) :
    withoutCodes (escape :: rest) = escape :: withoutCodes rest := by
  rw [withoutCodes, if_pos rfl]
  split <;> simp_all

theorem withoutCodes_cons {c : Char} (hc : c ≠ escape) (rest : List Char) :
    withoutCodes (c :: rest) = c :: withoutCodes rest := by
  rw [withoutCodes, if_neg hc]

/-- A text without escape characters has no codes. -/
theorem withoutCodes_eq_self {text : List Char} (h : escape ∉ text) : withoutCodes text = text := by
  induction text with
  | nil => exact withoutCodes_nil
  | cons c rest ih =>
      rw [List.mem_cons, not_or] at h
      rw [withoutCodes_cons (Ne.symm h.1), ih h.2]

/-- The text is one code. -/
def IsCode (code : List Char) : Prop :=
  ∃ parameters, code = escape :: '[' :: (parameters ++ ['m']) ∧
    parameters.all isParameter = true

/-- **A code is deleted.** -/
theorem withoutCodes_code {code : List Char} (h : IsCode code) (rest : List Char) :
    withoutCodes (code ++ rest) = withoutCodes rest := by
  obtain ⟨parameters, rfl, hparameters⟩ := h
  have hbehind : behindCode? ('[' :: (parameters ++ 'm' :: rest)) = some rest := by
    refine Option.bind_eq_some_iff.mpr ⟨_, behind?_eq_some_iff.mpr rfl, ?_⟩
    rw [List.dropWhile_append_of_pos (List.all_eq_true.mp hparameters)]
    exact behind?_eq_some_iff.mpr rfl
  have htext : escape :: '[' :: (parameters ++ ['m']) ++ rest =
      escape :: '[' :: (parameters ++ 'm' :: rest) := by
    simp
  rw [htext, withoutCodes_of_some hbehind]

/-! ## Texts one after another -/

/-- A code that has begun does not go on with the text. -/
def Interrupts (text : List Char) : Prop :=
  ∀ c ∈ text.head?, c ≠ '[' ∧ c ≠ 'm' ∧ isParameter c = false

theorem behind?_append {c : Char} {rest : List Char} (h : rest.head? ≠ some c)
    (text : List Char) : behind? c (text ++ rest) = (behind? c text).map (· ++ rest) := by
  cases text with
  | nil =>
      cases rest with
      | nil => rfl
      | cons d rest => exact if_neg fun hd => h (congrArg some hd)
  | cons d text =>
      by_cases hd : d = c
      · simp [behind?, hd]
      · simp [behind?, hd]

/-- What interrupts codes stays behind those of a text before it. -/
theorem behindCode?_append {rest : List Char} (h : Interrupts rest) (text : List Char) :
    behindCode? (text ++ rest) = (behindCode? text).map (· ++ rest) := by
  have hbracket : rest.head? ≠ some '[' := fun hhead => (h _ hhead).1 rfl
  have hend : rest.head? ≠ some 'm' := fun hhead => (h _ hhead).2.1 rfl
  have hstop : rest.dropWhile isParameter = rest := by
    cases rest with
    | nil => rfl
    | cons c rest => exact List.dropWhile_cons_of_neg (by simp [(h c rfl).2.2])
  have hdrop : ∀ inside : List Char, (inside ++ rest).dropWhile isParameter =
      inside.dropWhile isParameter ++ rest := by
    intro inside
    rw [List.dropWhile_append]
    split_ifs with hempty
    · rw [hstop, List.isEmpty_iff.mp hempty, List.nil_append]
    · rfl
  unfold behindCode?
  rw [behind?_append hbracket]
  cases behind? '[' text with
  | none => rfl
  | some inside =>
      show behind? 'm' ((inside ++ rest).dropWhile isParameter) = _
      rw [hdrop, behind?_append hend]
      rfl

/-- **Texts lose their codes apart from each other**, if the second interrupts codes. -/
theorem withoutCodes_append {rest : List Char} (h : Interrupts rest) (text : List Char) :
    withoutCodes (text ++ rest) = withoutCodes text ++ withoutCodes rest := by
  fun_induction withoutCodes text with
  | case1 => rfl
  | case2 text behind hbehind ih =>
      have hmore : behindCode? (text ++ rest) = some (behind ++ rest) := by
        rw [behindCode?_append h, hbehind, Option.map_some]
      rw [List.cons_append, withoutCodes_of_some hmore, ih]
  | case3 text hnone ih =>
      have hmore : behindCode? (text ++ rest) = none := by
        rw [behindCode?_append h, hnone, Option.map_none]
      rw [List.cons_append, withoutCodes_of_none hmore, ih, List.cons_append]
  | case4 c text hc ih => rw [List.cons_append, withoutCodes_cons hc, ih, List.cons_append]

/-- A line loses its codes apart from what is behind it. -/
theorem withoutCodes_line (line rest : List Char) :
    withoutCodes (line ++ '\n' :: rest) = withoutCodes line ++ '\n' :: withoutCodes rest := by
  have hfeed : Interrupts ('\n' :: rest) := by
    intro c hc
    obtain rfl := Option.some.inj hc
    decide
  rw [withoutCodes_append hfeed, withoutCodes_cons (by decide)]

end Text

namespace TextReport

open Text

/-! ## Paint -/

/-- The codes of the colours are codes. -/
theorem isCode_code (colour : Colour) : IsCode colour.code := by
  cases colour with
  | boldYellow => exact ⟨['1', ';', '3', '3'], rfl, by decide⟩
  | magenta => exact ⟨['3', '5'], rfl, by decide⟩
  | red => exact ⟨['3', '1'], rfl, by decide⟩

/-- So is the code that ends them. -/
theorem isCode_resetCode : IsCode resetCode :=
  ⟨['0'], rfl, by decide⟩

/-- A colour is begun again only behind an escape character. -/
theorem resume_cons {c : Char} (hc : c ≠ escape) (code rest : List Char) :
    resume code (c :: rest) = c :: resume code rest := by
  rw [resume]
  intro _ heq
  exact absurd heq hc

/-- Nor is it behind one that does not begin the end of colouring. -/
theorem resume_escape {rest : List Char} (h : ∀ more, rest ≠ '[' :: '0' :: 'm' :: more)
    (code : List Char) : resume code (escape :: rest) = escape :: resume code rest := by
  rw [resume]
  intro more _ heq
  exact h more heq

/-- The codes in between do not change how a text begins. -/
theorem head?_resume (code text : List Char) : (resume code text).head? = text.head? := by
  unfold resume
  split <;> rfl

/-- The codes in between do not change how many parameters a text begins with. -/
theorem dropWhile_resume (code text : List Char) :
    (resume code text).dropWhile isParameter = resume code (text.dropWhile isParameter) := by
  induction text with
  | nil => rfl
  | cons c rest ih =>
      by_cases hc : isParameter c = true
      · have hescape : c ≠ escape := by
          rintro rfl
          revert hc
          decide
        rw [resume_cons hescape, List.dropWhile_cons_of_pos hc, List.dropWhile_cons_of_pos hc, ih]
      · rw [List.dropWhile_cons_of_neg hc]
        have hhead := head?_resume code (c :: rest)
        obtain ⟨more, hmore⟩ := List.head?_eq_some_iff.mp hhead
        rw [hmore, List.dropWhile_cons_of_neg hc]

theorem behind?_resume {c : Char} (hc : c ≠ escape) (code text : List Char) :
    behind? c (resume code text) = (behind? c text).map (resume code) := by
  by_cases hhead : text.head? = some c
  · obtain ⟨rest, rfl⟩ := List.head?_eq_some_iff.mp hhead
    rw [resume_cons hc]
    simp [behind?]
  · have hnone : ∀ {text : List Char}, text.head? ≠ some c → behind? c text = none := by
      intro text hhead
      rw [Option.eq_none_iff_forall_ne_some]
      intro rest hrest
      rw [behind?_eq_some_iff.mp hrest] at hhead
      exact hhead rfl
    rw [hnone hhead, hnone (by rwa [head?_resume])]
    rfl

/-- **Codes in between leave the codes of a text as they are.** -/
theorem behindCode?_resume (code text : List Char) :
    behindCode? (resume code text) = (behindCode? text).map (resume code) := by
  unfold behindCode?
  rw [behind?_resume (by decide)]
  cases behind? '[' text with
  | none => rfl
  | some inside =>
      show behind? 'm' ((resume code inside).dropWhile isParameter) = _
      rw [dropWhile_resume, behind?_resume (by decide)]
      rfl

/-- **A colour that is begun again leaves nothing behind** when the codes are deleted. -/
theorem withoutCodes_resume {code : List Char} (hcode : IsCode code) (text : List Char) :
    withoutCodes (resume code text) = withoutCodes text := by
  fun_induction withoutCodes text with
  | case1 => simp [resume]
  | case2 rest behind hbehind ih =>
      by_cases hreset : ∃ more, rest = '[' :: '0' :: 'm' :: more
      · -- behind an end of colouring the colour begins again
        obtain ⟨more, rfl⟩ := hreset
        obtain rfl : more = behind := Option.some.inj hbehind
        have hresume : resume code (escape :: '[' :: '0' :: 'm' :: more) =
            resetCode ++ (code ++ resume code more) := by
          rw [← List.append_assoc]
          rfl
        rw [hresume, withoutCodes_code isCode_resetCode, withoutCodes_code hcode, ih]
      · have hbehind' : behindCode? (resume code rest) = some (resume code behind) := by
          rw [behindCode?_resume, hbehind, Option.map_some]
        rw [resume_escape (not_exists.mp hreset), withoutCodes_of_some hbehind', ih]
  | case3 rest hnone ih =>
      have hreset : ∀ more, rest ≠ '[' :: '0' :: 'm' :: more := by
        rintro more rfl
        cases hnone
      have hnone' : behindCode? (resume code rest) = none := by
        rw [behindCode?_resume, hnone, Option.map_none]
      rw [resume_escape hreset, withoutCodes_of_none hnone', ih]
  | case4 c rest hc ih => rw [resume_cons hc, withoutCodes_cons hc, ih]

/-- **What is painted is left without paint** when the codes are deleted, in front of what interrupts
codes. -/
theorem withoutCodes_paint (coloured : Bool) (colour : Colour) (text : String) {rest : List Char}
    (h : Interrupts rest) :
    withoutCodes ((paint coloured colour text).toList ++ rest) =
      withoutCodes text.toList ++ withoutCodes rest := by
  cases coloured with
  | false => exact withoutCodes_append h text.toList
  | true =>
      have hreset : Interrupts (resetCode ++ rest) := by
        intro c hc
        obtain rfl := Option.some.inj hc
        decide
      have hpainted : (paint true colour text).toList ++ rest =
          colour.code ++ (resume colour.code text.toList ++ (resetCode ++ rest)) := by
        simp [paint]
      rw [hpainted, withoutCodes_code (isCode_code colour), withoutCodes_append hreset,
        withoutCodes_resume (isCode_code colour), withoutCodes_code isCode_resetCode]

/-! ## Reports -/

/-- An event is a painted text, its tag or all it says, and what is behind that up to the end of a
line. -/
theorem exists_event_eq (e : Event) :
    ∃ colour text behind, (∀ rest, Interrupts (behind ++ '\n' :: rest)) ∧ ∀ coloured,
      (event coloured e).toList = (paint coloured colour text).toList ++ (behind ++ ['\n']) := by
  cases e with
  | finding f =>
      let place := s!" {Path.fileName f.file}:{f.line} -> {message f}\n"
      let excerpt := s!"   Line: {f.excerpt}..."
      have hblank : ∀ rest, Interrupts ((place ++ excerpt).toList ++ '\n' :: rest) := by
        intro rest c hc
        have hplace : (place ++ excerpt).toList.head? = some ' ' := by simp [place, toString]
        rw [List.head?_append, hplace] at hc
        obtain rfl := Option.some.inj hc
        decide
      cases hkind : f.kind with
      | phrase =>
          refine ⟨.boldYellow, "[MATCH]", _, hblank, fun coloured => ?_⟩
          simp [event, finding, tag, hkind, place, excerpt, toString]
      | caution =>
          refine ⟨.magenta, "[CAUTION]", _, hblank, fun coloured => ?_⟩
          simp [event, finding, tag, hkind, place, excerpt, toString]
  | failure f =>
      refine ⟨.red, f.message, [], ?_, fun coloured => by simp [event, failure]⟩
      intro rest c hc
      obtain rfl := Option.some.inj hc
      decide

/-- **An event leaves the same in colours and without them** when the codes are deleted. -/
theorem withoutCodes_event (coloured : Bool) (e : Event) (rest : List Char) :
    withoutCodes ((event coloured e).toList ++ rest) =
      withoutCodes (event false e).toList ++ withoutCodes rest := by
  obtain ⟨colour, text, behind, hbehind, hevent⟩ := exists_event_eq e
  have heach : ∀ coloured rest, withoutCodes ((event coloured e).toList ++ rest) =
      withoutCodes text.toList ++ (withoutCodes behind ++ '\n' :: withoutCodes rest) := by
    intro coloured rest
    rw [hevent, List.append_assoc, List.append_assoc, List.singleton_append,
      withoutCodes_paint coloured colour text (hbehind rest), withoutCodes_line]
  have halone := heach false []
  rw [List.append_nil] at halone
  rw [heach, halone]
  simp

/-- All events leave the same in colours and without them. -/
theorem withoutCodes_events (es : List Event) :
    withoutCodes (events true es).toList = withoutCodes (events false es).toList := by
  have hcons : ∀ coloured e es,
      (events coloured (e :: es)).toList = (event coloured e).toList ++ (events coloured es).toList := by
    intro coloured e es
    rw [events, List.map_cons, String.join_cons, String.toList_append, events]
  induction es with
  | nil => rfl
  | cons e es ih =>
      rw [hcons, hcons, withoutCodes_event true, withoutCodes_event false, ih]

/-- The text of a report with its codes deleted. -/
def plain (text : String) : String :=
  String.ofList (withoutCodes text.toList)

/-- **Colours only decorate.**  When all codes are deleted, the report in colours is the report
without colours, whatever the texts of the events are.  If there is no escape character in them, it
is exactly the report without colours. -/
theorem colour_only_decorates (root : String) (es : List Event) :
    plain (report true root es) = plain (report false root es) ∧
      ((∀ text ∈ root :: es.flatMap Event.texts, escape ∉ text.toList) →
        plain (report true root es) = report false root es) := by
  have hbanner : (banner root).toList = (bannerLine root).toList ++ ['\n'] := by
    simp [banner, bannerLine, toString]
  have hsame : plain (report true root es) = plain (report false root es) := by
    have hreport : ∀ coloured, withoutCodes (report coloured root es).toList =
        withoutCodes (bannerLine root).toList ++ '\n' :: withoutCodes (events coloured es).toList := by
      intro coloured
      rw [report, String.toList_append, hbanner, List.append_assoc, List.singleton_append,
        withoutCodes_line]
    rw [plain, plain, hreport, hreport, withoutCodes_events]
  refine ⟨hsame, fun htexts => ?_⟩
  have hescape : escape ∉ (report false root es).toList := by
    rw [report_eq_lines]
    apply not_mem_ended (by decide)
    refine not_mem_lines (by decide) (htexts root List.mem_cons_self) fun e he text htext => ?_
    exact htexts text (List.mem_cons_of_mem _ (List.mem_flatMap.mpr ⟨e, he, htext⟩))
  rw [hsame, plain, withoutCodes_eq_self hescape, String.ofList_toList]

/-- A finding and a failure, without escape characters in their texts. -/
theorem colour_only_decorates_two_events :
    let es : List Event :=
      [.finding ⟨"src/a.js", 3, .phrase, "must", some "can", "You must"⟩,
        .failure ⟨"src/b.js", .notUtf8⟩]
    (∀ text ∈ "src" :: es.flatMap Event.texts, escape ∉ text.toList) ∧
      plain (report true "src" es) = report false "src" es := by
  intro es
  have htexts : ∀ text ∈ "src" :: es.flatMap Event.texts, escape ∉ text.toList := by
    have hall : (("src" :: es.flatMap Event.texts).all fun text =>
        decide (escape ∉ text.toList)) = true := by
      decide +kernel
    intro text htext
    exact of_decide_eq_true (List.all_eq_true.mp hall text htext)
  exact ⟨htexts, (colour_only_decorates "src" es).2 htexts⟩

end TextReport

end Wording
