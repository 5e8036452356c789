import Wording.LoadedRules
import Wording.Proofs.Rules.Tables
import Wording.Proofs.Scan.Yield

/-!
# Where rules come from, and how loading them ends

* `FileTree.HoldsText` — a path leads to a regular file that has this text, or to a device that
  gives it.
* `LoadedRules.Chosen` — which origin the rules have; `LoadedRules.chosen_iff` says that it is the
  one that is chosen.
* `LoadedRules.EndsAs`, `LoadedRules.endsAs_iff` — how loading ends for a text: with the first of
  three faults, or with the rules of the text.
* `LoadedRules.LoadsAs`, `LoadedRules.loadsAs_iff` — how loading ends for an origin.
* **`LoadedRules.load_never_falls_back`** — rules come from one origin, loading ends as it must for
  that origin, and nothing else in the tree matters.

Both relations say what holds of the tree and of the text, each case with what rules out the cases
before it.  So they leave no choice, and a fault of the chosen file is never made up for by another.
-/

namespace Wording

/-! ## Files that paths lead to -/

namespace FileTree

/-- The path leads, through links if need be, to an entry that gives the UTF-8 form of the text: to
a regular file that has it, or to a device. -/
def HoldsText (t : FileTree) (cwd : Place) (path text : String) : Prop :=
  ∃ place e bytes, t.placeOf cwd true path = .ok place ∧ t.entry? place = some e ∧
    e.read = .ok bytes ∧ String.fromUTF8? bytes = some text

variable {t : FileTree} {cwd : Place} {path : String}

/-- A text is read where an entry gives it. -/
theorem readText_eq_ok_iff {text : String} :
    t.readText cwd path = .ok text ↔ t.HoldsText cwd path text := by
  have hholds : t.HoldsText cwd path text ↔
      ∃ bytes, t.readBytes cwd path = .ok bytes ∧ String.fromUTF8? bytes = some text := by
    unfold HoldsText
    simp only [readBytes_eq_ok_iff]
    constructor
    · rintro ⟨place, e, bytes, hplace, hentry, hread, htext⟩
      exact ⟨bytes, ⟨place, e, hplace, hentry, hread⟩, htext⟩
    · rintro ⟨bytes, ⟨place, e, hplace, hentry, hread⟩, htext⟩
      exact ⟨place, e, bytes, hplace, hentry, hread, htext⟩
  rw [hholds, readText]
  cases t.readBytes cwd path with
  | error fault => simp
  | ok bytes => cases hdecode : String.fromUTF8? bytes <;> simp [hdecode]

end FileTree

namespace LoadedRules

variable {t : FileTree} {cwd : Place} {explicit : Option String} {directory : String}

/-! ## The origin -/

/-- The origin of the rules: the file that is named; else the first of the two rules files of the
directory that is a regular file; else the built-in table. -/
inductive Chosen (t : FileTree) (cwd : Place) (directory : String) :
    Option String → RulesOrigin → Prop where
  | named (path : String) : Chosen t cwd directory (some path) (.file path)
  | first
      (hfirst : ∃ bytes, t.LeadsToFile cwd (Path.join directory "tonecheck.yaml") bytes) :
      Chosen t cwd directory none (.file (Path.join directory "tonecheck.yaml"))
  | second
      (hfirst : ¬∃ bytes, t.LeadsToFile cwd (Path.join directory "tonecheck.yaml") bytes)
      (hsecond : ∃ bytes, t.LeadsToFile cwd (Path.join directory ".tonecheck.yaml") bytes) :
      Chosen t cwd directory none (.file (Path.join directory ".tonecheck.yaml"))
  | builtin
      (hfirst : ¬∃ bytes, t.LeadsToFile cwd (Path.join directory "tonecheck.yaml") bytes)
      (hsecond : ¬∃ bytes, t.LeadsToFile cwd (Path.join directory ".tonecheck.yaml") bytes) :
      Chosen t cwd directory none .builtin

/-- The origin is the one that the conditions on the tree say. -/
theorem chosen_chooseOrigin (t : FileTree) (cwd : Place) (explicit : Option String)
    (directory : String) :
    Chosen t cwd directory explicit (chooseOrigin t cwd explicit directory) := by
  unfold chooseOrigin
  cases explicit with
  | some path => exact .named path
  | none =>
      unfold discovered? fileNames
      rw [Option.none_or, List.map_cons, List.map_singleton, List.find?_cons, List.find?_cons,
        List.find?_nil]
      by_cases hfirst : t.isFile cwd (Path.join directory "tonecheck.yaml") = true
      · rw [hfirst]
        exact .first (FileTree.isFile_iff_leadsToFile.mp hfirst)
      · have hnot := mt FileTree.isFile_iff_leadsToFile.mpr hfirst
        rw [Bool.not_eq_true] at hfirst
        by_cases hsecond : t.isFile cwd (Path.join directory ".tonecheck.yaml") = true
        · rw [hfirst, hsecond]
          exact .second hnot (FileTree.isFile_iff_leadsToFile.mp hsecond)
        · have hnot' := mt FileTree.isFile_iff_leadsToFile.mpr hsecond
          rw [Bool.not_eq_true] at hsecond
          rw [hfirst, hsecond]
          exact .builtin hnot hnot'

/-- The conditions on the tree leave no choice. -/
theorem Chosen.unique {origin other : RulesOrigin}
    (h : Chosen t cwd directory explicit origin) (h' : Chosen t cwd directory explicit other) :
    origin = other := by
  cases h with
  | named path => cases h'; rfl
  | first hfirst =>
      cases h' with
      | first => rfl
      | second hnot => exact absurd hfirst hnot
      | builtin hnot => exact absurd hfirst hnot
  | second hnot hsecond =>
      cases h' with
      | first hfirst => exact absurd hfirst hnot
      | second => rfl
      | builtin _ hnot' => exact absurd hsecond hnot'
  | builtin hnot hnot' =>
      cases h' with
      | first hfirst => exact absurd hfirst hnot
      | second _ hsecond => exact absurd hsecond hnot'
      | builtin => rfl

/-- **The origin is chosen by these conditions.** -/
theorem chosen_iff {origin : RulesOrigin} :
    Chosen t cwd directory explicit origin ↔ chooseOrigin t cwd explicit directory = origin := by
  constructor
  · intro h
    exact (chosen_chooseOrigin t cwd explicit directory).unique h
  · rintro rfl
    exact chosen_chooseOrigin t cwd explicit directory

/-! ## The rules of a text -/

/-- How loading ends for a text: it is no rules document; or else it gives a version that is not
supported; or else its tables are refused; or else the rules are those of its tables, in their
order. -/
inductive EndsAs (origin : RulesOrigin) (text : String) : Except LoadFault LoadedRules → Prop where
  | malformed {fault : DocumentFault} (hdocument : RulesDocument.ofText? text = .error fault) :
      EndsAs origin text (.error (.refused (.malformed fault)))
  | unsupported {d : RulesDocument} {version : String}
      (hdocument : RulesDocument.ofText? text = .ok d) (hversion : d.version = some version)
      (hother : version ≠ "1") :
      EndsAs origin text (.error (.refused (.unsupportedVersion version)))
  | invalid {d : RulesDocument} {fault : TableFault}
      (hdocument : RulesDocument.ofText? text = .ok d)
      (hversion : d.version = none ∨ d.version = some "1")
      (htables : RuleSet.build d.phrases d.cautions = .error fault) :
      EndsAs origin text (.error (.refused (.invalidTable fault)))
  | loaded {d : RulesDocument} {rules : RuleSet}
      (hdocument : RulesDocument.ofText? text = .ok d)
      (hversion : d.version = none ∨ d.version = some "1")
      (htables : RuleSet.build d.phrases d.cautions = .ok rules)
      (hphrases : rules.phrases.map (fun r => (r.pattern, r.suggestion)) = d.phrases)
      (hcautions : rules.cautions.map CautionRule.pattern = d.cautions) :
      EndsAs origin text (.ok ⟨origin, d, rules⟩)

/-- A document with the supported version, or with none, is read. -/
theorem read_of_supported {text : String} {d : RulesDocument}
    (hdocument : RulesDocument.ofText? text = .ok d)
    (hversion : d.version = none ∨ d.version = some "1") : RulesDocument.read text = .ok d := by
  unfold RulesDocument.read
  rcases hversion with hnone | hsame
  · simp only [hdocument, hnone]
  · simp only [hdocument, hsame, RulesDocument.supportedVersion, if_true]

/-- A document with another version is not. -/
theorem read_of_unsupported {text version : String} {d : RulesDocument}
    (hdocument : RulesDocument.ofText? text = .ok d) (hversion : d.version = some version)
    (hother : version ≠ "1") :
    RulesDocument.read text = .error (.unsupportedVersion version) := by
  have hnot : version ≠ RulesDocument.supportedVersion := hother
  unfold RulesDocument.read
  simp only [hdocument, hversion]
  rw [if_neg hnot]

/-- Loading ends for a text in one of these ways. -/
theorem endsAs_ofText? (origin : RulesOrigin) (text : String) :
    EndsAs origin text (ofText? origin text) := by
  unfold ofText?
  cases hdocument : RulesDocument.ofText? text with
  | error fault =>
      have hread : RulesDocument.read text = .error (.malformed fault) := by
        rw [RulesDocument.read, hdocument]
      rw [hread]
      exact .malformed hdocument
  | ok d =>
      by_cases hversion : d.version = none ∨ d.version = some "1"
      · rw [read_of_supported hdocument hversion]
        unfold RulesDocument.ruleSet
        cases htables : RuleSet.build d.phrases d.cautions with
        | error fault =>
            simp only [htables, Except.mapError]
            exact .invalid hdocument hversion htables
        | ok rules =>
            simp only [htables, Except.mapError]
            obtain ⟨hphrases, hcautions⟩ := RuleSet.entries_of_build htables
            exact .loaded hdocument hversion htables hphrases hcautions
      · obtain ⟨version, hsome⟩ := Option.ne_none_iff_exists'.mp (not_or.mp hversion).1
        have hother : version ≠ "1" := by
          rintro rfl
          exact hversion (.inr hsome)
        rw [read_of_unsupported hdocument hsome hother]
        exact .unsupported hdocument hsome hother

/-- **Loading ends for a text as the conditions on it say.** -/
theorem endsAs_iff {origin : RulesOrigin} {text : String}
    {result : Except LoadFault LoadedRules} :
    EndsAs origin text result ↔ ofText? origin text = result := by
  constructor
  · intro h
    unfold ofText?
    cases h with
    | malformed hdocument => rw [RulesDocument.read, hdocument]
    | unsupported hdocument hversion hother =>
        rw [read_of_unsupported hdocument hversion hother]
    | invalid hdocument hversion htables =>
        rw [read_of_supported hdocument hversion]
        simp only [RulesDocument.ruleSet, htables, Except.mapError]
    | loaded hdocument hversion htables =>
        rw [read_of_supported hdocument hversion]
        simp only [RulesDocument.ruleSet, htables, Except.mapError]
  · rintro rfl
    exact endsAs_ofText? origin text

/-! ## The rules of an origin -/

/-- How loading ends for an origin: a file has no text that can be read, or loading ends as it does
for the file's text; and the built-in table has a text of its own. -/
inductive LoadsAs (t : FileTree) (cwd : Place) :
    RulesOrigin → Except LoadFault LoadedRules → Prop where
  | unreadable {path : String} {fault : IoFault}
      (hnone : ¬∃ text, t.HoldsText cwd path text) (hfault : t.readText cwd path = .error fault) :
      LoadsAs t cwd (.file path) (.error (.unreadable path fault))
  | file {path text : String} {result : Except LoadFault LoadedRules}
      (htext : t.HoldsText cwd path text) (hends : EndsAs (.file path) text result) :
      LoadsAs t cwd (.file path) result
  | builtin {result : Except LoadFault LoadedRules} (hends : EndsAs .builtin builtinText result) :
      LoadsAs t cwd .builtin result

/-- Loading from a chosen file fails if it cannot be read, and goes by its text if it can. -/
theorem load_of_chosen_file {path : String}
    (h : chooseOrigin t cwd explicit directory = .file path) :
    load t cwd explicit directory =
      match t.readText cwd path with
      | .error fault => .error (.unreadable path fault)
      | .ok text => ofText? (.file path) text := by
  simp only [load, h, text?]
  cases t.readText cwd path <;> rfl

/-- **Loading ends as it must for the origin that is chosen.** -/
theorem loadsAs_iff {result : Except LoadFault LoadedRules} :
    LoadsAs t cwd (chooseOrigin t cwd explicit directory) result ↔
      load t cwd explicit directory = result := by
  cases horigin : chooseOrigin t cwd explicit directory with
  | builtin =>
      have hload : load t cwd explicit directory = ofText? .builtin builtinText := by
        simp only [load, horigin, text?]
      rw [hload, ← endsAs_iff]
      constructor
      · rintro ⟨⟩
        assumption
      · exact .builtin
  | file path =>
      rw [load_of_chosen_file horigin]
      cases hread : t.readText cwd path with
      | error fault =>
          have hnone : ¬∃ text, t.HoldsText cwd path text := by
            rintro ⟨text, htext⟩
            rw [FileTree.readText_eq_ok_iff.mpr htext] at hread
            cases hread
          constructor
          · intro h
            cases h with
            | unreadable _ hfault =>
                rw [hread] at hfault
                cases hfault
                rfl
            | file htext => exact absurd ⟨_, htext⟩ hnone
          · rintro rfl
            exact .unreadable hnone hread
      | ok text =>
          have htext : t.HoldsText cwd path text := FileTree.readText_eq_ok_iff.mp hread
          constructor
          · intro h
            cases h with
            | unreadable hnone => exact absurd ⟨_, htext⟩ hnone
            | file htext' hends =>
                rw [← FileTree.readText_eq_ok_iff, hread] at htext'
                cases htext'
                exact endsAs_iff.mp hends
          · intro hresult
            exact .file htext (endsAs_iff.mpr hresult)

/-- **Rules come from one origin, and a fault there is not made up for.**  The origin is the file
that is named, or else the first rules file in the directory, or else the built-in table.  Loading
ends in exactly the way that is laid down for this origin; if it succeeds, the rules are those of
the origin's text.  The rest of the tree does not matter: with the same origin, and with a file
there that reads the same, loading ends the same. -/
theorem load_never_falls_back (t : FileTree) (cwd : Place) (explicit : Option String)
    (directory : String) :
    ∃ origin,
      (∀ other, Chosen t cwd directory explicit other ↔ other = origin) ∧
      (∀ result, LoadsAs t cwd origin result ↔ load t cwd explicit directory = result) ∧
      (∀ loaded, load t cwd explicit directory = .ok loaded → loaded.origin = origin) ∧
      ∀ t' : FileTree, Chosen t' cwd directory explicit origin →
        (∀ path, origin = .file path → t'.readText cwd path = t.readText cwd path) →
        load t' cwd explicit directory = load t cwd explicit directory := by
  refine ⟨chooseOrigin t cwd explicit directory, ?_, fun result => loadsAs_iff, ?_, ?_⟩
  · intro other
    rw [chosen_iff, eq_comm]
  · intro loaded hload
    have hloads := loadsAs_iff.mpr hload
    generalize chooseOrigin t cwd explicit directory = origin at hloads
    cases hloads with
    | file htext hends => cases hends; rfl
    | builtin hends => cases hends; rfl
  · intro t' hchosen hsame
    rw [chosen_iff] at hchosen
    cases horigin : chooseOrigin t cwd explicit directory with
    | builtin =>
        rw [horigin] at hchosen
        simp only [load, horigin, hchosen, text?]
    | file path =>
        rw [horigin] at hchosen
        rw [load_of_chosen_file hchosen, load_of_chosen_file horigin, hsame path horigin]

end LoadedRules

end Wording
