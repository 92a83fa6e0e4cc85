/-
**Line endings and margins.**

The judge compares two texts after `normalize`. White space is trimmed before CR LF is turned into LF, and both
characters of a CR LF are white space: a line ending at a margin goes as a whole, and one inside is kept as a whole.

* `normalize_rewritten` — a text without CR is normalised as it is with some of its LF written CR LF and with white
  space around it.
* `line_endings_ignored` — the verdict of `evaluateCode` and the flags of `code:run` are the same for outputs and
  expected outputs that are two forms of one text (`Alike`).
-/

import SkillArena.Proof.Grading
import SkillArena.Strings.Strip

namespace SkillArena

open Strings

/-! ### Forms of one text -/

/-- A line feed may be written as it is or as CR LF, any other character as it is. -/
def LineEnding (c : Char) (block : Text) : Prop := block = [c] ∨ c = '\n' ∧ block = ['\r', '\n']

theorem LineEnding.same (c : Char) : LineEnding c [c] := Or.inl rfl

theorem LineEnding.crLf : LineEnding '\n' ['\r', '\n'] := Or.inr ⟨rfl, rfl⟩

theorem replaceCrLf_cons {c : Char} (plain : c ≠ '\r') (text : Text) :
    replaceCrLf (c :: text) = c :: replaceCrLf text := by
  rw [replaceCrLf]
  rintro rest rfl
  exact absurd rfl plain

theorem replaceCrLf_rewritten {text text' : Text} (plain : '\r' ∉ text)
    (rewritten : Rewrites LineEnding text text') : replaceCrLf text' = text := by
  induction rewritten with
  | nil => rfl
  | @cons c block text text' written _ ih =>
    rw [List.mem_cons, not_or] at plain
    rcases written with rfl | ⟨rfl, rfl⟩
    · exact (replaceCrLf_cons (Ne.symm plain.1) text').trans (congrArg (c :: ·) (ih plain.2))
    · exact congrArg ('\n' :: ·) (ih plain.2)

theorem replaceCrLf_plain {text : Text} (plain : '\r' ∉ text) : replaceCrLf text = text := by
  induction text with
  | nil => rfl
  | cons c text ih =>
    rw [List.mem_cons, not_or] at plain
    rw [replaceCrLf_cons (Ne.symm plain.1), ih plain.2]

theorem crLf_space {c : Char} (member : c ∈ ['\r', '\n']) : isJsSpace c = true := by
  rcases List.mem_cons.mp member with rfl | last
  · decide
  · obtain rfl := List.mem_singleton.mp last
    decide

theorem lineEnding_keepsMargin : KeepsMargin isJsSpace LineEnding where
  left := {
    inside := by
      rintro c block (rfl | ⟨rfl, rfl⟩) space
      · simpa using space
      · exact fun b => crLf_space
    begins := by
      rintro c block (rfl | ⟨rfl, rfl⟩) other
      · exact ⟨c, [], rfl, other⟩
      · exact absurd other (by decide) }
  right := {
    inside := by
      intro c block written space b member
      rw [← List.mem_reverse] at member
      rcases written with single | ⟨rfl, double⟩
      · rw [single, List.mem_singleton] at member
        exact member ▸ space
      · rw [double] at member
        exact crLf_space member
    begins := by
      rintro c block (single | ⟨rfl, -⟩) other
      · exact ⟨c, [], by simpa using congrArg List.reverse single, other⟩
      · exact absurd other (by decide) }

/-- **The normal form does not depend on line endings and margins.** -/
theorem normalize_rewritten {text text' before after : Text} (plain : '\r' ∉ text)
    (rewritten : Rewrites LineEnding text text') (left : ∀ c ∈ before, isJsSpace c = true)
    (right : ∀ c ∈ after, isJsSpace c = true) :
    normalize (some (before ++ text' ++ after)) = normalize (some text) := by
  have core : '\r' ∉ strip isJsSpace text := fun member =>
    plain ((List.dropWhile_sublist _).subset ((List.rdropWhile_prefix _ _).subset member))
  calc replaceCrLf (strip isJsSpace (before ++ text' ++ after))
      = replaceCrLf (strip isJsSpace text') := by rw [strip_surround left right]
    _ = strip isJsSpace text := replaceCrLf_rewritten core (rewritten.strip lineEnding_keepsMargin)
    _ = replaceCrLf (strip isJsSpace text) := (replaceCrLf_plain core).symm

/-- A form of a text: some of its line feeds are written CR LF, and white space stands around it. -/
def Form (text form : Text) : Prop :=
  ∃ before body after, form = before ++ body ++ after ∧ Rewrites LineEnding text body ∧
    (∀ c ∈ before, isJsSpace c = true) ∧ ∀ c ∈ after, isJsSpace c = true

/-- **Two forms of one text** without CR. -/
def Alike (form form' : Text) : Prop := ∃ text, '\r' ∉ text ∧ Form text form ∧ Form text form'

theorem Form.normalize_eq {text form : Text} (plain : '\r' ∉ text) (written : Form text form) :
    normalize (some form) = normalize (some text) := by
  obtain ⟨before, body, after, rfl, rewritten, left, right⟩ := written
  exact normalize_rewritten plain rewritten left right

theorem Alike.normalize_eq {form form' : Text} (alike : Alike form form') :
    normalize (some form) = normalize (some form') := by
  obtain ⟨text, plain, written, written'⟩ := alike
  exact (written.normalize_eq plain).trans (written'.normalize_eq plain).symm

/-! ### The verdict -/

/-- Two executions that differ in the form of what is printed. -/
def AlikeRuns : Except Err Execution → Except Err Execution → Prop
  | .ok execution, .ok execution' => Alike execution.stdout execution'.stdout ∧
      execution.stderr = execution'.stderr ∧ execution.exitCode = execution'.exitCode
  | .error err, .error err' => err = err'
  | _, _ => False

/-- Two tests that differ in the form of what is expected. -/
structure AlikeTests (test test' : TestCase) : Prop where
  input : test.input = test'.input
  expected : Option.Rel Alike test.expectedOutput test'.expectedOutput

theorem normalize_expected {expected expected' : Option Text} (alike : Option.Rel Alike expected expected') :
    normalize expected = normalize expected' := by
  cases alike with
  | some alike => exact alike.normalize_eq
  | none => rfl

section Verdict

variable {execute execute' : Text → Except Err Execution} {test test' : TestCase} {tests tests' : List TestCase}

/-- At two forms of one test, all that the verdict is made of is the same. -/
theorem alike_test (outputs : ∀ input, AlikeRuns (execute input) (execute' input)) (alike : AlikeTests test test') :
    outcome execute test = outcome execute' test' ∧ errorOutput execute test = errorOutput execute' test' ∧
      printsExpected execute test = printsExpected execute' test' := by
  have runs := outputs test.input
  unfold outcome errorOutput printsExpected
  rw [← alike.input, ← normalize_expected alike.expected]
  cases ran : execute test.input with
  | error err =>
    cases ran' : execute' test.input with
    | error err' =>
      rw [ran, ran'] at runs
      obtain rfl : err = err' := runs
      exact ⟨rfl, rfl, rfl⟩
    | ok execution' =>
      rw [ran, ran'] at runs
      exact runs.elim
  | ok execution =>
    cases ran' : execute' test.input with
    | error err' =>
      rw [ran, ran'] at runs
      exact runs.elim
    | ok execution' =>
      rw [ran, ran'] at runs
      obtain ⟨printed, complained, exited⟩ := runs
      dsimp only
      rw [printed.normalize_eq, complained, exited]
      exact ⟨rfl, rfl, rfl⟩

theorem runTests_alike (outputs : ∀ input, AlikeRuns (execute input) (execute' input))
    (alike : List.Forall₂ AlikeTests tests tests') :
    runTests execute tests.length 0 tests = runTests execute' tests'.length 0 tests' := by
  have parts : tests.map (outcome execute) = tests'.map (outcome execute') ∧
      shownError execute tests = shownError execute' tests' := by
    induction alike with
    | nil => exact ⟨rfl, rfl⟩
    | cons first _ ih =>
      obtain ⟨met, shown, -⟩ := alike_test outputs first
      rw [List.map_cons, List.map_cons, shownError, shownError, met, shown, ih.1, ih.2]
      exact ⟨rfl, rfl⟩
  rw [runTests_eq, runTests_eq, parts.1, parts.2, alike.length_eq]

theorem printsExpected_alike (outputs : ∀ input, AlikeRuns (execute input) (execute' input))
    (alike : List.Forall₂ AlikeTests tests tests') :
    tests.map (printsExpected execute) = tests'.map (printsExpected execute') := by
  induction alike with
  | nil => rfl
  | cons first _ ih => rw [List.map_cons, List.map_cons, (alike_test outputs first).2.2, ih]

end Verdict

/-- **Line endings and margins are ignored.** A text without CR has one normal form, whichever of its LF are written
CR LF and whatever white space stands around it. Hence, for every list of tests and every two executors that differ
in the form of what is printed, over tests that differ in the form of what is expected, `evaluateCode` returns the
same result, and `code:run` the same flags. -/
theorem line_endings_ignored :
    (∀ text text' before after : Text, '\r' ∉ text → Rewrites LineEnding text text' →
      (∀ c ∈ before, isJsSpace c = true) → (∀ c ∈ after, isJsSpace c = true) →
      normalize (some (before ++ text' ++ after)) = normalize (some text)) ∧
    ∀ (R : Runtime) (E E' : Executor (Except Err)) (language code : JsVal) (problemId : ProblemId)
      (tests tests' : List TestCase),
      (∀ input, AlikeRuns (executeCode R E language code input) (executeCode R E' language code input)) →
      List.Forall₂ AlikeTests tests tests' →
      evaluateCode R (E.on tests) language code problemId = evaluateCode R (E'.on tests') language code problemId ∧
      (sampleResults (executeCode R E language code) 1 tests).map (·.passed) =
        (sampleResults (executeCode R E' language code) 1 tests').map (·.passed) := by
  refine ⟨fun _ _ _ _ => normalize_rewritten, ?_⟩
  intro R E E' language code problemId tests tests' outputs alike
  constructor
  · rw [evaluateCode_on, evaluateCode_on, runTests_alike outputs alike]
  · rw [sampleResults_passed, sampleResults_passed, printsExpected_alike outputs alike]

/-- A program that prints one text. -/
def saying (text : Text) : Executor (Except Err) where
  executeFile _ _ _ := .ok ⟨text, [], 0⟩
  testCases _ := .ok none

/-- The verdict on this program, sent as JavaScript, over one test. -/
def verdictOnSaying (text expected : Text) : Except Err EvalResult :=
  evaluateCode anyRuntime ((saying text).on [⟨[], some expected, true⟩]) (.str "js".toList) (.str "x".toList) 0

/-- Two lines, as they are written on two systems. -/
theorem line_endings_ignored_two :
    normalize (some [' ', '1', '\r', '\n', '2', '\n']) = normalize (some ['1', '\n', '2']) ∧
    verdictOnSaying ['1', '\n', '2'] ['1', '\r', '\n', '2'] =
      verdictOnSaying ['1', '\r', '\n', '2'] ['1', '\n', '2'] := by
  have lf : Rewrites LineEnding ['1', '\n', '2'] ['1', '\n', '2'] :=
    .cons (LineEnding.same _) (.cons (LineEnding.same _) (.cons (LineEnding.same _) .nil))
  have crLf : Rewrites LineEnding ['1', '\n', '2'] ['1', '\r', '\n', '2'] :=
    .cons (LineEnding.same _) (.cons LineEnding.crLf (.cons (LineEnding.same _) .nil))
  have form : ∀ {body}, Rewrites LineEnding ['1', '\n', '2'] body → Form ['1', '\n', '2'] body :=
    fun {body} written => ⟨[], body, [], by simp, written, nofun, nofun⟩
  have alike : Alike ['1', '\n', '2'] ['1', '\r', '\n', '2'] := ⟨_, by decide, form lf, form crLf⟩
  have alike' : Alike ['1', '\r', '\n', '2'] ['1', '\n', '2'] := ⟨_, by decide, form crLf, form lf⟩
  refine ⟨line_endings_ignored.1 _ _ [' '] ['\n'] (by decide) crLf (List.forall_mem_singleton.mpr (by decide))
    (List.forall_mem_singleton.mpr (by decide)), ?_⟩
  have runs : ∀ input, AlikeRuns
      (executeCode anyRuntime (saying ['1', '\n', '2']) (.str "js".toList) (.str "x".toList) input)
      (executeCode anyRuntime (saying ['1', '\r', '\n', '2']) (.str "js".toList) (.str "x".toList) input) :=
    fun _ => (⟨alike, rfl, rfl⟩ : _ ∧ _ ∧ _)
  have tests : List.Forall₂ AlikeTests [⟨[], some ['1', '\r', '\n', '2'], true⟩]
      [⟨[], some ['1', '\n', '2'], true⟩] :=
    .cons ⟨rfl, .some alike'⟩ .nil
  exact (line_endings_ignored.2 _ _ _ _ _ 0 _ _ runs tests).1

end SkillArena
