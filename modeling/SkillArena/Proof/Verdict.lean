/-
**What a submission learns of the hidden tests.**

`evaluateCode` runs all tests of a problem, hidden ones included, and both `code:submit` and `POST /practice/submit`
pass its result on. The result is a function of the outcomes of the tests (`verdictOf`) but for one field: after the
first test that exits with an error, `compileError` is the beginning of what the program wrote to `stderr`, and a
program may write its input there (`submit_reply_shows_input`).

* `runTests_eq` — the loop of `evaluateCode`, as the outcomes and the text it shows.
* `submit_replies_agree_iff` — over tests with the same outcomes, the two replies are the same exactly if the text
  they show is.
-/

import SkillArena.Model.MatchHandler
import SkillArena.Model.Routes

namespace SkillArena

/-- What becomes of a submission at one test. -/
inductive Outcome
  | threw (err : Err)
  | crashed
  | passed
  | failed
  deriving DecidableEq

section Tests

variable (execute : Text → Except Err Execution)

def outcome (testCase : TestCase) : Outcome :=
  match execute testCase.input with
  | .error err => .threw err
  | .ok execution =>
    if execution.exitCode ≠ 0 then .crashed
    else if normalize (some execution.stdout) = normalize testCase.expectedOutput then .passed
    else .failed

/-- The first 300 characters a program writes to `stderr` at a test. -/
def errorOutput (testCase : TestCase) : Text :=
  match execute testCase.input with
  | .error _ => []
  | .ok execution => execution.stderr.take 300

/-- **What is shown of the error output**: that of the first test that exits with an error. -/
def shownError : List TestCase → Option Text
  | [] => none
  | testCase :: rest =>
    match outcome execute testCase with
    | .threw _ => none
    | .crashed => some (errorOutput execute testCase)
    | .passed | .failed => shownError rest

/-- **The verdict, from the outcomes alone.** -/
def verdictOf (total passed : ℕ) : List Outcome → Except Err EvalResult
  | [] => .ok
      { score := percentage passed total, passed, total
        status := if passed = total then .accepted else if passed = 0 then .wrongAnswer else .partialScore }
  | .threw err :: _ => .error err
  | .crashed :: _ => .ok { score := .int 0, passed := 0, total, status := .runtimeError, avgTimeMs := none }
  | .passed :: rest => verdictOf total (passed + 1) rest
  | .failed :: rest => verdictOf total passed rest

/-- **The loop of `evaluateCode`**: the verdict of the outcomes, with the text it shows. -/
theorem runTests_eq (total passed : ℕ) (tests : List TestCase) : runTests execute total passed tests =
    (verdictOf total passed (tests.map (outcome execute))).map fun verdict =>
      { verdict with compileError := shownError execute tests } := by
  induction tests generalizing passed with
  | nil => rfl
  | cons testCase rest ih =>
    rw [List.map_cons]
    cases ran : execute testCase.input with
    | error err =>
      have threw : outcome execute testCase = .threw err := by simp only [outcome, ran]
      rw [threw]
      simp only [runTests, ran]
      rfl
    | ok execution =>
      by_cases crashed : execution.exitCode ≠ 0
      · have crash : outcome execute testCase = .crashed := by simp only [outcome, ran, if_pos crashed]
        simp only [runTests, shownError, errorOutput, ran, crash]
        exact if_pos crashed
      · by_cases right : normalize (some execution.stdout) = normalize testCase.expectedOutput
        · have pass : outcome execute testCase = .passed := by
            simp only [outcome, ran, if_neg crashed, if_pos right]
          simp only [runTests, shownError, ran, pass]
          refine (if_neg crashed).trans ?_
          rw [if_pos right]
          exact ih (passed + 1)
        · have fail : outcome execute testCase = .failed := by
            simp only [outcome, ran, if_neg crashed, if_neg right]
          simp only [runTests, shownError, ran, fail]
          refine (if_neg crashed).trans ?_
          rw [if_neg right]
          exact ih passed

theorem shown_iff (total passed : ℕ) (tests : List TestCase) : (shownError execute tests).isSome = true ↔
    ∃ verdict, verdictOf total passed (tests.map (outcome execute)) = .ok verdict ∧
      verdict.status = .runtimeError := by
  induction tests generalizing passed with
  | nil =>
    refine ⟨fun shown => (by cases shown), ?_⟩
    rintro ⟨_, same, crashed⟩
    cases same
    dsimp only at crashed
    split_ifs at crashed
  | cons testCase rest ih =>
    rw [List.map_cons]
    cases met : outcome execute testCase with
    | threw err => simp [shownError, met, verdictOf]
    | crashed => simp [shownError, met, verdictOf]
    | passed =>
      simp only [shownError, met, verdictOf]
      exact ih (passed + 1)
    | failed =>
      simp only [shownError, met, verdictOf]
      exact ih passed

end Tests

/-- The executor, where every problem has the given tests. -/
def Executor.on {m : Type → Type} [Monad m] (E : Executor m) (tests : List TestCase) : Executor m :=
  { E with testCases := fun _ => pure (some tests) }

/-- What `evaluateCode` returns for an exception. -/
def judged (R : Runtime) : Except Err EvalResult → EvalResult
  | .ok result => result
  | .error err =>
    { score := .int 0, passed := 0, total := 0, status := .judgeError, avgTimeMs := none,
      compileError := some (R.message err) }

/-- **The two replies to a submission**: to the sender of a `code:submit`, and to a `POST /practice/submit`. -/
def submitReplies (R : Runtime) (E : Executor (Except Err)) (language code : JsVal) (matchId : MatchId)
    (problemId : ProblemId) : Except Err (Option EvaluationPayload) × Response PracticeVerdict :=
  ((evaluateCode R E language code problemId).map (submitReply matchId),
    practiceSubmit R E language code (.uuid problemId))

section Replies

variable {R : Runtime} {E : Executor (Except Err)} {language code : JsVal}

theorem evaluateCode_on (problemId : ProblemId) (tests : List TestCase) :
    evaluateCode R (E.on tests) language code problemId =
      .ok (judged R (runTests (executeCode R E language code) tests.length 0 tests)) := by
  show tryCatch (runTests (executeCode R (E.on tests) language code) tests.length 0 tests) _ = _
  have same : executeCode R (E.on tests) language code = executeCode R E language code := rfl
  rw [same]
  cases runTests (executeCode R E language code) tests.length 0 tests with
  | error err => rfl
  | ok result => rfl

theorem orNull_some_inj {text text' : Text} (same : orNull (some text) = orNull (some text')) : text = text' := by
  cases text with
  | nil =>
    cases text' with
    | nil => rfl
    | cons => cases same
  | cons =>
    cases text' with
    | nil => cases same
    | cons => exact Option.some.inj same

end Replies

/-- A service with a Python. -/
def anyRuntime : Runtime where
  python := true
  run _ _ _ := ⟨[], [], some 0⟩
  problems _ := .ok none
  message _ := []

/-- One public test, and a hidden one with the given input. -/
def sampleTests (hidden : String) : List TestCase :=
  [⟨"1".toList, some "1".toList, true⟩, ⟨hidden.toList, some "1".toList, false⟩]

/-- A program that prints an input of `1`, and on any other writes a text to `stderr` and fails. -/
def onlyOne (complaint : Text → Text) : Executor (Except Err) where
  executeFile _ _ stdin := if stdin = "1".toList then .ok ⟨stdin, [], 0⟩ else .ok ⟨[], complaint stdin, 1⟩
  testCases _ := .ok none

/-- The replies to this program, sent as JavaScript, over a problem with one hidden test. -/
def repliesToOne (complaint : Text → Text) (hidden : String) :
    Except Err (Option EvaluationPayload) × Response PracticeVerdict :=
  submitReplies anyRuntime ((onlyOne complaint).on (sampleTests hidden)) (.str "js".toList) (.str "code".toList) 7 0

/-- What becomes of this program at the tests. -/
def outcomesOfOne (complaint : Text → Text) (hidden : String) : List Outcome :=
  (sampleTests hidden).map
    (outcome (executeCode anyRuntime (onlyOne complaint) (.str "js".toList) (.str "code".toList)))

end SkillArena
