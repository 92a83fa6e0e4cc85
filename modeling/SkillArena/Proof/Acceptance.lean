/-
**What `ACCEPTED` says.**

`evaluateCode` counts the tests that pass and returns at the first one that exits with an error.

* `evaluateCode_perm` — for an executor that returns, the score, the counts and the status do not depend on the
  order of the tests.
* `accepted_sound_iff` — `exitCode: code ?? 0` makes an exit with 0 of a process that a signal has ended. `ACCEPTED`
  means that every process has exited with 0 and printed what is expected, exactly if it is not that all have
  printed it, each has exited with 0 or was ended by a signal, and one was.
-/

import SkillArena.Model.Child
import SkillArena.Proof.Payload

namespace SkillArena

/-! ### The order of the tests -/

section Order

variable {R : Runtime} {E : Executor (Except Err)} {language code : JsVal} {tests tests' : List TestCase}

/-- The verdict of a crash discards the count, wherever the crash is. -/
theorem verdictOf_crashed {outcomes : List Outcome} (returned : ∀ err, .threw err ∉ outcomes)
    (crashed : .crashed ∈ outcomes) (total passed : ℕ) : verdictOf total passed outcomes =
      .ok { score := .int 0, passed := 0, total, status := .runtimeError, avgTimeMs := none } := by
  induction outcomes generalizing passed with
  | nil => cases crashed
  | cons met rest ih =>
    have later : ∀ err, .threw err ∉ rest := fun err member => returned err (.tail _ member)
    cases met with
    | threw err => exact absurd (.head _) (returned err)
    | crashed => rfl
    | passed => exact ih later (by simpa using crashed) (passed + 1)
    | failed => exact ih later (by simpa using crashed) passed

/-- **The verdict without an exception**: that of a crash, or the grade of what has passed. -/
def verdictReturned (outcomes : List Outcome) : EvalResult :=
  if .crashed ∈ outcomes then
    { score := .int 0, passed := 0, total := outcomes.length, status := .runtimeError, avgTimeMs := none }
  else gradeOf (outcomes.count .passed) outcomes.length

theorem verdictOf_returned {outcomes : List Outcome} (returned : ∀ err, .threw err ∉ outcomes) :
    verdictOf outcomes.length 0 outcomes = .ok (verdictReturned outcomes) := by
  unfold verdictReturned
  by_cases crashed : .crashed ∈ outcomes
  · rw [if_pos crashed, verdictOf_crashed returned crashed]
  · rw [if_neg crashed, verdictOf_clean ?_, Nat.zero_add]
    intro met member
    cases met with
    | threw err => exact absurd member (returned err)
    | crashed => exact absurd member crashed
    | passed => exact .inl rfl
    | failed => exact .inr rfl

theorem verdictReturned_perm {outcomes outcomes' : List Outcome} (perm : outcomes.Perm outcomes') :
    verdictReturned outcomes = verdictReturned outcomes' := by
  unfold verdictReturned
  rw [perm.length_eq, perm.count_eq, if_congr perm.mem_iff rfl rfl]

theorem verdictReturned_passed_le (outcomes : List Outcome) :
    (verdictReturned outcomes).passed ≤ (verdictReturned outcomes).total := by
  unfold verdictReturned
  split_ifs
  · exact Nat.zero_le _
  · exact List.count_le_length

theorem verdictReturned_total (outcomes : List Outcome) : (verdictReturned outcomes).total = outcomes.length := by
  unfold verdictReturned
  split_ifs
  · rfl
  · rfl

theorem evaluateCode_returned (returned : ∀ err, .threw err ∉ tests.map (outcome (executeCode R E language code)))
    (problemId : ProblemId) : evaluateCode R (E.on tests) language code problemId =
      .ok { verdictReturned (tests.map (outcome (executeCode R E language code))) with
        compileError := shownError (executeCode R E language code) tests } := by
  have verdict := verdictOf_returned returned
  rw [List.length_map] at verdict
  rw [evaluateCode_on, runTests_eq, verdict]
  rfl

theorem outcomes_returned {run : Text → Execution}
    (returns : ∀ input, executeCode R E language code input = .ok (run input)) (tests : List TestCase) :
    (∀ err, .threw err ∉ tests.map (outcome (executeCode R E language code))) ∧
    (.crashed ∈ tests.map (outcome (executeCode R E language code)) ↔
      ∃ test ∈ tests, (run test.input).exitCode ≠ 0) ∧
    ((∀ test ∈ tests, (run test.input).exitCode = 0) →
      (tests.map (outcome (executeCode R E language code))).count .passed =
        tests.countP fun test => normalize (some (run test.input).stdout) = normalize test.expectedOutput) := by
  have met : ∀ test, outcome (executeCode R E language code) test =
      if (run test.input).exitCode ≠ 0 then .crashed
      else if normalize (some (run test.input).stdout) = normalize test.expectedOutput then .passed
      else .failed := by
    intro test
    rw [outcome, returns]
  refine ⟨fun err member => ?_, ?_, fun clean => ?_⟩
  · obtain ⟨test, -, threw⟩ := List.mem_map.mp member
    rw [met] at threw
    split_ifs at threw
  · rw [List.mem_map]
    refine exists_congr fun test => and_congr_right fun _ => ?_
    rw [met]
    split_ifs with exited right
    · exact iff_of_true rfl exited
    · exact iff_of_false (by decide) exited
    · exact iff_of_false (by decide) exited
  · rw [List.count, List.countP_map]
    refine List.countP_congr fun test member => ?_
    rw [Function.comp_apply, met, if_neg (not_not.mpr (clean test member))]
    by_cases right : normalize (some (run test.input).stdout) = normalize test.expectedOutput
    · simp [right]
    · simp [right]

/-- **The verdict does not depend on the order of the tests.** For every list of tests, every executor that returns
at every input and every permutation of the list, the score, the number of tests that have passed, the number of
tests and the status are the same. If some test exits with an error, none has passed and the status is
`RUNTIME_ERROR`; otherwise those have passed at which the program prints what is expected. -/
theorem evaluateCode_perm (R : Runtime) (E : Executor (Except Err)) (language code : JsVal) (problemId : ProblemId)
    {run : Text → Execution} (returns : ∀ input, executeCode R E language code input = .ok (run input))
    (perm : tests.Perm tests') :
    ∃ result result', evaluateCode R (E.on tests) language code problemId = .ok result ∧
      evaluateCode R (E.on tests') language code problemId = .ok result' ∧
      result'.score = result.score ∧ result'.passed = result.passed ∧ result'.total = result.total ∧
      result'.status = result.status ∧
      ((∃ test ∈ tests, (run test.input).exitCode ≠ 0) → result.passed = 0 ∧ result.status = .runtimeError) ∧
      ((∀ test ∈ tests, (run test.input).exitCode = 0) → result.passed =
        tests.countP fun test => normalize (some (run test.input).stdout) = normalize test.expectedOutput) ∧
      result.passed ≤ result.total ∧ result.total = tests.length := by
  obtain ⟨returned, crashes, counts⟩ := outcomes_returned returns tests
  have outcomes := perm.map (outcome (executeCode R E language code))
  have returned' : ∀ err, .threw err ∉ tests'.map (outcome (executeCode R E language code)) :=
    fun err member => returned err (outcomes.mem_iff.mpr member)
  have same := (verdictReturned_perm outcomes).symm
  refine ⟨_, _, evaluateCode_returned returned problemId, evaluateCode_returned returned' problemId,
    by rw [same], by rw [same], by rw [same], by rw [same], ?_, ?_, verdictReturned_passed_le _,
    (verdictReturned_total _).trans (List.length_map _)⟩
  · intro exits
    unfold verdictReturned
    rw [if_pos (crashes.mpr exits)]
    exact ⟨rfl, rfl⟩
  · intro clean
    have none : .crashed ∉ tests.map (outcome (executeCode R E language code)) := fun member => by
      obtain ⟨test, inside, exited⟩ := crashes.mp member
      exact exited (clean test inside)
    unfold verdictReturned
    rw [if_neg none]
    exact counts clean

end Order

/-- One test passed and one failed, in both orders. -/
theorem evaluateCode_perm_two : ∃ result result',
    evaluateCode anyRuntime (echoing.on (passesBut 1)) (.str "js".toList) (.str "x".toList) 0 = .ok result ∧
    evaluateCode anyRuntime (echoing.on (passesBut 1).reverse) (.str "js".toList) (.str "x".toList) 0 =
      .ok result' ∧ result'.status = result.status ∧ result.passed = 1 := by
  have returns : ∀ input, executeCode anyRuntime echoing (.str "js".toList) (.str "x".toList) input =
      .ok ⟨input, [], 0⟩ := fun _ => rfl
  obtain ⟨result, result', first, second, -, -, -, status, -, counts, -, -⟩ :=
    evaluateCode_perm anyRuntime echoing _ _ 0 returns (List.reverse_perm (passesBut 1)).symm
  exact ⟨result, result', first, second, status, (counts fun _ _ => rfl).trans (by decide +kernel)⟩

/-! ### Processes one after the other -/

/-- How the process of a child has terminated. -/
def Child.termination? : Child → Option Termination
  | unstarted _ => none
  | ran _ termination => some termination

/-- **An executor that starts the processes of a family one after the other.** -/
def inTurn (tests : List TestCase) (family : ℕ → Child) : Executor (StateT ℕ (Except Err)) where
  executeFile _ code _ :=
    match code.text? with
    | some _ => do
      let started ← get
      set (started + 1)
      pure (family started).ended.execution
    | none => throw Err.typeError
  testCases _ := pure (some tests)

theorem evaluateCode_inTurn (R : Runtime) (tests : List TestCase) (family : ℕ → Child) (language code : JsVal)
    (problemId : ProblemId) : (evaluateCode R (inTurn tests family) language code problemId).run' 0 = .ok (judged R
      ((runTests (executeCode R (inTurn tests family) language code) tests.length 0 tests).run' 0)) := by
  let loop := runTests (executeCode R (inTurn tests family) language code) tests.length 0 tests 0
  show Prod.fst <$> tryCatch loop _ = .ok (judged R (Prod.fst <$> loop))
  cases loop with
  | error err => rfl
  | ok result => rfl

/-- What becomes of a test and the process of a number. -/
def outcomeOf (family : ℕ → Child) (numbered : TestCase × ℕ) : Outcome :=
  outcome (fun _ => .ok (family numbered.2).ended.execution) numbered.1

theorem outcomeOf_eq (family : ℕ → Child) (test : TestCase) (number : ℕ) : outcomeOf family (test, number) =
    if (family number).ended.execution.exitCode ≠ 0 then .crashed
    else if normalize (some (family number).ended.stdout) = normalize test.expectedOutput then .passed
    else .failed := rfl

/-- **The loop of `evaluateCode` over the processes**: its status is that of the outcomes. -/
theorem runTests_inTurn {execute : Text → StateT ℕ (Except Err) Execution} {family : ℕ → Child}
    (serves : ∀ stdin number, execute stdin number = .ok ((family number).ended.execution, number + 1))
    (total passed number : ℕ) (tests : List TestCase) :
    ((runTests execute total passed tests).run' number).map (·.status) =
      (verdictOf total passed ((tests.zipIdx number).map (outcomeOf family))).map (·.status) := by
  induction tests generalizing passed number with
  | nil => rfl
  | cons test rest ih =>
    have first : (runTests execute total passed (test :: rest)).run' number =
        StateT.run' (if (family number).ended.execution.exitCode ≠ 0 then
          pure { score := .int 0, passed := 0, total, status := .runtimeError, avgTimeMs := none,
                 compileError := some ((family number).ended.execution.stderr.take 300) }
        else runTests execute total (if normalize (some (family number).ended.stdout) =
          normalize test.expectedOutput then passed + 1 else passed) rest) (number + 1) := by
      show Prod.fst <$> (execute test.input number >>= _) = _
      rw [serves]
      rfl
    rw [first, List.zipIdx_cons, List.map_cons, outcomeOf_eq]
    split_ifs with exited right
    · rfl
    · exact ih (passed + 1) (number + 1)
    · exact ih passed (number + 1)

/-! ### Accepted -/

section Accepted

variable {R : Runtime} {family : ℕ → Child} {tests : List TestCase} {language code : JsVal}

/-- `code ?? 0` is 0 for an exit with 0 and for a signal. -/
theorem exitCode_eq_zero_iff (child : Child) : child.ended.execution.exitCode = 0 ↔
    child.termination? = some (.exited 0) ∨ ∃ signal, child.termination? = some (.signalled signal) := by
  cases child with
  | unstarted message => simp [Child.ended, Ended.execution, Child.termination?]
  | ran writes termination =>
    cases termination with
    | exited status => simp [Child.ended, Ended.execution, Child.termination?, Termination.code]
    | signalled signal => simp [Child.ended, Ended.execution, Child.termination?, Termination.code]

theorem outcomeOf_passed_iff {test : TestCase} {number : ℕ} : outcomeOf family (test, number) = .passed ↔
    (family number).ended.execution.exitCode = 0 ∧
      normalize (some (family number).ended.stdout) = normalize test.expectedOutput := by
  rw [outcomeOf_eq]
  split_ifs with exited right
  · exact iff_of_false (by decide) fun passes => exited passes.1
  · exact iff_of_true rfl ⟨not_not.mp exited, right⟩
  · exact iff_of_false (by decide) fun passes => right passes.2

theorem map_status_iff {verdict : Except Err EvalResult} : verdict.map (·.status) = .ok .accepted ↔
    ∃ result, verdict = .ok result ∧ result.status = .accepted := by
  cases verdict with
  | error err => simp [Except.map]
  | ok result => simp [Except.map]

theorem judged_accepted (R : Runtime) {verdict : Except Err EvalResult} :
    (judged R verdict).status = .accepted ↔ verdict.map (·.status) = .ok .accepted := by
  cases verdict with
  | error err => simp [Except.map, judged]
  | ok result => simp [Except.map, judged]

theorem accepted_inTurn_iff (problemId : ProblemId) :
    (∃ result, (evaluateCode R (inTurn tests family) language code problemId).run' 0 = .ok result ∧
      result.status = .accepted) ↔
    ((runTests (executeCode R (inTurn tests family) language code) tests.length 0 tests).run' 0).map (·.status) =
      .ok .accepted := by
  rw [evaluateCode_inTurn, ← judged_accepted R]
  simp only [Except.ok.injEq, exists_eq_left']

/-- The processes are started, and the verdict is `ACCEPTED` exactly if all pass. -/
theorem accepted_started_iff (runs : R.runsFile language = true) (text : code.text?.isSome = true)
    (problemId : ProblemId) :
    (∃ result, (evaluateCode R (inTurn tests family) language code problemId).run' 0 = .ok result ∧
      result.status = .accepted) ↔
    ∀ number test, tests[number]? = some test → outcomeOf family (test, number) = .passed := by
  have serves : ∀ stdin number, executeCode R (inTurn tests family) language code stdin number =
      .ok ((family number).ended.execution, number + 1) := by
    intro stdin number
    obtain ⟨source, given⟩ := Option.isSome_iff_exists.mp text
    rcases executeCode_routes R (inTurn tests family) language code with ⟨nameless, -⟩ | ⟨-, -, extension, files⟩ |
      ⟨-, other, -⟩
    · rw [runsFile_of_nameless nameless] at runs
      cases runs
    · rw [files]
      simp only [inTurn, given]
      rfl
    · rw [runs] at other
      cases other
  have all := @accepted_iff tests.length 0 (tests.zipIdx.map (outcomeOf family)) (by simp)
  simp only [List.length_map, List.length_zipIdx, Nat.zero_add, true_and, List.forall_mem_map, Prod.forall,
    List.mem_zipIdx_iff_getElem?] at all
  rw [accepted_inTurn_iff, runTests_inTurn serves, map_status_iff, all]
  exact forall_comm

/-- No process is started, and the verdict is `ACCEPTED` only where nothing is tested. -/
theorem accepted_unstarted (unstarted : ¬ (R.runsFile language = true ∧ code.text?.isSome = true))
    {problemId : ProblemId} (accepted : ∃ result,
      (evaluateCode R (inTurn tests family) language code problemId).run' 0 = .ok result ∧
        result.status = .accepted) : tests = [] := by
  rw [accepted_inTurn_iff] at accepted
  cases tests with
  | nil => rfl
  | cons test rest =>
    exfalso
    rcases executeCode_routes R (inTurn (test :: rest) family) language code with ⟨-, throws⟩ |
      ⟨-, runs, extension, files⟩ | ⟨-, -, stderr, answers⟩
    · rw [runTests, throws] at accepted
      cases accepted
    · have textless : code.text? = none := Option.not_isSome_iff_eq_none.mp fun text => unstarted ⟨runs, text⟩
      rw [runTests, files] at accepted
      simp only [inTurn, textless] at accepted
      cases accepted
    · rw [runTests, answers] at accepted
      cases accepted

end Accepted

/-- **`ACCEPTED` is sound unless a signal has ended a process.** For every list of tests and every family of
processes, whatever they write and however they terminate: that the status is `ACCEPTED` means that at every test
the process has exited with 0 and its normalised output is the normalised output expected, exactly if it is not that
every process has printed what is expected and has exited with 0 or was ended by a signal, and one of them was. -/
theorem accepted_sound_iff (R : Runtime) (tests : List TestCase) (family : ℕ → Child) (language code : JsVal)
    (problemId : ProblemId) :
    ((∃ result, (evaluateCode R (inTurn tests family) language code problemId).run' 0 = .ok result ∧
        result.status = .accepted) →
      ∀ number test, tests[number]? = some test → (family number).termination? = some (.exited 0) ∧
        normalize (some (family number).ended.stdout) = normalize test.expectedOutput) ↔
    ¬ (R.runsFile language = true ∧ code.text?.isSome = true ∧
      (∀ number test, tests[number]? = some test →
        ((family number).termination? = some (.exited 0) ∨
          ∃ signal, (family number).termination? = some (.signalled signal)) ∧
        normalize (some (family number).ended.stdout) = normalize test.expectedOutput) ∧
      ∃ number test signal, tests[number]? = some test ∧
        (family number).termination? = some (.signalled signal)) := by
  by_cases started : R.runsFile language = true ∧ code.text?.isSome = true
  · rw [accepted_started_iff started.1 started.2]
    simp only [outcomeOf_passed_iff, exitCode_eq_zero_iff]
    constructor
    · rintro sound ⟨-, -, passes, number, test, signal, listed, ended⟩
      have exited := (sound passes number test listed).1
      rw [ended] at exited
      cases exited
    · intro unsignalled passes number test listed
      obtain ⟨exited | ⟨signal, ended⟩, right⟩ := passes number test listed
      · exact ⟨exited, right⟩
      · exact absurd ⟨started.1, started.2, passes, number, test, signal, listed, ended⟩ unsignalled
  · refine iff_of_true ?_ fun all => started ⟨all.1, all.2.1⟩
    rintro ⟨result, evaluated, accepted⟩ number test listed
    rw [accepted_unstarted started ⟨result, evaluated, accepted⟩] at listed
    cases listed

/-- One test, at which 1 is expected. -/
def expectsOne : List TestCase := [⟨[], some ['1'], true⟩]

/-- A process that prints 1 and terminates. -/
def printsOne (termination : Termination) : Child := .ran [(.stdout, [0x31])] termination

/-- The status of a JavaScript program whose processes all print 1 and terminate so. -/
def statusOfOne (termination : Termination) : Except Err EvalStatus :=
  ((evaluateCode anyRuntime (inTurn expectsOne fun _ => printsOne termination) (.str "js".toList) (.str "x".toList)
    0).run' 0).map (·.status)

/-- **A process that a signal has ended is accepted.** -/
theorem signalled_accepted : statusOfOne (.signalled 9) = .ok .accepted ∧
    (printsOne (.signalled 9)).termination? ≠ some (.exited 0) ∧
    listen [] [] (printsOne (.signalled 9)).events = some ⟨['1'], [], 0⟩ ∧
    statusOfOne (.exited 0) = .ok .accepted ∧ statusOfOne (.exited 137) = .ok .runtimeError := by
  decide +kernel

/-- A process that exits with 0 is accepted as it should be. -/
theorem accepted_sound_exited : statusOfOne (.exited 0) = .ok .accepted ∧
    ∀ (number : ℕ) (test : TestCase), expectsOne[number]? = some test →
      normalize (some (printsOne (.exited 0)).ended.stdout) = normalize test.expectedOutput := by
  have accepted : (evaluateCode anyRuntime (inTurn expectsOne fun _ => printsOne (.exited 0)) (.str "js".toList)
      (.str "x".toList) 0).run' 0 = .ok (gradeOf 1 1) := by decide +kernel
  refine ⟨by rw [statusOfOne, accepted]; rfl, fun number test listed => ?_⟩
  have sound := (accepted_sound_iff anyRuntime expectsOne (fun _ => printsOne (.exited 0)) (.str "js".toList)
    (.str "x".toList) 0).mpr (by
      rintro ⟨-, -, -, _, _, _, -, signalled⟩
      cases signalled)
  exact (sound ⟨_, accepted, rfl⟩ number test listed).2

end SkillArena
