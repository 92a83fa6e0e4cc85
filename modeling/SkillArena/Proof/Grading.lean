/-
**Grades of one program.**

The judge grades a submission by the tests that pass, `code:submit` by the rounded score, and `code:run` looks at
the output alone.

* `statuses_agree_iff` — the status that is stored and sent is that of the judge exactly if there are tests and the
  score is not rounded to 0 or 100 (`VerdictKept`).
* `run_agrees_iff` — `code:run` and the judge agree exactly if no program prints what is expected and then exits
  with an error.
-/

import SkillArena.Proof.Retry
import SkillArena.Proof.Verdict

namespace SkillArena

open Async Expiring

/-! ### The backend with its judge -/

/-- **The backend with the judge it runs on**: nothing fails of itself, and the judge answers as its code does. -/
def judging (env : Env) (R : Runtime) (E : Executor (Except Err)) : Server signature World
  | .evaluateCode _ _ language code problemId, world, reply, world' =>
    reply = evaluateCode R E language code problemId ∧ world' = world
  | .executeCode language code stdin, world, reply, world' =>
    reply = executeCode R E language code stdin ∧ world' = world
  | op, world, reply, world' => unfailing env op world reply world'

section Judging

variable {env : Env} {R : Runtime} {E : Executor (Except Err)} {world : World} {language code : JsVal}

theorem judging_works (env : Env) (R : Runtime) (E : Executor (Except Err)) : Works env (judging env R E) where
  answers {op world world' reply} determined proceeds {reply' world''} := by
    cases op
    case evaluateCode => cases determined
    case executeCode => cases determined
    all_goals exact (unfailing_works env).answers determined proceeds

theorem judging_evaluate {matchId : MatchId} {user : UserId} {problemId : ProblemId}
    {post : Except Err EvalResult → World → Prop} :
    (Op.evaluateCode matchId user language code problemId).call.Ensures (judging env R E) world post ↔
      post (evaluateCode R E language code problemId) world := by
  refine ⟨fun ensures => ensures.2 _ _ ⟨rfl, rfl⟩, fun holds => ⟨⟨_, _, rfl, rfl⟩, ?_⟩⟩
  rintro _ _ ⟨rfl, rfl⟩
  exact holds

theorem judging_execute {stdin : Text} {post : Except Err Execution → World → Prop} :
    (Op.executeCode language code stdin).call.Ensures (judging env R E) world post ↔
      post (executeCode R E language code stdin) world := by
  refine ⟨fun ensures => ensures.2 _ _ ⟨rfl, rfl⟩, fun holds => ⟨⟨_, _, rfl, rfl⟩, ?_⟩⟩
  rintro _ _ ⟨rfl, rfl⟩
  exact holds

end Judging

/-! ### The grade of the judge -/

/-- **The grade**, from the counts. -/
def gradeOf (passed total : ℕ) : EvalResult where
  score := percentage passed total
  passed
  total
  status := if passed = total then .accepted else if passed = 0 then .wrongAnswer else .partialScore

section Grade

variable {R : Runtime} {E : Executor (Except Err)} {language code : JsVal}

/-- Over tests that neither throw nor crash, the verdict is the grade of those that pass. -/
theorem verdictOf_clean {outcomes : List Outcome} (clean : ∀ met ∈ outcomes, met = .passed ∨ met = .failed)
    (total passed : ℕ) :
    verdictOf total passed outcomes = .ok (gradeOf (passed + outcomes.count .passed) total) := by
  induction outcomes generalizing passed with
  | nil => rfl
  | cons met rest ih =>
    have later := ih fun other member => clean other (.tail _ member)
    rcases clean met (.head _) with rfl | rfl
    · rw [verdictOf, later, List.count_cons_self, Nat.add_right_comm, Nat.add_assoc]
    · rw [verdictOf, later, List.count_cons_of_ne (by decide)]

theorem shownError_clean {execute : Text → Except Err Execution} {tests : List TestCase}
    (clean : ∀ test ∈ tests, outcome execute test = .passed ∨ outcome execute test = .failed) :
    shownError execute tests = none := by
  induction tests with
  | nil => rfl
  | cons test rest ih =>
    have later := ih fun other member => clean other (.tail _ member)
    rcases clean test (.head _) with met | met
    · simp only [shownError, met, later]
    · simp only [shownError, met, later]

theorem evaluateCode_clean {tests : List TestCase}
    (clean : ∀ test ∈ tests, outcome (executeCode R E language code) test = .passed ∨
      outcome (executeCode R E language code) test = .failed) (problemId : ProblemId) :
    evaluateCode R (E.on tests) language code problemId =
      .ok (gradeOf ((tests.map (outcome (executeCode R E language code))).count .passed) tests.length) := by
  have counts := verdictOf_clean (List.forall_mem_map.mpr clean) tests.length 0
  rw [evaluateCode_on, runTests_eq, counts, shownError_clean clean, Nat.zero_add]
  rfl

/-- **The status meant**: `ACCEPTED` if every test has passed, `WRONG_ANSWER` if none of one or more has. -/
def statusOf (outcomes : List Outcome) : EvalStatus :=
  if ∀ met ∈ outcomes, .passed = met then .accepted
  else if .passed ∈ outcomes then .partialScore
  else .wrongAnswer

theorem gradeOf_status (outcomes : List Outcome) :
    (gradeOf (outcomes.count .passed) outcomes.length).status = statusOf outcomes := by
  unfold gradeOf statusOf
  simp only [List.count_eq_length, List.count_eq_zero, ite_not]

/-- Where the two statuses are the same. -/
def VerdictKept (passed total : ℕ) : Prop :=
  total ≠ 0 ∧ (passed = 0 ∨ passed = total ∨ total ≤ 200 * passed ∧ total < 200 * (total - passed))

section Percentage

variable {passed total : ℕ}

/-- The score is rounded to 100 from half a percent below. -/
theorem percentage_eq_hundred (most : passed ≤ total) (nonempty : total ≠ 0) :
    percentage passed total = .int 100 ↔ 200 * (total - passed) ≤ total := by
  have positive : (0 : ℚ) < total := by exact_mod_cast Nat.pos_of_ne_zero nonempty
  have least : (passed : ℚ) / total ≤ 1 := (div_le_one positive).mpr (by exact_mod_cast most)
  have below : (passed : ℚ) / total * 100 + 1 / 2 < 100 + 1 := by linarith
  have scaled : (100 : ℚ) ≤ passed / total * 100 + 1 / 2 ↔ 200 * (total : ℚ) ≤ 200 * passed + total := by
    rw [← sub_le_iff_le_add, div_mul_eq_mul_div, le_div_iff₀ positive]
    constructor
    · intro half
      linarith
    · intro half
      linarith
  have counted : 200 * (total : ℚ) ≤ 200 * passed + total ↔ 200 * total ≤ 200 * passed + total := by norm_cast
  rw [percentage, if_neg nonempty, JsNum.int.injEq, Int.floor_eq_iff]
  push_cast
  rw [and_iff_left below, scaled, counted]
  omega

/-- The score is rounded to 0 from below half a percent. -/
theorem percentage_gt_zero (nonempty : total ≠ 0) :
    (percentage passed total).gt (.int 0) = true ↔ total ≤ 200 * passed := by
  have positive : (0 : ℚ) < total := by exact_mod_cast Nat.pos_of_ne_zero nonempty
  have counted : (total : ℚ) ≤ 200 * passed ↔ total ≤ 200 * passed := by norm_cast
  rw [percentage, if_neg nonempty, JsNum.gt_int, decide_eq_true_eq, Int.floor_pos, ← counted,
    ← sub_le_iff_le_add, div_mul_eq_mul_div, le_div_iff₀ positive]
  constructor
  · intro half
    linarith
  · intro half
    linarith

/-- **The two statuses of a grade.** -/
theorem judgeStatus_grade_iff (most : passed ≤ total) :
    judgeStatus (gradeOf passed total).score = (gradeOf passed total).status ↔ VerdictKept passed total := by
  by_cases empty : total = 0
  · subst empty
    obtain rfl : passed = 0 := Nat.le_zero.mp most
    simp [VerdictKept, gradeOf, percentage, judgeStatus, JsNum.gt]
  · simp only [judgeStatus, gradeOf, percentage_eq_hundred most empty, percentage_gt_zero empty, VerdictKept]
    split_ifs
    all_goals simp only [true_iff, false_iff]; omega

end Percentage

theorem accepted_iff {total passed : ℕ} {outcomes : List Outcome} (most : passed + outcomes.length ≤ total) :
    (∃ verdict, verdictOf total passed outcomes = .ok verdict ∧ verdict.status = .accepted) ↔
      passed + outcomes.length = total ∧ ∀ met ∈ outcomes, met = .passed := by
  induction outcomes generalizing passed with
  | nil =>
    simp only [verdictOf, Except.ok.injEq, exists_eq_left', List.length_nil, List.not_mem_nil, false_implies,
      implies_true, and_true, Nat.add_zero]
    by_cases all : passed = total
    · simp [all]
    · rw [if_neg all]
      refine iff_of_false ?_ all
      split
      · rintro ⟨⟩
      · rintro ⟨⟩
  | cons met rest ih =>
    rw [List.length_cons] at most
    cases met with
    | threw err => simp [verdictOf]
    | crashed => simp [verdictOf]
    | passed =>
      rw [verdictOf, ih (by omega)]
      simp only [List.length_cons, List.forall_mem_cons, true_and]
      exact and_congr_left' (by omega)
    | failed =>
      rw [verdictOf, ih (by omega)]
      simp only [List.length_cons, List.forall_mem_cons, reduceCtorEq, false_and, and_false, iff_false]
      omega

theorem judged_accepted_iff (execute : Text → Except Err Execution) (tests : List TestCase) :
    (judged R (runTests execute tests.length 0 tests)).status = .accepted ↔
      ∀ test ∈ tests, outcome execute test = .passed := by
  have all := @accepted_iff tests.length 0 (tests.map (outcome execute)) (by simp)
  simp only [List.length_map, Nat.zero_add, true_and, List.forall_mem_map] at all
  rw [← all, runTests_eq]
  cases verdictOf tests.length 0 (tests.map (outcome execute)) with
  | error err => simp [Except.map, judged]
  | ok verdict => simp [Except.map, judged]

end Grade

/-! ### What is stored and sent -/

section Stored

variable {env : Env} {choice : Choice} {world world' : World} {op : Op} {reply : Except Err op.Reply}
  {matchId : MatchId} {user : UserId}

theorem submissions_of_closes (closes : op.closes matchId = true)
    (performed : op.perform env choice world = some (reply, world')) :
    world'.db.submissions = world.db.submissions := by
  cases reply with
  | error err => rw [perform_error performed]
  | ok value =>
    rcases db_frame performed with same | ⟨sql, rfl⟩ | ⟨transaction, rfl⟩
    · rw [same]
    · obtain ⟨pick, db, ran, rfl⟩ := perform_query_ok performed
      cases sql
      case insertSubmission => cases closes
      case recordVerdict => cases closes
      case completeMatch =>
        simp only [Query.exec] at ran
        split at ran
        · cases ran
          rfl
        · cases ran
      all_goals
        cases ran
        rfl
    · obtain ⟨db, ran, rfl⟩ := perform_transact_ok performed
      rw [withDb_db, run_submissions ran]

/-- **The verdict on a submission**: in its row, and sent to the player. -/
structure Graded (user : UserId) (matchId : MatchId) (result : EvalResult) (status : EvalStatus)
    (world : World) : Prop where
  stored : ∃ row, world.db.submissions matchId user = some row ∧ row.status = some status ∧
    row.testCasesPassed = result.passed ∧ row.testCasesTotal = result.total
  sent : (.sender user, .evaluationResult matchId result status) ∈ world.sent

theorem Graded.keep {result : EvalResult} {status : EvalStatus} (graded : Graded user matchId result status world)
    (rows : world'.db.submissions = world.db.submissions) (events : world.sent <+: world'.sent) :
    Graded user matchId result status world' :=
  ⟨rows ▸ graded.stored, events.subset graded.sent⟩

variable {server : Server signature World} {result : EvalResult}

/-- `code:submit` stores and sends the status of the score. -/
theorem afterEvaluation_graded (works : Works env server) (matchState : MatchState)
    (judged : result.status ≠ .judgeError) (entered : (world.db.submissions matchId user).isSome = true) :
    (afterEvaluation user matchId matchState result).Ensures server world
      fun _ => Graded user matchId result (judgeStatus result.score) := by
  obtain ⟨row, found⟩ := Option.isSome_iff_exists.mp entered
  unfold afterEvaluation
  rw [if_neg judged]
  refine works.set_bind.mpr ((works.query_bind rfl rfl).mpr (works.emit_bind.mpr (works.get_bind.mpr
    (works.get_bind.mpr ?_))))
  have graded : Graded user matchId result (judgeStatus result.score)
      (((world.withRedis (world.redis.write (.score matchId user) result.score (world.expiry 7200))).withDb
        (world.db.setSubmission matchId user ((world.db.submissions matchId user).map fun row =>
          { row with status := some (judgeStatus result.score), testCasesPassed := result.passed,
                     testCasesTotal := result.total, executionTimeMs := result.avgTimeMs }))).sends
        (.sender user) (.evaluationResult matchId result (judgeStatus result.score))) := by
    refine ⟨⟨{ row with status := some (judgeStatus result.score), testCasesPassed := result.passed,
                        testCasesTotal := result.total, executionTimeMs := result.avgTimeMs }, ?_, rfl, rfl, rfl⟩,
      by simp [World.sends]⟩
    simp [Db.setSubmission, found]
  split
  · refine (works.frame (R := fun before after : World =>
      after.db.submissions = before.db.submissions ∧ before.sent <+: after.sent) (fun _ => ⟨rfl, List.prefix_rfl⟩)
      (fun first second => ⟨second.1.trans first.1, first.2.trans second.2⟩) (fun _ => prompt_of_closes)
      (fun closes performed => ⟨submissions_of_closes closes performed, sent_mono performed⟩)
      (determineAndResolveWinner_closes matchId matchState) _).mono fun _ _ kept => ?_
    exact graded.keep kept.1 kept.2
  · exact works.emit_call.mpr (graded.keep rfl (List.prefix_append _ _))

end Stored

section Agreement

variable {env : Env} {R : Runtime} {E : Executor (Except Err)} {world : World} {user : UserId} {matchId : MatchId}
  {language code : JsVal} {matchState : MatchState} {startTs : ℕ} {problemId : ProblemId} {name source : Text}
  {tests : List TestCase}

theorem enter_isSome (db : Db) : ((db.enter matchId user name source).submissions matchId user).isSome = true := by
  unfold Db.enter
  split
  · assumption
  · simp [Db.setSubmission]

/-- **The status that is stored and sent is that of the judge exactly if the rounding allows**: for every problem
and every program that exits with 0 at every test, the judge returns the status meant, and `code:submit` stores and
sends the one of the rounded score; they are the same exactly if there are tests and, where some pass and some do
not, the share of those that pass is at least half a percent and less than 99.5 percent. -/
theorem statuses_agree_iff (env : Env) (R : Runtime) (E : Executor (Except Err))
    (clean : ∀ test ∈ tests, outcome (executeCode R E language code) test = .passed ∨
      outcome (executeCode R E language code) test = .failed)
    (admits : Admits world matchId matchState startTs problemId) (storable : Storable language code name source)
    (unlocked : world.redis.read world.now (.submitted matchId user) = none) :
    ∃ result, evaluateCode R (E.on tests) language code problemId = .ok result ∧ result.total = tests.length ∧
      result.passed = (tests.map (outcome (executeCode R E language code))).count .passed ∧
      result.status = statusOf (tests.map (outcome (executeCode R E language code))) ∧
      (codeSubmit user matchId language code).Ensures (judging env R (E.on tests)) world
        (fun _ => Graded user matchId result (judgeStatus result.score)) ∧
      (judgeStatus result.score = result.status ↔ VerdictKept result.passed result.total) := by
  have evaluated := evaluateCode_clean clean problemId
  have status := gradeOf_status (tests.map (outcome (executeCode R E language code)))
  rw [List.length_map] at status
  have most : (tests.map (outcome (executeCode R E language code))).count .passed ≤ tests.length :=
    List.count_le_length.trans_eq (List.length_map _)
  refine ⟨_, evaluated, rfl, rfl, status, ?_, judgeStatus_grade_iff most⟩
  have works := judging_works env R (E.on tests)
  refine (codeSubmit_admitted works admits storable unlocked).mpr ?_
  refine (Task.ensures_attempt _ _ _ _).mpr ((Task.ensures_bind _ _ _ _).mpr (judging_evaluate.mpr ?_))
  rw [evaluated]
  have judged : (gradeOf ((tests.map (outcome (executeCode R E language code))).count .passed)
      tests.length).status ≠ .judgeError := by
    rw [status]
    unfold statusOf
    split_ifs
    all_goals exact nofun
  refine (afterEvaluation_graded works matchState judged (enter_isSome world.db)).mono ?_
  rintro (err | value) world' graded
  · exact works.emit_call.mpr (graded.keep rfl (List.prefix_append _ _))
  · exact graded

end Agreement

/-- A program that prints its input, whatever it is sent as. -/
def echoing : Executor (Except Err) where
  executeFile _ _ stdin := .ok ⟨stdin, [], 0⟩
  testCases _ := .ok none

/-- Tests that this program passes, and one that it fails. -/
def passesBut (count : ℕ) : List TestCase :=
  List.replicate count ⟨"1".toList, some "1".toList, true⟩ ++ [⟨"2".toList, some "1".toList, true⟩]

/-- Player 1 submits, and is graded by the counts. -/
def submitsGraded (passed total : ℕ) : List BackendMove :=
  .start oneSubmits :: List.replicate 13 (.step 0 .proceed) ++ .step 0 (.verdict (gradeOf passed total)) ::
    List.replicate 6 (.step 0 .proceed)

/-- **A failed test is stored and sent as `ACCEPTED`**: the judge says `PARTIAL` of 199 tests of 200. -/
theorem failure_stored_accepted :
    evaluateCode anyRuntime (echoing.on (passesBut 199)) (.str "js".toList) (.str "x".toList) 0 =
      .ok (gradeOf 199 200) ∧ (gradeOf 199 200).status = .partialScore ∧
    ∃ c, Reaches (backend sampleEnv) (fun _ move => judgedBy 7 1 2 move = true) ⟨matchedOnce, []⟩ c ∧
      (c.state.db.submissions 7 1).bind (·.status) = some .accepted ∧
      (.sender 1, .evaluationResult 7 (gradeOf 199 200) .accepted) ∈ c.state.sent := by
  obtain ⟨c, run, ended⟩ := Machine.exists_run (backend sampleEnv) (fun _ move => judgedBy 7 1 2 move)
    ⟨matchedOnce, []⟩ (submitsGraded 199 200) (fun c =>
      (c.state.db.submissions 7 1).bind (·.status) = some .accepted ∧
      (.sender 1, .evaluationResult 7 (gradeOf 199 200) .accepted) ∈ c.state.sent) (by decide +kernel)
  obtain ⟨stored, sent⟩ := of_decide_eq_true ended
  exact ⟨by decide +kernel, by decide, c, run, stored, sent⟩

theorem statuses_agree_half : ∃ result,
    evaluateCode anyRuntime (echoing.on (passesBut 1)) (.str "js".toList) (.str "x".toList) 0 = .ok result ∧
    judgeStatus result.score = result.status ∧
    (codeSubmit 1 7 (.str "js".toList) (.str "x".toList)).Ensures
      (judging sampleEnv anyRuntime (echoing.on (passesBut 1))) matchedOnce
      (fun _ => Graded 1 7 result (judgeStatus result.score)) := by
  have problem : (matchedOnce.db.matches_ 7).bind (·.problemId) = some 0 := by decide +kernel
  have admits : Admits matchedOnce 7 (openState 7) 0 0 := ⟨rfl, rfl, rfl, rfl, by decide, problem⟩
  have storable : Storable (.str "js".toList) (.str "x".toList) "js".toList "x".toList := ⟨rfl, rfl, by decide⟩
  have clean : ∀ test ∈ passesBut 1,
      outcome (executeCode anyRuntime echoing (.str "js".toList) (.str "x".toList)) test = .passed ∨
      outcome (executeCode anyRuntime echoing (.str "js".toList) (.str "x".toList)) test = .failed := by
    decide +kernel
  obtain ⟨result, evaluated, total, passed, -, graded, agree⟩ :=
    statuses_agree_iff sampleEnv anyRuntime echoing clean admits storable rfl
  refine ⟨result, evaluated, agree.mpr ?_, graded⟩
  have half : (passesBut 1).length = 2 ∧ ((passesBut 1).map
      (outcome (executeCode anyRuntime echoing (.str "js".toList) (.str "x".toList)))).count .passed = 1 := by
    decide +kernel
  rw [total, passed, half.1, half.2]
  unfold VerdictKept
  decide

/-! ### Sample runs -/

section Samples

variable (execute : Text → Except Err Execution)

/-- The program prints what is expected, however it exits. -/
def printsExpected (testCase : TestCase) : Bool :=
  match execute testCase.input with
  | .ok execution => normalize (some execution.stdout) = normalize testCase.expectedOutput
  | .error _ => false

/-- One line of `code:run`, where no time passes. -/
def sampleResult (index : ℕ) (testCase : TestCase) : RunResult :=
  match execute testCase.input with
  | .ok execution =>
    { index
      input := testCase.input
      expected := some (normalize testCase.expectedOutput)
      actual := normalize (some execution.stdout)
      passed := normalize (some execution.stdout) = normalize testCase.expectedOutput
      error := if execution.stderr = [] then none else some (.text execution.stderr)
      timeMs := 0 }
  | .error err => ⟨index, testCase.input, testCase.expectedOutput, [], false, some (.message err), 0⟩

def sampleResults : ℕ → List TestCase → List RunResult
  | _, [] => []
  | index, testCase :: rest => sampleResult execute index testCase :: sampleResults (index + 1) rest

variable {execute}

theorem sampleResult_passed (index : ℕ) (testCase : TestCase) :
    (sampleResult execute index testCase).passed = printsExpected execute testCase := by
  unfold sampleResult printsExpected
  cases execute testCase.input with
  | error err => rfl
  | ok execution => rfl

theorem sampleResults_passed (index : ℕ) (tests : List TestCase) :
    (sampleResults execute index tests).map (·.passed) = tests.map (printsExpected execute) := by
  induction tests generalizing index with
  | nil => rfl
  | cons test rest ih => rw [sampleResults, List.map_cons, List.map_cons, sampleResult_passed, ih]

theorem all_passed_iff (index : ℕ) (tests : List TestCase) :
    ((sampleResults execute index tests).filter (·.passed)).length = (sampleResults execute index tests).length ↔
      ∀ test ∈ tests, printsExpected execute test = true := by
  rw [List.length_filter_eq_length_iff]
  have lines : (sampleResults execute index tests).map (·.passed) = tests.map (printsExpected execute) :=
    sampleResults_passed index tests
  constructor
  · intro all test member
    have listed : printsExpected execute test ∈ (sampleResults execute index tests).map (·.passed) :=
      lines ▸ List.mem_map_of_mem member
    obtain ⟨line, inside, same⟩ := List.mem_map.mp listed
    exact same ▸ all line inside
  · intro all line member
    have listed : line.passed ∈ tests.map (printsExpected execute) := lines ▸ List.mem_map_of_mem member
    obtain ⟨test, inside, same⟩ := List.mem_map.mp listed
    exact same ▸ all test inside

theorem passed_iff (testCase : TestCase) : outcome execute testCase = .passed ↔
    printsExpected execute testCase = true ∧ outcome execute testCase ≠ .crashed := by
  unfold outcome printsExpected
  cases execute testCase.input with
  | error err => simp
  | ok execution =>
    dsimp only
    split_ifs with failed right
    · simp
    · simp [right]
    · simp [right]

end Samples

section Runs

variable {env : Env} {R : Runtime} {E : Executor (Except Err)} {world : World} {user : UserId} {matchId : MatchId}
  {language code : JsVal} {matchState : MatchState} {startTs : ℕ} {problemId : ProblemId} {tests : List TestCase}

theorem runSample_judging (index : ℕ) (testCase : TestCase) {post : Except Err RunResult → World → Prop} :
    (runSample language code index testCase).Ensures (judging env R E) world post ↔
      post (.ok (sampleResult (executeCode R E language code) index testCase)) world := by
  have works := judging_works env R E
  refine works.dateNow_bind.trans ((Task.ensures_attempt _ _ _ _).trans ((Task.ensures_bind _ _ _ _).trans
    (judging_execute.trans ?_)))
  unfold sampleResult
  cases executeCode R E language code testCase.input with
  | error err => exact Iff.rfl
  | ok execution =>
    refine works.dateNow_bind.trans ?_
    rw [Nat.sub_self]
    exact Iff.rfl

/-- The loop of `code:run`, by induction on the tests that are left. -/
theorem runSamples_judging (index : ℕ) (tests : List TestCase) {post : Except Err (List RunResult) → World → Prop} :
    (runSamples language code index tests).Ensures (judging env R E) world post ↔
      post (.ok (sampleResults (executeCode R E language code) index tests)) world := by
  induction tests generalizing index post with
  | nil => exact Iff.rfl
  | cons test rest ih =>
    refine (Task.ensures_bind _ _ _ _).trans ((runSample_judging index test).trans ?_)
    exact (Task.ensures_bind _ _ _ _).trans ((ih (index + 1)).trans Iff.rfl)

/-- **`code:run` by itself**, of a match in progress. -/
theorem codeRun_judging (admits : Admits world matchId matchState startTs problemId)
    (found : (world.db.problems.find? (·.id == problemId)).map (·.testCases) = some tests)
    (samples : publicTestCases tests ≠ []) {post : Except Err Unit → World → Prop} :
    (codeRun user matchId language code).Ensures (judging env R E) world post ↔
      post (.ok ()) ((world.sends (.sender user) (.runStarted matchId)).sends (.sender user) (.runResult matchId
        (sampleResults (executeCode R E language code) 1 (publicTestCases tests))
        ((sampleResults (executeCode R E language code) 1 (publicTestCases tests)).filter (·.passed)).length
        (sampleResults (executeCode R E language code) 1 (publicTestCases tests)).length)) := by
  have works := judging_works env R E
  have read : (Query.testCasesOfMatch matchId).exec 0 world.db = .ok (some tests, world.db) := by
    simp only [Query.exec, admits.problem, Option.bind_some, found]
  refine (Task.ensures_attempt _ _ _ _).trans (works.get_bind.trans ?_)
  rw [admits.state]
  dsimp only
  rw [if_neg (not_not.mpr admits.inProgress), works.getMatchTimer_bind, admits.timer]
  refine works.emit_bind.trans (Iff.trans (works.query_bind rfl read) ?_)
  dsimp only
  rw [if_neg samples]
  exact (Task.ensures_bind _ _ _ _).trans ((runSamples_judging 1 _).trans works.emit_call)

/-- **`code:run` and the judge agree exactly if nothing is right and exits with an error.** For a problem with
public tests only, every language, code and executor: each test gets the same verdict on both paths exactly if no
test is met by the right output and an error, and "all passed" is the same as `ACCEPTED` exactly if it is not that
all tests are met by the right output and one of them by an error. -/
theorem run_agrees_iff (env : Env) (R : Runtime) (E : Executor (Except Err)) (language code : JsVal)
    (nonempty : tests ≠ []) (samples : ∀ test ∈ tests, test.isPublic = true)
    (admits : Admits world matchId matchState startTs problemId)
    (found : (world.db.problems.find? (·.id == problemId)).map (·.testCases) = some tests) :
    ∃ result, evaluateCode R (E.on tests) language code problemId = .ok result ∧
      (codeRun user matchId language code).Ensures (judging env R (E.on tests)) world fun _ world' =>
        ∃ results passedCount totalCount, world'.sent = world.sent ++ [(.sender user, .runStarted matchId),
            (.sender user, .runResult matchId results passedCount totalCount)] ∧
          (results.map (·.passed) =
              tests.map (fun test => decide (outcome (executeCode R E language code) test = .passed)) ↔
            ∀ test ∈ tests, ¬ (printsExpected (executeCode R E language code) test = true ∧
              outcome (executeCode R E language code) test = .crashed)) ∧
          ((passedCount = totalCount ↔ result.status = .accepted) ↔
            ¬ ((∀ test ∈ tests, printsExpected (executeCode R E language code) test = true) ∧
              ∃ test ∈ tests, outcome (executeCode R E language code) test = .crashed)) := by
  have shown : publicTestCases tests = tests := List.filter_eq_self.mpr samples
  refine ⟨_, evaluateCode_on problemId tests, (codeRun_judging admits found (shown.symm ▸ nonempty)).mpr ?_⟩
  have same : executeCode R (E.on tests) language code = executeCode R E language code := rfl
  rw [shown, same]
  refine ⟨_, _, _, List.append_assoc _ _ _, ?_, ?_⟩
  · rw [sampleResults_passed, List.map_inj_left]
    refine forall₂_congr fun test _ => ?_
    by_cases prints : printsExpected (executeCode R E language code) test = true
    · simp [passed_iff, prints]
    · simp [passed_iff, prints]
  · rw [all_passed_iff, judged_accepted_iff]
    have passes : (∀ test ∈ tests, outcome (executeCode R E language code) test = .passed) ↔
        (∀ test ∈ tests, printsExpected (executeCode R E language code) test = true) ∧
          ¬ ∃ test ∈ tests, outcome (executeCode R E language code) test = .crashed := by
      simp only [passed_iff, not_exists, not_and, forall_and]
    rw [passes]
    exact iff_self_and.trans not_and.symm

end Runs

/-- A program that prints its input and exits with an error. -/
def echoingFailure : Executor (Except Err) where
  executeFile _ _ stdin := .ok ⟨stdin, [], 1⟩
  testCases _ := .ok none

/-- A problem with one test, which is public. -/
def onePublicTest : Problem :=
  { id := 0, title := "", slug := "", description := "", difficulty := "easy", category := "",
    testCases := [⟨"1".toList, some "1".toList, true⟩] }

/-- Match 7, with this problem. -/
def matchedOnProblem : World := matchedOnce.withDb { matchedOnce.db with problems := [onePublicTest] }

/-- **All sample tests passed, and the judge says `RUNTIME_ERROR`**: the program prints what is expected and exits
with an error. -/
theorem sample_passes_judge_fails :
    executeCode anyRuntime echoingFailure (.str "js".toList) (.str "x".toList) "1".toList =
      .ok ⟨"1".toList, [], 1⟩ ∧
    (evaluateCode anyRuntime (echoingFailure.on onePublicTest.testCases) (.str "js".toList) (.str "x".toList) 0).map
      (·.status) = .ok .runtimeError ∧
    ∃ c results, Reaches (backend sampleEnv) (fun _ _ => True) ⟨matchedOnProblem, []⟩ c ∧
      c.state.sent.getLast? = some (.sender 1, .runResult 7 results 1 1) := by
  obtain ⟨c, run, ended⟩ := Machine.exists_run (backend sampleEnv) (fun _ _ => true) ⟨matchedOnProblem, []⟩
    (.start (.codeRun 1 7 (.str "js".toList) (.str "x".toList)) :: List.replicate 7 (.step 0 .proceed) ++
      .step 0 (.executed ⟨"1".toList, [], 1⟩) :: List.replicate 2 (.step 0 .proceed))
    (fun c => c.state.sent.getLast? = some (.sender 1, .runResult 7
      [⟨1, "1".toList, some "1".toList, "1".toList, true, none, 0⟩] 1 1)) (by decide +kernel)
  exact ⟨by decide +kernel, by decide +kernel, c, _, run.mono fun _ _ _ => trivial, of_decide_eq_true ended⟩

/-- A program that exits with 0 is graded alike. -/
theorem run_agrees_echoing : ∃ result,
    evaluateCode anyRuntime (echoing.on onePublicTest.testCases) (.str "js".toList) (.str "x".toList) 0 =
      .ok result ∧
    (codeRun 1 7 (.str "js".toList) (.str "x".toList)).Ensures
      (judging sampleEnv anyRuntime (echoing.on onePublicTest.testCases)) matchedOnProblem fun _ world' =>
        ∃ results passedCount totalCount, world'.sent = matchedOnProblem.sent ++ [(.sender 1, .runStarted 7),
            (.sender 1, .runResult 7 results passedCount totalCount)] ∧
          (passedCount = totalCount ↔ result.status = .accepted) := by
  have problem : (matchedOnProblem.db.matches_ 7).bind (·.problemId) = some 0 := by decide +kernel
  have admits : Admits matchedOnProblem 7 (openState 7) 0 0 := ⟨rfl, rfl, rfl, rfl, by decide, problem⟩
  have found : (matchedOnProblem.db.problems.find? (·.id == 0)).map (·.testCases) =
      some onePublicTest.testCases := by
    decide +kernel
  have exits : ¬ ∃ test ∈ onePublicTest.testCases,
      outcome (executeCode anyRuntime echoing (.str "js".toList) (.str "x".toList)) test = .crashed := by
    decide +kernel
  obtain ⟨result, evaluated, runs⟩ := run_agrees_iff sampleEnv anyRuntime echoing (.str "js".toList)
    (.str "x".toList) (by decide) (by decide) admits found
  refine ⟨result, evaluated, runs.mono ?_⟩
  rintro _ world' ⟨results, passedCount, totalCount, sent, -, agree⟩
  exact ⟨results, passedCount, totalCount, sent, agree.mpr fun both => exits both.2⟩

end SkillArena
