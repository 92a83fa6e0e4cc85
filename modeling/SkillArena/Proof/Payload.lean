/-
**Payloads the judge cannot take.**

`code:submit` hands `language` and `code` to the judge as they come. `language?.toLowerCase()` throws on a number, a
Boolean or an object, and `writeFileSync` on code that is no string; `evaluateCode` answers every exception with
`JUDGE_ERROR`, and `code:submit` refunds both players of a match that gets one (`payload_refunds_match`).

* `Runtime.refuses` — the payloads at which an execution throws.
* `judge_error_iff` — over every interleaving of calls of the judge, these are the only ones that get a
  `JUDGE_ERROR`; and a match is refunded for an evaluation error by no other.
-/

import SkillArena.Proof.Executor
import SkillArena.Proof.Grading

namespace SkillArena

open Async

/-- `language?.toLowerCase()` is a `TypeError`. -/
def JsVal.nameless : JsVal → Bool
  | bool _ | num _ | object => true
  | _ => false

/-- The language is one whose code is written to a file. -/
def Runtime.runsFile (R : Runtime) : JsVal → Bool
  | .str name =>
    name.map Char.toLower ∈ ["javascript".toList, "js".toList] ||
      (name.map Char.toLower ∈ ["python".toList, "python3".toList, "py".toList] && R.python)
  | _ => false

theorem runsFile_of_nameless {R : Runtime} {language : JsVal} (nameless : language.nameless = true) :
    R.runsFile language = false := by
  cases language with
  | str name => cases nameless
  | undefined => rfl
  | null => rfl
  | bool value => rfl
  | num value => rfl
  | object => rfl

/-- **The payloads at which an execution throws.** -/
def Runtime.refuses (R : Runtime) (language code : JsVal) : Bool :=
  language.nameless || (R.runsFile language && code.text?.isNone)

/-! ### One execution -/

section Execution

variable {m : Type → Type} [Monad m] [MonadExceptOf Err m] {R : Runtime} {E : Executor m} {language code : JsVal}

/-- **Where `executeCode` sends a payload**, over any executor; what is answered at once is an error and no output.
-/
theorem executeCode_routes (R : Runtime) (E : Executor m) (language code : JsVal) :
    (language.nameless = true ∧ ∀ stdin, executeCode R E language code stdin = throw Err.typeError) ∨
    (language.nameless = false ∧ R.runsFile language = true ∧ ∃ extension,
      ∀ stdin, executeCode R E language code stdin = E.executeFile extension code stdin) ∨
    (language.nameless = false ∧ R.runsFile language = false ∧ ∃ stderr,
      ∀ stdin, executeCode R E language code stdin = pure ⟨[], stderr, 1⟩) := by
  cases language with
  | str name =>
    by_cases script : name.map Char.toLower ∈ ["javascript".toList, "js".toList]
    · have file : R.runsFile (.str name) = true := by
        rw [Runtime.runsFile, decide_eq_true script, Bool.true_or]
      exact .inr (.inl ⟨rfl, file, .js, fun stdin => if_pos script⟩)
    · by_cases python : name.map Char.toLower ∈ ["python".toList, "python3".toList, "py".toList]
      · have file : R.runsFile (.str name) = R.python := by
          rw [Runtime.runsFile, decide_eq_false script, decide_eq_true python, Bool.false_or, Bool.true_and]
        cases present : R.python with
        | true =>
          refine .inr (.inl ⟨rfl, file.trans present, .py, fun stdin => ?_⟩)
          exact (if_neg script).trans ((if_pos python).trans (if_pos present))
        | false =>
          refine .inr (.inr ⟨rfl, file.trans present, "Python runtime unavailable".toList, fun stdin => ?_⟩)
          exact (if_neg script).trans ((if_pos python).trans (if_neg (Bool.eq_false_iff.mp present)))
      · have file : R.runsFile (.str name) = false := by
          rw [Runtime.runsFile, decide_eq_false script, decide_eq_false python, Bool.false_or, Bool.false_and]
        exact .inr (.inr ⟨rfl, file, _, fun stdin => (if_neg script).trans (if_neg python)⟩)
  | undefined => exact .inr (.inr ⟨rfl, rfl, _, fun _ => rfl⟩)
  | null => exact .inr (.inr ⟨rfl, rfl, _, fun _ => rfl⟩)
  | bool value => exact .inl ⟨rfl, fun _ => rfl⟩
  | num value => exact .inl ⟨rfl, fun _ => rfl⟩
  | object => exact .inl ⟨rfl, fun _ => rfl⟩

theorem executeCode_cases (R : Runtime) (E : Executor m) (language code : JsVal) :
    (language.nameless = true ∧ ∀ stdin, executeCode R E language code stdin = throw Err.typeError) ∨
    (language.nameless = false ∧ R.runsFile language = true ∧ ∃ extension,
      ∀ stdin, executeCode R E language code stdin = E.executeFile extension code stdin) ∨
    (language.nameless = false ∧ R.runsFile language = false ∧ ∃ execution,
      ∀ stdin, executeCode R E language code stdin = pure execution) := by
  refine (executeCode_routes R E language code).imp_right (Or.imp_right ?_)
  rintro ⟨named, other, stderr, answers⟩
  exact ⟨named, other, _, answers⟩

theorem executeCode_refused (strict : ∀ extension stdin, code.text? = none →
    E.executeFile extension code stdin = throw Err.typeError) (refused : R.refuses language code = true)
    (stdin : Text) : executeCode R E language code stdin = throw Err.typeError := by
  unfold Runtime.refuses at refused
  rcases executeCode_cases R E language code with ⟨-, throws⟩ | ⟨named, file, extension, files⟩ | ⟨named, other, -⟩
  · exact throws stdin
  · rw [named, file, Bool.false_or, Bool.true_and, Option.isNone_iff_eq_none] at refused
    rw [files stdin, strict extension stdin refused]
  · rw [named, other] at refused
    cases refused

/-- A payload that is not refused is a text in a file, or is answered at once. -/
theorem executeCode_taken (taken : R.refuses language code = false) :
    (∃ extension text, code.text? = some text ∧
      ∀ stdin, executeCode R E language code stdin = E.executeFile extension code stdin) ∨
    ∃ execution, ∀ stdin, executeCode R E language code stdin = pure execution := by
  unfold Runtime.refuses at taken
  rcases executeCode_cases R E language code with ⟨nameless, -⟩ | ⟨named, file, extension, files⟩ |
    ⟨-, -, execution, answers⟩
  · rw [nameless] at taken
    cases taken
  · rw [named, file, Bool.false_or, Bool.true_and, Option.isNone_eq_false_iff] at taken
    obtain ⟨text, given⟩ := Option.isSome_iff_exists.mp taken
    exact .inl ⟨extension, text, given, files⟩
  · exact .inr ⟨execution, answers⟩

end Execution

/-! ### A call among others -/

/-- **What a call may settle with.** The test cases are those of the problem; nothing else is assumed of the
replies, so that the other calls may do to the files what they like. -/
def settling (R : Runtime) (meets : Job → Answer → Prop) : Contract execSignature where
  Phase := Unit
  may _
    | .settle job answer => meets job answer
    | _ => True
  answers _
    | .testCases problemId, reply => reply = R.problems problemId
    | _, _ => True
  after _ _ _ := ()

/-- **What every call settles with, the calls have settled with**, in every run of the judge. -/
theorem settled_meets {R : Runtime} {meets : Job → Answer → Prop}
    (keeps : ∀ job, (Job.program R job).Keeps (settling R meets) () fun _ _ => True)
    {c₀ c : Config execSignature Sandbox Job} (idle : c₀.threads = []) (unsettled : c₀.state.settled = [])
    (run : Reaches (judge R) (fun _ _ => True) c₀ c) : ∀ entry ∈ c.state.settled, meets entry.1 entry.2 := by
  let discipline : Discipline (judge R) (fun _ _ => True) (settling R meets) :=
    { enter := fun _ => ()
      finished := fun _ => True
      Inv := fun sandbox _ => ∀ entry ∈ sandbox.settled, meets entry.1 entry.2
      keeps := fun _ job _ => keeps job
      start := fun _ _ _ _ _ met _ arrived => by
        cases arrived
        exact met
      step := fun c phases index choice event op next phase reply state _ met _ _ _ may performed => by
        obtain ⟨rfl, rfl⟩ : (op.perform R c.state).1 = reply ∧ (op.perform R c.state).2 = state :=
          Prod.ext_iff.mp (Option.some.inj performed)
        cases op with
        | testCases problemId => exact ⟨rfl, fun _ => nofun, met⟩
        | settle job answer =>
          refine ⟨trivial, fun _ => nofun, fun entry member => ?_⟩
          rcases List.mem_append.mp member with before | last
          · exact met entry before
          · cases List.mem_singleton.mp last
            exact may
        | _ => exact ⟨trivial, fun _ => nofun, met⟩
      outside := fun _ _ _ _ _ met _ acted => by
        cases acted
        exact met }
  have initial : discipline.Inv c₀.state [] := by
    intro entry member
    rw [unsettled] at member
    cases member
  obtain ⟨_, _, met⟩ := discipline.holds ⟨[], tracks_nil idle, initial⟩ run
  exact met

section Call

variable {R : Runtime} {meets : Job → Answer → Prop} {language code : JsVal}

/-- An execution that is not refused ends with a result, whatever the files hold. -/
theorem executeCode_ends (taken : R.refuses language code = false) (stdin : Text) :
    (executeCode R (processes R) language code stdin).Keeps (settling R meets) ()
      fun result _ => ∃ execution, result = .ok execution := by
  rcases @executeCode_taken ExecTask _ _ R (processes R) language code taken with
    ⟨extension, text, given, files⟩ | ⟨execution, answers⟩
  · rw [files stdin]
    simp only [processes, given]
    exact ⟨trivial, fun file _ => ⟨trivial, fun source _ => ⟨trivial, fun _ _ => ⟨_, rfl⟩⟩⟩⟩
  · rw [answers stdin]
    exact ⟨execution, rfl⟩

theorem runTests_ends (taken : R.refuses language code = false) (total : ℕ) (tests : List TestCase) (passed : ℕ) :
    (runTests (executeCode R (processes R) language code) total passed tests).Keeps (settling R meets) ()
      fun result _ => ∃ verdict, result = .ok verdict ∧ verdict.status ≠ .judgeError := by
  induction tests generalizing passed with
  | nil =>
    refine ⟨_, rfl, ?_⟩
    dsimp only
    split_ifs
    all_goals exact nofun
  | cons test rest ih =>
    refine (Task.keeps_bind _ _ _ _).mpr ((executeCode_ends taken test.input).mono ?_)
    rintro _ _ ⟨execution, rfl⟩
    dsimp only
    split
    · exact ⟨_, rfl, nofun⟩
    · exact ih _

theorem processes_strict (extension : Extension) (stdin : Text) (textless : code.text? = none) :
    (processes R).executeFile extension code stdin = throw Err.typeError := by
  simp only [processes, textless]

/-- **An evaluation fails exactly if it is refused**, whatever the files hold. -/
theorem evaluateCode_settles (problemId : ProblemId) :
    (evaluateCode R (processes R) language code problemId).Keeps (settling R meets) () fun result _ =>
      ∀ tests, R.problems problemId = .ok (some tests) → ∃ verdict, result = .ok verdict ∧
        (verdict.status = .judgeError ↔ tests ≠ [] ∧ R.refuses language code = true) := by
  refine (Task.keeps_attempt _ _ _ _).mpr ((Task.keeps_bind _ _ _ _).mpr ⟨trivial, fun reply answer => ?_⟩)
  have answered : reply = R.problems problemId := answer
  rcases reply with err | _ | tests
  · intro tests found
    cases answered.trans found
  · intro tests found
    cases answered.trans found
  · have own : ∀ tests', R.problems problemId = .ok (some tests') → tests' = tests := by
      intro tests' found
      cases answered.trans found
      rfl
    cases refused : R.refuses language code with
    | false =>
      refine (runTests_ends refused tests.length tests 0).mono ?_
      rintro _ _ ⟨verdict, rfl, judged⟩ tests' found
      exact ⟨verdict, rfl, iff_of_false judged fun both => by cases both.2⟩
    | true =>
      cases tests with
      | nil =>
        intro tests' found
        obtain rfl := own tests' found
        exact ⟨_, rfl, iff_of_false (by simp) fun both => both.1 rfl⟩
      | cons test rest =>
        -- the first test throws, and the exception is the verdict
        have throws := @executeCode_refused ExecTask _ _ R (processes R) language code
          (fun extension stdin => processes_strict extension stdin) refused test.input
        have thrown : runTests (executeCode R (processes R) language code) (test :: rest).length 0 (test :: rest) =
            throw Err.typeError := by
          simp only [runTests, throws]
          rfl
        show Task.Keeps _ _ (runTests _ (test :: rest).length 0 (test :: rest)) _
        rw [thrown]
        intro tests' found
        obtain rfl := own tests' found
        exact ⟨_, rfl, iff_of_true rfl ⟨List.cons_ne_nil _ _, rfl⟩⟩

end Call

/-- A submission settles with `JUDGE_ERROR` exactly if its payload is refused at some test. -/
def failsIfRefused (R : Runtime) : Job → Answer → Prop
  | .submission language code problemId, answer => ∀ tests, R.problems problemId = .ok (some tests) →
      ∃ verdict, answer = .verdict (.ok verdict) ∧
        (verdict.status = .judgeError ↔ tests ≠ [] ∧ R.refuses language code = true)
  | .execution .., _ => True

theorem program_settles (R : Runtime) (job : Job) :
    (job.program R).Keeps (settling R (failsIfRefused R)) () fun _ _ => True := by
  refine (Task.keeps_run _ _ _).mpr ((Task.keeps_bind _ _ _ _).mpr ?_)
  cases job with
  | submission language code problemId =>
    refine (Task.keeps_bind _ _ _ _).mpr ((Task.keeps_settled _ _ _).mpr ((evaluateCode_settles problemId).mono ?_))
    intro result _ settles
    refine ⟨fun tests found => ?_, fun _ _ => trivial⟩
    obtain ⟨verdict, rfl, exactly⟩ := settles tests found
    exact ⟨verdict, rfl, exactly⟩
  | execution language code stdin =>
    refine (Task.keeps_bind _ _ _ _).mpr ((Task.keeps_settled _ _ _).mpr ?_)
    cases refused : R.refuses language code with
    | false => exact (executeCode_ends refused stdin).mono fun _ _ _ => ⟨trivial, fun _ _ => trivial⟩
    | true =>
      have throws := @executeCode_refused ExecTask _ _ R (processes R) language code
        (fun extension stdin => processes_strict extension stdin) refused stdin
      rw [throws]
      exact ⟨trivial, fun _ _ => trivial⟩

/-! ### The match of a submission -/

/-- What the players of a match are told when it is refunded for a `JUDGE_ERROR`. -/
def evaluationError (matchId : MatchId) : Room × Event :=
  (.matchRoom matchId, .matchError "Evaluation error. Both refunded.")

/-- Events were sent, and none of them is this one. -/
def SentBut (event : Room × Event) (before after : World) : Prop :=
  ∃ more, after.sent = before.sent ++ more ∧ event ∉ more

section Match

variable {env : Env} {choice : Choice} {world world' : World} {matchId : MatchId} {op : Op}
  {reply : Except Err op.Reply}

theorem SentBut.trans {event : Room × Event} {a b c : World} (first : SentBut event a b)
    (second : SentBut event b c) :
    SentBut event a c := by
  obtain ⟨more, sent, other⟩ := first
  obtain ⟨more', sent', other'⟩ := second
  refine ⟨more ++ more', ?_, List.not_mem_append other other'⟩
  rw [sent', sent, List.append_assoc]

/-- After a verdict that counts nobody is told of an evaluation error. -/
theorem sentBut_of_grades (grades : op.grades matchId = true)
    (performed : op.perform env choice world = some (reply, world')) (played : MatchId) :
    SentBut (evaluationError played) world world' := by
  rcases sent_frame performed with same | ⟨room, event, rfl, more⟩
  · exact ⟨[], by rw [same, List.append_nil], List.not_mem_nil⟩
  · refine ⟨_, more, fun member => ?_⟩
    cases List.mem_singleton.mp member
    cases grades

/-- **`code:submit` refunds for an evaluation error only after a `JUDGE_ERROR`.** -/
theorem afterEvaluation_unrefunded (env : Env) (world : World) (user : UserId) (matchId : MatchId)
    (matchState : MatchState) {verdict : EvalResult} (judged : verdict.status ≠ .judgeError) :
    (afterEvaluation user matchId matchState verdict).Ensures (unfailing env) world
      fun _ => SentBut (evaluationError matchId) world :=
  (unfailing_works env).frame (R := SentBut (evaluationError matchId))
    (fun _ => ⟨[], (List.append_nil _).symm, List.not_mem_nil⟩) SentBut.trans (fun _ => prompt_of_grades)
    (fun grades performed => sentBut_of_grades grades performed matchId)
    (afterEvaluation_grades user matchState judged) world

end Match

/-- **The judge fails exactly on the payloads it refuses**: in every run of the judge, for every payload and every
problem with its tests, an evaluation ends with a verdict, and this is `JUDGE_ERROR` exactly if there is a test and
an execution of the payload throws. After any other verdict `code:submit` refunds nobody for an evaluation error. -/
theorem judge_error_iff (env : Env) (R : Runtime) {c₀ c : Config execSignature Sandbox Job} (idle : c₀.threads = [])
    (unsettled : c₀.state.settled = []) (run : Reaches (judge R) (fun _ _ => True) c₀ c) {language code : JsVal}
    {problemId : ProblemId} {tests : List TestCase} (found : R.problems problemId = .ok (some tests))
    {answer : Answer} (settled : (.submission language code problemId, answer) ∈ c.state.settled) :
    ∃ verdict, answer = .verdict (.ok verdict) ∧
      (verdict.status = .judgeError ↔ tests ≠ [] ∧ R.refuses language code = true) ∧
      (verdict.status ≠ .judgeError → ∀ world user matchId matchState,
        (afterEvaluation user matchId matchState verdict).Ensures (unfailing env) world
          fun _ => SentBut (evaluationError matchId) world) := by
  obtain ⟨verdict, rfl, exactly⟩ := settled_meets (program_settles R) idle unsettled run _ settled tests found
  exact ⟨verdict, rfl, exactly, fun judged world user matchId matchState =>
    afterEvaluation_unrefunded env world user matchId matchState judged⟩

/-! ### A number for a language -/

/-- A submission with a number for its language. -/
def numbered : Job := .submission (.num 5) (.str "1".toList) 3

/-- What it gets. -/
def numberedVerdict : EvalResult := judged printing (.error .typeError)

/-- Player 1 submits with a number for the language; both players are refunded and the row is cancelled. -/
def submitsNumber : List BackendMove :=
  .start (.codeSubmit 1 7 (.num 5) (.str "1".toList)) :: List.replicate 13 (.step 0 .proceed) ++
    .step 0 (.verdict numberedVerdict) :: List.replicate 4 (.step 0 .proceed)

/-- **A payload refunds a match**: the judge answers a number for the language with `JUDGE_ERROR`. -/
theorem payload_refunds_match : numberedVerdict.status = .judgeError ∧
    (∃ c, Reaches (judge printing) (fun _ _ => True) ⟨{ now := 5 }, []⟩ c ∧
      c.state.settled = [(numbered, .verdict (.ok numberedVerdict))]) ∧
    ∃ c, Reaches (backend sampleEnv) (fun _ move => judgedBy 7 1 2 move = true) ⟨matchedOnce, []⟩ c ∧
      c.state.db.refundRows 7 = 2 ∧ (c.state.db.matches_ 7).map (·.status) = some .cancelled := by
  obtain ⟨c, run, ended⟩ := Machine.exists_run (judge printing) (fun _ _ => true) ⟨{ now := 5 }, []⟩
    [.start numbered, .step 0 (), .step 0 ()]
    (fun c => c.state.settled = [(numbered, .verdict (.ok numberedVerdict))]) (by decide +kernel)
  obtain ⟨c', run', ended'⟩ := Machine.exists_run (backend sampleEnv) (fun _ move => judgedBy 7 1 2 move)
    ⟨matchedOnce, []⟩ submitsNumber
    (fun c => c.state.db.refundRows 7 = 2 ∧ (c.state.db.matches_ 7).map (·.status) = some .cancelled)
    (by decide +kernel)
  obtain ⟨refunded, cancelled⟩ := of_decide_eq_true ended'
  exact ⟨rfl, ⟨c, run.mono fun _ _ _ => trivial, of_decide_eq_true ended⟩, c', run', refunded, cancelled⟩

theorem judge_error_not_on_text : ∃ c verdict, Reaches (judge printing) (fun _ _ => True) ⟨{ now := 5 }, []⟩ c ∧
    c.state.settled = [(jsSubmission "1", .verdict (.ok verdict))] ∧ verdict.status ≠ .judgeError ∧
    (afterEvaluation 1 7 (openState 7) verdict).Ensures (unfailing sampleEnv) matchedOnce
      fun _ => SentBut (evaluationError 7) matchedOnce := by
  obtain ⟨c, run, ended⟩ := Machine.exists_run (judge printing) (fun _ _ => true) ⟨{ now := 5 }, []⟩
    (.start (jsSubmission "1") :: List.replicate 5 (.step 0 ()))
    (fun c => c.state.settled = [(jsSubmission "1", (jsSubmission "1").outcome printing)]) (by decide +kernel)
  have settled := of_decide_eq_true ended
  have everywhere : Reaches (judge printing) (fun _ _ => True) ⟨{ now := 5 }, []⟩ c := run.mono fun _ _ _ => trivial
  obtain ⟨verdict, same, exactly, unrefunded⟩ := judge_error_iff sampleEnv printing rfl rfl everywhere rfl
    (settled ▸ List.mem_singleton_self _)
  have judged : verdict.status ≠ .judgeError := fun failed => by
    have refused := (exactly.mp failed).2
    revert refused
    decide
  exact ⟨c, verdict, everywhere, settled.trans (by rw [same]), judged,
    unrefunded judged matchedOnce 1 7 (openState 7)⟩

end SkillArena
