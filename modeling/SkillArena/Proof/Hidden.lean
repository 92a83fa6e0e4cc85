/-
**The hidden tests of a problem are not shown.**

What a client is shown of a problem is computed from its public tests: by the routes of `practice.js` that list,
show and run a problem, by `getMatch`, by `match:ready` and by `code:run`. Two problem stores that differ in hidden
tests only answer every request alike.

* `Problem.redacted` — a problem without its hidden tests; the routes answer from it as from the problem.
* `hiddenTests` — the veil over the backend that takes the hidden tests out of the database and out of the replies
  of the two queries that return tests. The handlers are blind to it: the tests of a match go through
  `publicTestCases` (`codeRun_blind`), and a new match uses the identifier and the view of its problem
  (`createFor_blind`).
-/

import SkillArena.Async.Blind
import SkillArena.Model.Routes
import SkillArena.Proof.Footprint

namespace SkillArena

open Async

/-! ### A problem without its hidden tests -/

def Problem.redacted (problem : Problem) : Problem :=
  { problem with testCases := publicTestCases problem.testCases }

theorem publicTestCases_idem (testCases : List TestCase) :
    publicTestCases (publicTestCases testCases) = publicTestCases testCases := by
  simp [publicTestCases]

@[simp] theorem Problem.view_redacted (problem : Problem) : problem.redacted.view = problem.view := by
  simp [view, redacted, publicTestCases_idem]

@[simp] theorem Problem.listed_redacted (problem : Problem) : problem.redacted.listed = problem.listed := by
  simp [listed, redacted, publicTestCases_idem]

theorem find_redacted (test : Problem → Bool) (sees : ∀ problem, test (Problem.redacted problem) = test problem)
    (problems : List Problem) :
    (problems.map Problem.redacted).find? test = (problems.find? test).map Problem.redacted := by
  have same : test ∘ Problem.redacted = test := funext sees
  rw [List.find?_map, same]

theorem filter_redacted (test : Problem → Bool) (sees : ∀ problem, test (Problem.redacted problem) = test problem)
    (problems : List Problem) :
    (problems.map Problem.redacted).filter test = (problems.filter test).map Problem.redacted := by
  have same : test ∘ Problem.redacted = test := funext sees
  rw [List.filter_map, same]

/-! ### The routes -/

section Routes

variable (rejected : Option Err) (problems : List Problem)

theorem getProblems_redacted (collate : String → String → Bool) (difficulty category : String) :
    getProblems collate rejected (problems.map Problem.redacted) difficulty category =
      getProblems collate rejected problems difficulty category := by
  cases rejected with
  | some err => rfl
  | none =>
    refine congrArg Response.success ?_
    rw [filter_redacted _ fun _ => rfl, ← List.map_mergeSort (r := Problem.before collate) (f := Problem.redacted)
      fun _ _ _ _ => rfl, List.map_map]
    exact List.map_congr_left fun problem _ => problem.listed_redacted

theorem getProblem_redacted (slug : String) :
    getProblem rejected (problems.map Problem.redacted) slug = getProblem rejected problems slug := by
  cases rejected with
  | some err => rfl
  | none =>
    simp only [getProblem, answered]
    rw [find_redacted _ fun _ => rfl]
    cases problems.find? fun problem => decide (problem.slug = slug) && problem.isActive with
    | none => rfl
    | some problem => exact congrArg Response.success problem.listed_redacted

theorem practiceRun_redacted (R : Runtime) (E : Executor (Except Err)) (timing : Timing) (language code : JsVal)
    (problemId : IdParam) :
    practiceRun R E timing language code rejected (problems.map Problem.redacted) problemId =
      practiceRun R E timing language code rejected problems problemId := by
  have found : ∀ id, (problems.map Problem.redacted).find? (fun problem => decide (problem.id = id)) =
      (problems.find? fun problem => decide (problem.id = id)).map Problem.redacted :=
    fun id => find_redacted _ (fun _ => rfl) problems
  simp only [practiceRun, found]
  cases problemId with
  | missing => rfl
  | malformed => rfl
  | uuid id =>
    cases rejected with
    | some err => rfl
    | none =>
      simp only [IdParam.lookup, answered]
      cases problems.find? fun problem => decide (problem.id = id) with
      | none => rfl
      | some problem =>
        have tests : publicTestCases problem.redacted.testCases = publicTestCases problem.testCases :=
          publicTestCases_idem problem.testCases
        simp only [Option.map_some, bind, Except.bind, tests]

end Routes

/-! ### The database under the veil -/

def Db.covered (db : Db) : Db := { db with problems := db.problems.map Problem.redacted }

theorem find_covered (db : Db) (id : ProblemId) : db.covered.problems.find? (·.id = id) =
    (db.problems.find? (·.id = id)).map Problem.redacted :=
  find_redacted _ (fun _ => rfl) db.problems

theorem column_covered {α : Type} (db : Db) (column : Problem → α)
    (sees : ∀ problem, column (Problem.redacted problem) = column problem) (problemId : Option ProblemId) :
    (problemId.bind fun id => db.covered.problems.find? (·.id = id)).map column =
      (problemId.bind fun id => db.problems.find? (·.id = id)).map column := by
  cases problemId with
  | none => rfl
  | some id =>
    show (db.covered.problems.find? (·.id = id)).map column = (db.problems.find? (·.id = id)).map column
    rw [find_covered, Option.map_map, show column ∘ Problem.redacted = column from funext sees]

theorem getMatch_covered (rejected : Option Err) (db : Db) (matchId : IdParam) (user : UserId) :
    getMatch rejected db.covered matchId user = getMatch rejected db matchId user := by
  simp only [getMatch, column_covered db (·.title) fun _ => rfl, column_covered db (·.description) fun _ => rfl,
    column_covered db (·.timeLimitSeconds) fun _ => rfl,
    column_covered db (fun problem => publicTestCases problem.testCases) fun _ => publicTestCases_idem _]
  rfl

theorem exec_covered (N : Sql.Numeric) (statement : Statement) (db : Db) :
    statement.exec N db.covered = (statement.exec N db).map fun (reply, db') => (reply, db'.covered) := by
  have wallets : db.covered.wallets = db.wallets := rfl
  have matches_ : db.covered.matches_ = db.matches_ := rfl
  cases statement with
  | selectWallet user => rfl
  | updateWallet user set =>
    simp only [Statement.exec, wallets]
    cases db.wallets user with
    | none => rfl
    | some wallet =>
      simp only
      cases wallet.update N set with
      | error err => rfl
      | ok wallet' => rfl
  | insertTransaction user type amount balanceAfter reference description =>
    cases balanceAfter with
    | value balance => rfl
    | currentBalance =>
      simp only [Statement.exec, wallets]
      cases db.wallets user with
      | none => rfl
      | some wallet => rfl
  | insertMatch matchId row =>
    simp only [Statement.exec, matches_]
    split
    · rfl
    · rfl
  | insertWithdrawal user amount upiId => rfl

/-- **A transaction does not notice the hidden tests.** -/
theorem run_covered (env : Env) (transaction : Transaction) (db : Db) :
    transaction.run env db.covered = ((transaction.run env db).1, (transaction.run env db).2.covered) := by
  have unnoticed : ∀ (statement : sqlSignature.Op) (db : Db), Statement.perform env.numeric statement db.covered =
      ((Statement.perform env.numeric statement db).1, (Statement.perform env.numeric statement db).2.covered) := by
    intro statement db
    simp only [Statement.perform, exec_covered]
    cases Statement.exec env.numeric statement db with
    | error err => rfl
    | ok outcome => rfl
  have body := Prog.interpret_map unnoticed (transaction.body env).prog db
  simp only [Transaction.run, withTransaction, Task.interpret, body]
  rcases (transaction.body env).prog.interpret (Statement.perform env.numeric) db with ⟨err | value, db'⟩
  · rfl
  · rfl

/-- What is left of the rows of a query without the hidden tests. -/
def Query.hide : (sql : Query) → sql.Reply → sql.Reply
  | testCasesOfMatch _, tests => tests.map publicTestCases
  | pickProblem .., problem => problem.map Problem.redacted
  | _, reply => reply

theorem query_covered (pick : ℕ) (sql : Query) (db : Db) :
    sql.exec pick db.covered = (sql.exec pick db).map fun (reply, db') => (sql.hide reply, db'.covered) := by
  have matches_ : db.covered.matches_ = db.matches_ := rfl
  have submissions : db.covered.submissions = db.submissions := rfl
  cases sql with
  | testCasesOfMatch matchId =>
    simp only [Query.exec, matches_]
    cases (db.matches_ matchId).bind (·.problemId) with
    | none => rfl
    | some id =>
      have found : db.covered.problems.find? (·.id == id) = (db.problems.find? (·.id == id)).map Problem.redacted :=
        find_redacted _ (fun _ => rfl) db.problems
      simp only [Option.bind_some, found]
      cases db.problems.find? (·.id == id) with
      | none => rfl
      | some problem => rfl
  | pickProblem difficulty category =>
    have candidates : db.covered.candidates difficulty category =
        (db.candidates difficulty category).map Problem.redacted := filter_redacted _ (fun _ => rfl) db.problems
    simp only [Query.exec, candidates, List.length_map, List.getElem?_map]
    rfl
  | insertSubmission matchId user language code =>
    simp only [Query.exec, matches_, submissions]
    cases language.toSql with
    | none => rfl
    | some language =>
      cases code.toSql with
      | none => rfl
      | some code =>
        simp only
        split
        · rfl
        · split
          · rfl
          · split
            · rfl
            · rfl
  | completeMatch matchId winner scoreA scoreB timeA timeB =>
    cases timeA with
    | nan => rfl
    | int timeA =>
      cases timeB with
      | nan => rfl
      | int timeB => rfl
  | _ => rfl

/-! ### The world under the veil -/

def World.covered (world : World) : World := world.withDb world.db.covered

/-- What is left of the answer to an operation without the hidden tests. -/
def Op.hide : (op : Op) → op.Reply → op.Reply
  | query sql, reply => sql.hide reply
  | _, reply => reply

/-- What is left of an answer or of a rejection. -/
def Op.hidden (op : signature.Op) (reply : signature.Reply op) : signature.Reply op := reply.map (Op.hide op)

/-- **An operation under the veil** is the operation, under the veil. -/
theorem perform_covered (env : Env) (choice : Choice) (op : Op) (world : World) :
    op.perform env choice world.covered = (op.perform env choice world).map fun (reply, world') =>
      (op.hidden reply, world'.covered) := by
  by_cases failing : choice = .fail
  · simp only [Op.perform, if_pos failing]
    split
    · rfl
    · rfl
  simp only [Op.perform, if_neg failing]
  have redis : world.covered.redis = world.redis := rfl
  have now : world.covered.now = world.now := rfl
  cases op with
  | setNx key value seconds =>
    simp only [Op.proceed, redis, now]
    split
    · rfl
    · rfl
  | query sql =>
    simp only [Op.proceed]
    rw [show world.covered.db = world.db.covered from rfl, query_covered]
    cases sql.exec _ world.db with
    | error err => rfl
    | ok outcome => rfl
  | transact transaction =>
    simp only [Op.proceed]
    rw [show world.covered.db = world.db.covered from rfl, run_covered]
    simp only [Option.map_some, Op.hidden]
    rcases transaction.run env world.db with ⟨err | reply, db⟩
    · rfl
    · rfl
  | evaluateCode matchId user language code problemId =>
    cases choice with
    | verdict result => rfl
    | _ => rfl
  | executeCode language code stdin =>
    cases choice with
    | executed execution => rfl
    | _ => rfl
  | fetchOrder orderId =>
    cases choice with
    | order amount => rfl
    | _ => rfl
  | uuid =>
    cases choice with
    | fresh matchId => rfl
    | _ => rfl
  | sleepUntil instant =>
    simp only [Op.proceed, now]
    split
    · rfl
    · rfl
  | _ => rfl

theorem arrive_covered (handler : Handler) (world : World) :
    handler.arrive world.covered = (handler.arrive world).map World.covered := by
  have history : world.covered.history = world.history := rfl
  have registered : world.covered.registered = world.registered := rfl
  cases handler with
  | connection user socket =>
    simp only [Handler.arrive, history]
    split
    · rfl
    · rfl
  | dropped user socket =>
    simp only [Handler.arrive, history, registered]
    split
    · rfl
    · rfl
  | disconnect user socket position =>
    simp only [Handler.arrive, history, registered]
    split
    · rfl
    · rfl
  | _ => rfl

theorem outside_covered (env : Env) (act : Outside) (world : World) :
    act.run env world.covered = (act.run env world).map World.covered := by
  cases act with
  | tick ms => rfl
  | act choice op =>
    simp only [Outside.run, perform_covered, Option.map_map]
    rfl

/-! ### The handlers are blind -/

open Async.Task (blind_pure blind_bind blind_attempt)

theorem blind_call {op : Op} (plain : ∀ reply, op.hide reply = reply := by exact fun _ => rfl) :
    op.call.Blind Op.hidden := by
  intro reply
  refine ⟨?_, trivial⟩
  cases reply with
  | error err => rfl
  | ok value => exact congrArg (fun value => Prog.done (Except.ok value)) (plain value)

/-- A call whose answer is used only as far as it is shown. -/
theorem blind_call_bind {β : Type} {op : Op} {rest : op.Reply → Promise β}
    (alike : ∀ value, rest (op.hide value) = rest value) (later : ∀ value, (rest value).Blind Op.hidden) :
    (op.call >>= rest).Blind Op.hidden := by
  intro reply
  cases reply with
  | error err => exact ⟨rfl, trivial⟩
  | ok value => exact ⟨congrArg Task.prog (alike value), later value⟩

theorem hidden_eq {op : Op} (sample : op.department ≠ some .sample) (queue : op.department ≠ some .queue)
    (reply : signature.Reply op) : op.hidden reply = reply := by
  have plain : op.hide = id := by
    cases op with
    | query sql =>
      cases sql with
      | testCasesOfMatch => exact absurd rfl sample
      | pickProblem => exact absurd rfl queue
      | _ => rfl
    | _ => rfl
  rw [Op.hidden, plain, Except.map_id, id]

theorem blind_of_departments (env : Env) (handler : Handler)
    (sample : handler.departments.contains .sample = false) (queue : handler.departments.contains .queue = false) :
    (handler.task env).Blind Op.hidden :=
  (handler.asks_within env).blind fun _ inside =>
    hidden_eq (department_ne inside sample) (department_ne inside queue)

theorem runSamples_blind (language code : JsVal) (index : ℕ) (testCases : List TestCase) :
    (runSamples language code index testCases).Blind Op.hidden := by
  have asks := runSamples_asks (P := fun op => ∀ reply, op.hidden reply = reply) language code
    (hidden_eq nofun nofun) (fun _ => hidden_eq nofun nofun) testCases index
  exact asks.blind fun _ => id

theorem getMatchTimer_blind (matchId : MatchId) : (getMatchTimer matchId).Blind Op.hidden := by
  have asks := getMatchTimer_asks (P := fun op => ∀ reply, op.hidden reply = reply) matchId
    (hidden_eq nofun nofun) (hidden_eq nofun nofun) (hidden_eq nofun nofun)
  exact asks.blind fun _ => id

/-- `code:run` looks at the public tests only. -/
theorem codeRun_blind (userId : UserId) (matchId : MatchId) (language code : JsVal) :
    (codeRun userId matchId language code).Blind Op.hidden := by
  refine blind_attempt (blind_bind blind_call fun stored => ?_) fun _ => blind_call
  cases stored with
  | none => exact blind_call
  | some matchState =>
    simp only
    split
    · exact blind_call
    · refine blind_bind (getMatchTimer_blind matchId) fun timer => ?_
      split
      · exact blind_call
      · refine blind_bind blind_call fun _ => blind_call_bind (fun tests => ?_) fun tests => ?_
        · cases tests with
          | none => rfl
          | some tests =>
            simp only [Op.hide, Query.hide, Option.map_some, publicTestCases_idem]
        · cases tests with
          | none => exact blind_call
          | some tests =>
            simp only
            split
            · exact blind_call
            · exact blind_bind (runSamples_blind language code 1 _) fun _ => blind_call

theorem announceMatch_redacted (env : Env) (fee : ℕ) (taken : Taken) (problem : Problem) (matchId : MatchId) :
    announceMatch env fee taken problem.redacted matchId = announceMatch env fee taken problem matchId := by
  simp only [announceMatch, Problem.view_redacted]
  rfl

theorem commitMatch_redacted (fee : ℕ) (taken : Taken) (problem : Problem) (matchId : MatchId) :
    commitMatch fee taken problem.redacted matchId = commitMatch fee taken problem matchId := rfl

theorem announceMatch_blind (env : Env) (fee : ℕ) (taken : Taken) (problem : Problem) (matchId : MatchId) :
    (announceMatch env fee taken problem matchId).Blind Op.hidden := by
  have timer : (startMatchTimer matchId).Blind Op.hidden :=
    blind_bind blind_call fun _ => blind_bind blind_call fun _ => blind_bind blind_call fun _ => blind_pure _
  exact blind_bind timer fun _ => blind_bind blind_call fun _ => blind_bind blind_call fun _ =>
    blind_bind blind_call fun _ => blind_bind blind_call fun _ => blind_bind blind_call fun _ =>
      blind_bind blind_call fun _ => blind_call

/-- A new match uses the identifier and the view of its problem. -/
theorem createFor_blind (env : Env) (fee : ℕ) (taken : Taken) : (createFor env fee taken).Blind Op.hidden := by
  refine blind_bind blind_call fun _ => blind_bind blind_call fun _ =>
    blind_call_bind (fun problem => ?_) fun problem => ?_
  · cases problem with
    | none => rfl
    | some problem =>
      simp only [Op.hide, Query.hide, Option.map_some, commitMatch_redacted, announceMatch_redacted]
  · cases problem with
    | none =>
      exact blind_bind blind_call fun _ => blind_bind blind_call fun _ => blind_bind blind_call fun _ =>
        blind_pure _
    | some problem =>
      have commits : ∀ matchId, (commitMatch fee taken problem matchId).Blind Op.hidden := fun _ =>
        blind_attempt (blind_bind blind_call fun _ => blind_pure _) fun _ =>
          blind_bind blind_call fun _ => blind_pure _
      refine blind_bind blind_call fun matchId => blind_bind (commits matchId) fun committed => ?_
      cases committed with
      | false => exact blind_pure _
      | true => exact blind_bind (announceMatch_blind env fee taken problem matchId) fun _ => blind_pure _

theorem tryCreateMatch_blind (env : Env) (fee : ℕ) : (tryCreateMatch env fee).Blind Op.hidden := by
  refine blind_bind blind_call fun taken => ?_
  cases taken with
  | none => exact blind_pure _
  | some taken => exact createFor_blind env fee taken

theorem queueJoin_blind (env : Env) (userId : UserId) (username : String) (fee : ℕ) (category : String) :
    (queueJoin env userId username fee category).Blind Op.hidden := by
  have hearts := heartsCheck_asks (P := fun op => ∀ reply, op.hidden reply = reply) userId
    (hidden_eq nofun nofun) (hidden_eq nofun nofun) (hidden_eq nofun nofun) fun _ => hidden_eq nofun nofun
  refine blind_attempt ?_ fun _ => blind_call
  split
  · exact blind_call
  · refine blind_bind blind_call fun _ => blind_bind (hearts.blind fun _ => id) fun goesOn => ?_
    cases goesOn with
    | false => exact blind_pure _
    | true =>
      refine blind_bind blind_call fun balance => ?_
      split
      · exact blind_call
      · exact blind_bind blind_call fun _ => blind_bind blind_call fun _ => blind_bind blind_call fun _ =>
          blind_bind blind_call fun _ => blind_bind blind_call fun _ => blind_bind blind_call fun _ =>
            blind_bind (tryCreateMatch_blind env fee) fun _ => blind_pure _

/-- **No handler sees a hidden test.** -/
theorem Handler.blind (env : Env) (handler : Handler) : (handler.task env).Blind Op.hidden := by
  cases handler with
  | codeRun user matchId language code => exact codeRun_blind user matchId language code
  | queueJoin user username fee category => exact queueJoin_blind env user username fee category
  | queueLeave user =>
    exact blind_attempt (blind_bind blind_call fun _ => blind_bind blind_call fun _ =>
      blind_bind blind_call fun _ => blind_bind blind_call fun _ => blind_call) fun _ => blind_pure _
  | worker fee =>
    exact blind_attempt (blind_bind (tryCreateMatch_blind env fee) fun _ => blind_pure _) fun _ => blind_pure _
  | _ => exact blind_of_departments env _ rfl rfl

/-- **The veil over the hidden tests.** -/
def hiddenTests (env : Env) : Veil (backend env) where
  hide := Op.hidden
  cover := World.covered
  performs := perform_covered env
  arrives := arrive_covered
  acts := outside_covered env
  blind handler := Task.blind_run (handler.blind env)

/-! ### Two problem stores -/

/-- The world over another problem store. -/
def World.over (world : World) (problems : List Problem) : World :=
  world.withDb { world.db with problems := problems }

/-- A problem with a public test and a hidden one. -/
def echoProblem (hidden : Text) : Problem where
  id := 1
  title := "Echo"
  slug := "echo"
  description := "Print the input."
  difficulty := "easy"
  category := "strings"
  testCases := [⟨"1".toList, some "1".toList, true⟩, ⟨hidden, some hidden, false⟩]

end SkillArena
