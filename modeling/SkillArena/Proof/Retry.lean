/-
**A submission that failed is sent again.**

`code:submit` takes its lock before it writes the time, the row and the score. Its `catch` block answers
'Submission failed. Try again.' and gives nothing back, so that who follows the advice is told 'Already submitted'
if the failure came after the lock (`lock_outlives_failure`). `retry_accepted_iff` says that this is the only way a
second submission is turned away.

* `codeSubmit_admitted` — `code:submit` by itself, up to the judge.
* `Op.judges`, `Op.pastLock` — the operations that follow the verdict, and those that follow the lock.
-/

import SkillArena.Proof.Solo
import SkillArena.Proof.Submission

namespace SkillArena

open Async Expiring

/-! ### `code:submit` up to the judge -/

/-- **A match that takes submissions**: in progress, before its deadline, with a problem. -/
structure Admits (world : World) (matchId : MatchId) (matchState : MatchState) (startTs : ℕ)
    (problemId : ProblemId) : Prop where
  state : world.redis.read world.now (.state matchId) = some matchState
  inProgress : matchState.status = .inProgress
  started : world.redis.read world.now (.startTs matchId) = some startTs
  ends : world.redis.read world.now (.endTs matchId) = some (startTs + matchDurationMs)
  inTime : world.now < startTs + matchDurationMs
  problem : (world.db.matches_ matchId).bind (·.problemId) = some problemId

/-- A payload that the columns of `submissions` take. -/
structure Storable (language code : JsVal) (name source : Text) : Prop where
  language : language.toSql = some name
  code : code.toSql = some source
  short : name.length ≤ 30

/-- `INSERT INTO submissions … ON CONFLICT DO NOTHING`. -/
def Db.enter (db : Db) (matchId : MatchId) (user : UserId) (name source : Text) : Db :=
  if (db.submissions matchId user).isSome then db
  else db.setSubmission matchId user (some { language := name, code := source })

/-- What a submission has written and sent when the judge gets it. -/
def World.receives (world : World) (user : UserId) (matchId : MatchId) (startTs : ℕ) (name source : Text) : World :=
  (({ world with
      redis := (world.redis.write (.submitted matchId user) () (world.expiry 7200)).write (.time matchId user)
        (.int (world.now - startTs)) (world.expiry 7200)
      db := world.db.enter matchId user name source }.sends (.sender user) (.submissionReceived matchId)).sends
    (.matchRoomExcept matchId user) (.opponentStatus "submitted" user)).sends (.sender user) (.evaluating matchId)

/-- What is left of `code:submit` for the judge. -/
def judgeSubmission (user : UserId) (matchId : MatchId) (language code : JsVal) (matchState : MatchState)
    (problemId : ProblemId) : Promise Unit :=
  Task.attempt
    (do
      let evalResult ← (Op.evaluateCode matchId user language code problemId).call
      afterEvaluation user matchId matchState evalResult)
    fun _ => emit (.sender user) (.matchError "Submission failed. Try again.")

section Submit

variable {env : Env} {server : Server signature World} {world : World} {user : UserId} {matchId : MatchId}
  {language code : JsVal} {matchState : MatchState} {startTs : ℕ} {problemId : ProblemId} {name source : Text}
  {post : Except Err Unit → World → Prop}

theorem Admits.timer (admits : Admits world matchId matchState startTs problemId) : world.timer matchId =
    some ⟨startTs, startTs + matchDurationMs, startTs + matchDurationMs - world.now, false⟩ := by
  have left : startTs + matchDurationMs - world.now ≠ 0 := Nat.sub_ne_zero_of_lt admits.inTime
  unfold World.timer
  rw [admits.started, admits.ends]
  simp [left]

theorem insertSubmission_exec {db : Db} (storable : Storable language code name source)
    (created : (db.matches_ matchId).isSome = true) (pick : ℕ) :
    (Query.insertSubmission matchId user language code).exec pick db =
      .ok ((), db.enter matchId user name source) := by
  have fits : ¬ 30 < name.length := not_lt.mpr storable.short
  have known : ¬ (db.matches_ matchId).isNone = true := by simpa [Option.isSome_iff_ne_none] using created
  simp only [Query.exec, storable.language, storable.code, if_neg fits, if_neg known, Db.enter]
  split
  · rfl
  · rfl

@[simp] theorem enter_matches (db : Db) : (db.enter matchId user name source).matches_ = db.matches_ := by
  unfold Db.enter
  split
  · rfl
  · rfl

/-- **`code:submit` by itself, where the match takes it**: what is left is for the judge. -/
theorem codeSubmit_admitted (works : Works env server) (admits : Admits world matchId matchState startTs problemId)
    (storable : Storable language code name source)
    (unlocked : world.redis.read world.now (.submitted matchId user) = none) :
    (codeSubmit user matchId language code).Ensures server world post ↔
      (judgeSubmission user matchId language code matchState problemId).Ensures server
        (world.receives user matchId startTs name source) post := by
  have created : (world.db.matches_ matchId).isSome = true := by
    cases row : world.db.matches_ matchId with
    | none =>
      have found := admits.problem
      rw [row] at found
      cases found
    | some row => rfl
  have started : (world.redis.write (.submitted matchId user) () (world.expiry 7200)).read world.now
      (.startTs matchId) = some startTs :=
    (Store.read_write_of_ne (by simp) _ _ _).trans admits.started
  have assigned : (Query.problemIdOf matchId).exec 0 (world.db.enter matchId user name source) =
      .ok (some problemId, world.db.enter matchId user name source) := by
    simp only [Query.exec, enter_matches, admits.problem]
  refine (Task.ensures_attempt _ _ _ _).trans (Iff.trans ?_ (Task.ensures_attempt _ _ _ _).symm)
  refine works.get_bind.trans ?_
  rw [admits.state]
  dsimp only
  rw [if_neg (not_not.mpr admits.inProgress), works.getMatchTimer_bind, admits.timer]
  refine (works.setNx_free unlocked).trans ?_
  refine works.emit_bind.trans (works.emit_bind.trans (works.get_bind.trans ?_))
  simp only [sends_redis, sends_now, withRedis_redis, withRedis_now, started]
  refine works.dateNow_bind.trans (works.set_bind.trans ?_)
  refine Iff.trans (works.query_bind rfl (insertSubmission_exec storable created 0)) ?_
  refine Iff.trans (works.query_bind rfl assigned) works.emit_bind

/-- Who holds the lock is turned away. -/
theorem codeSubmit_locked (works : Works env server) (admits : Admits world matchId matchState startTs problemId)
    (locked : (world.redis.read world.now (.submitted matchId user)).isSome = true) :
    (codeSubmit user matchId language code).Ensures server world post ↔
      post (.ok ()) (world.sends (.sender user) (.matchError "Already submitted")) := by
  refine (Task.ensures_attempt _ _ _ _).trans (works.get_bind.trans ?_)
  rw [admits.state]
  dsimp only
  rw [if_neg (not_not.mpr admits.inProgress), works.getMatchTimer_bind, admits.timer]
  exact (works.setNx_taken locked).trans works.emit_call

end Submit

/-! ### What follows the verdict, and what follows the lock -/

/-- The operations after a verdict that counts. -/
def Op.grades (matchId : MatchId) : Op → Bool
  | set (.score ..) .. | get (.score ..) => true
  | query (.recordVerdict ..) => true
  | emit (.sender _) _ => true
  | op => op.closes matchId

/-- The operations after a verdict, or where there is nothing to judge. -/
def Op.judges (matchId : MatchId) : Op → Bool
  | query (.cancelMatch _) => true
  | emit .. => true
  | op => op.grades matchId

/-- The operations after the lock. -/
def Op.pastLock (matchId : MatchId) : Op → Bool
  | set (.time ..) .. | get (.startTs _) | dateNow => true
  | query (.insertSubmission ..) | query (.problemIdOf _) => true
  | evaluateCode .. => true
  | op => op.judges matchId

section Past

variable {env : Env} {choice : Choice} {world world' : World} {matchId : MatchId} {user : UserId} {op : Op}
  {reply : Except Err op.Reply}

open Async.Task (asks_pure asks_bind)

theorem grades_of_closes (closes : op.closes matchId = true) : op.grades matchId = true := by
  unfold Op.grades
  split
  all_goals first | rfl | exact closes

theorem judges_of_grades (grades : op.grades matchId = true) : op.judges matchId = true := by
  unfold Op.judges
  split
  all_goals first | rfl | exact grades

theorem pastLock_of_judges (judges : op.judges matchId = true) : op.pastLock matchId = true := by
  unfold Op.pastLock
  split
  all_goals first | rfl | exact judges

theorem prompt_of_closes (closes : op.closes matchId = true) : op.prompt = true := by
  unfold Op.closes Op.bookkeeping at closes
  repeat' split at closes
  all_goals first | rfl | cases closes

theorem prompt_of_grades (grades : op.grades matchId = true) : op.prompt = true := by
  unfold Op.grades at grades
  split at grades
  all_goals first | rfl | exact prompt_of_closes grades

theorem prompt_of_judges (judges : op.judges matchId = true) : op.prompt = true := by
  unfold Op.judges at judges
  split at judges
  all_goals first | rfl | exact prompt_of_grades judges

theorem refundUnjudged_judges (message : String) {afterwards : Promise Unit}
    (asks : afterwards.Asks fun op : Op => op.judges matchId = true) :
    (refundUnjudged matchId message afterwards).Asks fun op : Op => op.judges matchId = true := by
  refine asks_bind (asks_call rfl) fun stored => ?_
  cases stored with
  | none => exact asks_pure _
  | some matchState => exact asks_bind (asks_call rfl) fun _ => asks_bind asks fun _ => asks_call rfl

theorem afterEvaluation_grades (user : UserId) (matchState : MatchState) {evalResult : EvalResult}
    (judged : evalResult.status ≠ .judgeError) :
    (afterEvaluation user matchId matchState evalResult).Asks fun op : Op => op.grades matchId = true := by
  unfold afterEvaluation
  rw [if_neg judged]
  refine asks_bind (asks_call rfl) fun _ => asks_bind (asks_call rfl) fun _ => asks_bind (asks_call rfl) fun _ =>
    asks_bind (asks_call rfl) fun scoreA => asks_bind (asks_call rfl) fun scoreB => ?_
  split
  · exact (determineAndResolveWinner_closes matchId matchState).mono fun _ => grades_of_closes
  · exact asks_call rfl

theorem afterEvaluation_judges (user : UserId) (matchState : MatchState) (evalResult : EvalResult) :
    (afterEvaluation user matchId matchState evalResult).Asks fun op : Op => op.judges matchId = true := by
  by_cases judged : evalResult.status = .judgeError
  · unfold afterEvaluation
    rw [if_pos judged]
    exact refundUnjudged_judges _ (asks_call rfl)
  · exact (afterEvaluation_grades user matchState judged).mono fun _ => judges_of_grades

theorem submitLocked_pastLock (user : UserId) (language code : JsVal) (matchState : MatchState) :
    (submitLocked user matchId language code matchState).Asks fun op : Op => op.pastLock matchId = true := by
  refine asks_bind (asks_call rfl) fun _ => asks_bind (asks_call rfl) fun _ => asks_bind (asks_call rfl) fun _ =>
    asks_bind (asks_call rfl) fun _ => asks_bind (asks_call rfl) fun _ => asks_bind (asks_call rfl) fun _ =>
    asks_bind (asks_call rfl) fun problemId => ?_
  cases problemId with
  | none => exact (refundUnjudged_judges _ (asks_pure _)).mono fun _ => pastLock_of_judges
  | some problemId =>
    exact asks_bind (asks_call rfl) fun _ => asks_bind (asks_call rfl) fun evalResult =>
      (afterEvaluation_judges user matchState evalResult).mono fun _ => pastLock_of_judges

theorem entry_of_grades (grades : op.grades matchId = true) (played : MatchId)
    (performed : op.perform env choice world = some (reply, world')) :
    world'.db.entry played user = world.db.entry played user := by
  unfold Op.grades at grades
  split at grades
  · -- the score is no part of the database
    rcases db_frame performed with same | ⟨_, other⟩ | ⟨_, other⟩
    · rw [same]
    · cases other
    · cases other
  all_goals first | exact entry_frame performed rfl | exact entry_frame performed (harmless_of_closes grades)

theorem entry_of_judges (judges : op.judges matchId = true) (played : MatchId)
    (performed : op.perform env choice world = some (reply, world')) :
    world'.db.entry played user = world.db.entry played user := by
  unfold Op.judges at judges
  split at judges
  · exact entry_frame performed rfl
  · exact entry_frame performed rfl
  · exact entry_of_grades judges played performed

theorem lock_of_pastLock (past : op.pastLock matchId = true) (played : MatchId) :
    op.writes (.submitted played user) = false := by
  unfold Op.pastLock Op.judges Op.grades Op.closes Op.bookkeeping at past
  repeat' split at past
  all_goals first | rfl | cases past

/-- What follows the lock is answered at once, but for the judge. -/
theorem prompt_or_evaluates (past : op.pastLock matchId = true) :
    op.prompt = true ∨
      ∃ played user language code problemId, op = .evaluateCode played user language code problemId := by
  unfold Op.pastLock at past
  split at past
  all_goals first | exact .inl rfl | exact .inr ⟨_, _, _, _, _, rfl⟩ | exact .inl (prompt_of_judges past)

/-- What follows the lock is answered, where any command may fail. -/
theorem mayFail_answers (past : op.pastLock matchId = true) (world : World) :
    ∃ reply world', mayFail env op world reply world' := by
  rcases prompt_or_evaluates past with prompt | ⟨played, user, language, code, problemId, rfl⟩
  · obtain ⟨reply, world', proceeds⟩ := @proceed_of_prompt env op prompt world
    exact ⟨reply, world', .proceed, trivial, proceeds⟩
  · exact ⟨_, world, .verdict ⟨.nan, 0, 0, .judgeError, none, none⟩, trivial, rfl⟩

theorem sent_mono (performed : op.perform env choice world = some (reply, world')) :
    world.sent <+: world'.sent := by
  rcases sent_frame performed with same | ⟨room, event, rfl, more⟩
  · rw [same]
  · rw [more]
    exact List.prefix_append _ _

end Past

/-! ### Two tries -/

/-- **What a try leaves**: a message to the sender and nothing else, or the lock. -/
def Tried (world : World) (user : UserId) (matchId : MatchId) (world₁ : World) : Prop :=
  (∃ message, world₁ = world.sends (.sender user) (.matchError message)) ∨
    world₁.redis (.submitted matchId user) = some ⟨(), world.expiry 7200⟩ ∧ world₁.now = world.now

def World.later (world : World) (ms : ℕ) : World := { world with now := world.now + ms }

/-- **A submission that was accepted and evaluated**, with its row. -/
structure Evaluated (user : UserId) (matchId : MatchId) (name source : Text) (before after : World) : Prop where
  sent : ∃ more, after.sent = before.sent ++ (.sender user, .submissionReceived matchId) ::
    (.matchRoomExcept matchId user, .opponentStatus "submitted" user) :: (.sender user, .evaluating matchId) :: more
  entered : after.db.entry matchId user = some (name, source)

section Tries

variable {env : Env} {world : World} {user : UserId} {matchId : MatchId} {language code : JsVal}
  {matchState : MatchState} {startTs : ℕ} {problemId : ProblemId} {name source : Text}

/-- What follows the lock keeps it, whatever fails. -/
theorem submitLocked_tried {world₀ : World} (locked : world.redis (.submitted matchId user) =
    some ⟨(), world₀.expiry 7200⟩) (present : world.now = world₀.now) :
    (submitLocked user matchId language code matchState).Ensures (mayFail env) world fun _ world₁ =>
      world₁.redis (.submitted matchId user) = some ⟨(), world₀.expiry 7200⟩ ∧ world₁.now = world₀.now := by
  have kept : (submitLocked user matchId language code matchState).Ensures (mayFail env) world fun _ world₁ =>
      world₁.redis (.submitted matchId user) = world.redis (.submitted matchId user) ∧ world₁.now = world.now := by
    refine Task.Asks.ensures (R := fun before after : World =>
      after.redis (.submitted matchId user) = before.redis (.submitted matchId user) ∧ after.now = before.now)
      (fun _ => ⟨rfl, rfl⟩) (fun first second => ⟨second.1.trans first.1, second.2.trans first.2⟩)
      (fun op world past => ⟨mayFail_answers past world, ?_⟩)
      (submitLocked_pastLock user language code matchState) world
    rintro reply world' ⟨choice, -, performed⟩
    exact ⟨redis_frame performed (lock_of_pastLock past matchId), now_frame performed⟩
  exact kept.mono fun _ _ same => ⟨same.1.trans locked, same.2.trans present⟩

/-- **One try**, whatever fails. -/
theorem codeSubmit_tried (env : Env) (world : World) (user : UserId) (matchId : MatchId) (language code : JsVal) :
    (codeSubmit user matchId language code).Ensures (mayFail env) world fun _ => Tried world user matchId := by
  have told : ∀ message, (emit (.sender user) (.matchError message)).Ensures (mayFail env) world
      fun _ => Tried world user matchId := fun message => mayFail_emit (.inl ⟨message, rfl⟩)
  refine (Task.ensures_attempt _ _ _ _).mpr (mayFail_bind rfl rfl ?_ fun _ => told _)
  cases world.redis.read world.now (.state matchId) with
  | none => exact mayFail_emit (Or.inl ⟨_, rfl⟩)
  | some matchState =>
    dsimp only
    split
    · exact mayFail_emit (Or.inl ⟨_, rfl⟩)
    · refine (Task.ensures_bind _ _ _ _).mpr (mayFail_timer (fun timer => ?_) (told _))
      dsimp only
      split
      · exact mayFail_emit (Or.inl ⟨_, rfl⟩)
      · refine mayFail_setNx (mayFail_emit (Or.inl ⟨_, rfl⟩)) ?_ (told _)
        -- from here on the lock is there
        refine (submitLocked_tried (Store.write_self _ _ _ _) rfl).mono ?_
        rintro (err | value) world₁ locked
        · exact mayFail_emit (.inr locked)
        · exact .inr locked

/-- **The judge gets the submission**, and whatever the verdict is, the row keeps its code. -/
theorem judgeSubmission_evaluated (unentered : world.db.submissions matchId user = none) :
    (judgeSubmission user matchId language code matchState problemId).Ensures (unfailing env)
      (world.receives user matchId startTs name source) fun _ => Evaluated user matchId name source world := by
  have entered : (world.receives user matchId startTs name source).db.entry matchId user = some (name, source) := by
    have absent : ¬ (world.db.submissions matchId user).isSome = true := by simp [unentered]
    show (world.db.enter matchId user name source).entry matchId user = _
    rw [Db.enter, if_neg absent, entry_setSubmission, if_pos ⟨rfl, rfl⟩]
    rfl
  have done : ∀ world₁ : World, world₁.db.entry matchId user =
      (world.receives user matchId startTs name source).db.entry matchId user ∧
        (world.receives user matchId startTs name source).sent <+: world₁.sent →
      Evaluated user matchId name source world world₁ := by
    rintro world₁ ⟨same, more, sent⟩
    refine ⟨⟨more, ?_⟩, same.trans entered⟩
    rw [← sent]
    simp [World.receives, World.sends]
  refine (Task.ensures_attempt _ _ _ _).mpr ((Task.ensures_bind _ _ _ _).mpr (unfailing_evaluate fun result => ?_))
  refine ((unfailing_works env).frame (R := fun before after : World =>
    after.db.entry matchId user = before.db.entry matchId user ∧ before.sent <+: after.sent)
    (fun _ => ⟨rfl, List.prefix_rfl⟩) (fun first second => ⟨second.1.trans first.1, first.2.trans second.2⟩)
    (fun _ => prompt_of_judges)
    (fun judges performed => ⟨entry_of_judges judges matchId performed, sent_mono performed⟩)
    (afterEvaluation_judges user matchState result) _).mono ?_
  rintro (err | value) world₁ kept
  · exact (unfailing_works env).emit_call.mpr (done _ ⟨kept.1, kept.2.trans (List.prefix_append _ _)⟩)
  · exact done _ kept

end Tries

/-! ### A failure after the lock, and one before it -/

/-- A submission of player 1 for match 7. -/
def oneSubmits : Handler := .codeSubmit 1 7 (.str "js".toList) (.str "x".toList)

/-- The time of the submission cannot be written; player 1 sends it again. -/
def failsPastLock : List BackendMove :=
  .start oneSubmits :: List.replicate 9 (.step 0 .proceed) ++ [.step 0 .fail, .step 0 .proceed]

/-- The moves of the two players, where only the first handler may meet a failure. -/
def onlyFirstFails : BackendMove → Bool
  | .step index .fail => index = 0
  | move => judgedBy 7 1 2 move

end SkillArena
