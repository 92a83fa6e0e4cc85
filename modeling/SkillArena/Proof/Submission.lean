/-
**One submission a player.**

`code:submit` takes the key `submitted` with `SET … NX` before it records the time, the row, the verdict and the
score. The key lives for two hours and a match for thirty minutes, so that who comes after the key has expired
has checked a deadline that was over, if the command follows its check within an hour. So of a user's
submissions for a match at most one is ever evaluated, its language and code are the row that is stored, and the
time and the score, once written, stay (`one_submission_evaluated`), over every run of the backend in which the
match is created once.

* `Progress` — how far a handler has come: it has the identifier of the match, has read its end, has checked the
  deadline, has taken the lock, has written the time, the row, has the verdict.
* `submitting` — the contract of these steps; every other handler only awaits operations that are harmless for it.
* `Milestone`, `Single` — the invariant: at each stage there are at most as many handlers as the step before has
  let in and the step after has not yet let out; the lock outlives the end of the match.
* `Retains` — what is written of a submission stays, over every step.
-/

import SkillArena.Async.Relay
import SkillArena.Proof.Entries
import SkillArena.Proof.Winner

namespace SkillArena

open Async Expiring

/-! ### The contract -/

/-- **How far a handler has come** with the match: to its creation, or to a submission. -/
inductive Progress
  | away
  | issued
  | starting (now : ℕ)
  | aware (endTs : ℕ)
  | checked (endTs now : ℕ)
  | locked
  | timed
  | entered (language code : JsVal)
  | evaluated
  deriving DecidableEq

/-- The keys of a user's submission, and the end of the match. -/
def Key.sealed (matchId : MatchId) (user : UserId) : Key → Bool
  | submitted matchId' user' | time matchId' user' | score matchId' user' => matchId' = matchId && user' = user
  | endTs matchId' => matchId' = matchId
  | _ => false

/-- The operation is no step of the user's submission, and does not start the timer of the match. -/
def Op.apart (matchId : MatchId) (user : UserId) : Op → Bool
  | set key .. | setNx key .. | del key => !key.sealed matchId user
  | query (.insertSubmission matchId' user' _ _) => !(matchId' = matchId && user' = user)
  | evaluateCode matchId' user' .. => !(matchId' = matchId && user' = user)
  | _ => true

def Op.sparesEntry (matchId : MatchId) (user : UserId) (op : Op) : Prop := op.apart matchId user = true

namespace Progress

/-- The steps that are not harmless, each where it is due. -/
def permits : Progress → Op → Prop
  | starting now, .set (.endTs _) endTs _ => endTs = now + matchDurationMs
  | checked endTs now, .setNx (.submitted ..) _ seconds => now < endTs ∧ seconds = 7200
  | locked, .set (.time ..) .. => True
  | timed, .query (.insertSubmission ..) => True
  | entered language code, .evaluateCode _ _ language' code' _ => language' = language ∧ code' = code
  | evaluated, .set (.score ..) .. => True
  | _, _ => False

/-- Where a step leads. -/
def after (matchId : MatchId) (user : UserId) : Progress → (op : Op) → Except Err op.Reply → Progress
  | away, .uuid, .ok id => if id = matchId then issued else away
  | issued, .dateNow, .ok now => starting now
  | starting now, .set (.endTs matchId') _ _, .ok _ => if matchId' = matchId then away else starting now
  | away, .get (.endTs matchId'), .ok (some endTs) => if matchId' = matchId then aware endTs else away
  | aware endTs, .dateNow, .ok now => checked endTs now
  | checked endTs now, .setNx (.submitted matchId' user') _ _, .ok true =>
    if matchId' = matchId ∧ user' = user then locked else checked endTs now
  | locked, .set (.time matchId' user') _ _, .ok _ =>
    if matchId' = matchId ∧ user' = user then timed else locked
  | timed, .query (.insertSubmission matchId' user' language code), .ok _ =>
    if matchId' = matchId ∧ user' = user then entered language code else timed
  | entered language code, .evaluateCode matchId' user' _ _ _, _ =>
    if matchId' = matchId ∧ user' = user then evaluated else entered language code
  | evaluated, .set (.score matchId' user') _ _, .ok _ =>
    if matchId' = matchId ∧ user' = user then away else evaluated
  | phase, _, _ => phase

end Progress

/-- **The contract of a submission** of a user for a match. -/
def submitting (matchId : MatchId) (user : UserId) : Contract signature where
  Phase := Progress
  may phase op := op.apart matchId user = true ∨ phase.permits op
  answers _ _ _ := True
  after := Progress.after matchId user

section Contract

variable {matchId : MatchId} {user : UserId} {α : Type}

open Async.Task (stable_pure stable_bind stable_attempt asks_pure asks_bind asks_attempt)

theorem harmless_stable {task : Promise α} (asks : task.Asks (Op.sparesEntry matchId user)) :
    task.Stable (submitting matchId user) fun _ => True :=
  asks.stable fun _ _ _ harmless => ⟨.inl harmless, fun _ _ => trivial⟩

theorem harmless_keeps {phase : Progress} {task : Promise α}
    (asks : task.Asks (Op.sparesEntry matchId user)) :
    task.Keeps (submitting matchId user) phase fun _ _ => True :=
  harmless_stable asks phase trivial

theorem harmless_of_within {departments : List Department} {op : Op} (inside : op.within departments)
    (play : departments.contains .play = false) (record : departments.contains .record = false) :
    op.apart matchId user = true := by
  have unplayed := department_ne inside play
  have unrecorded := department_ne inside record
  cases op with
  | set key value seconds =>
    cases key
    case submitted => exact absurd rfl unplayed
    case score => exact absurd rfl unplayed
    case time => exact absurd rfl unplayed
    case endTs => exact absurd rfl unrecorded
    all_goals rfl
  | setNx key value seconds =>
    cases key
    case submitted => exact absurd rfl unplayed
    case score => exact absurd rfl unplayed
    case time => exact absurd rfl unplayed
    case endTs => exact absurd rfl unplayed
    all_goals rfl
  | del key =>
    cases key
    case submitted => exact absurd rfl unplayed
    case score => exact absurd rfl unplayed
    case time => exact absurd rfl unplayed
    case endTs => exact absurd rfl unplayed
    all_goals rfl
  | query sql =>
    cases sql
    case insertSubmission => exact absurd rfl unplayed
    all_goals rfl
  | evaluateCode => exact absurd rfl unplayed
  | _ => rfl

theorem harmless_of_closes {played : MatchId} {op : Op} (closes : op.closes played = true) :
    op.apart matchId user = true := by
  unfold Op.closes Op.bookkeeping at closes
  repeat' split at closes
  all_goals first | rfl | cases closes

theorem resolveMatch_harmless (played : MatchId) (winnerId loserId : UserId) (resolveType : ResolveType) :
    (resolveMatch played winnerId loserId resolveType).Asks (Op.sparesEntry matchId user) :=
  (resolveMatch_closes played winnerId loserId resolveType).mono fun _ => harmless_of_closes

theorem determineAndResolveWinner_harmless (played : MatchId) (matchState : MatchState) :
    (determineAndResolveWinner played matchState).Asks (Op.sparesEntry matchId user) :=
  (determineAndResolveWinner_closes played matchState).mono fun _ => harmless_of_closes

theorem handleTimerExpiry_harmless (played : MatchId) (dueAt : ℕ) :
    (handleTimerExpiry played dueAt).Asks (Op.sparesEntry matchId user) := by
  have read : ∀ player default, (readScore played player default).Asks (Op.sparesEntry matchId user) ∧
      (readTime played player default).Asks (Op.sparesEntry matchId user) :=
    fun _ _ => ⟨asks_bind (asks_call rfl) fun _ => asks_pure _, asks_bind (asks_call rfl) fun _ => asks_pure _⟩
  refine asks_bind (asks_call rfl) fun _ => asks_attempt (asks_bind (asks_call rfl) fun stored => ?_)
    fun _ => asks_pure _
  cases stored with
  | none => exact asks_pure _
  | some matchState =>
    dsimp only
    split
    · exact asks_pure _
    · exact asks_bind (read _ _).1 fun _ => asks_bind (read _ _).1 fun _ => asks_bind (read _ _).2 fun _ =>
        asks_bind (read _ _).2 fun _ => asks_bind (asks_call rfl) fun _ => resolveMatch_harmless _ _ _ _

theorem forfeitRequest_harmless (sender : UserId) (played : MatchId) (reason : String) :
    (forfeitRequest sender played reason).Asks (Op.sparesEntry matchId user) := by
  refine asks_attempt (asks_bind (asks_call rfl) fun stored => ?_) fun _ => asks_pure _
  cases stored with
  | none => exact asks_pure _
  | some matchState =>
    dsimp only
    split
    · exact asks_pure _
    · exact asks_bind (asks_call rfl) fun _ => resolveMatch_harmless _ _ _ _

theorem handleDisconnectForfeit_harmless (sender : UserId) (played : MatchId) (dueAt : ℕ) :
    (handleDisconnectForfeit sender played dueAt).Asks (Op.sparesEntry matchId user) := by
  refine asks_attempt (asks_bind (asks_call rfl) fun _ => asks_bind (asks_call rfl) fun present => ?_)
    fun _ => asks_pure _
  cases present with
  | some socket => exact asks_pure _
  | none =>
    refine asks_bind (asks_call rfl) fun stored => ?_
    cases stored with
    | none => exact asks_pure _
    | some matchState =>
      dsimp only
      split
      · exact asks_pure _
      · exact asks_bind (asks_call rfl) fun _ => resolveMatch_harmless _ _ _ _

theorem refundUnjudged_harmless (played : MatchId) (message : String) {afterwards : Promise Unit}
    (asks : afterwards.Asks (Op.sparesEntry matchId user)) :
    (refundUnjudged played message afterwards).Asks (Op.sparesEntry matchId user) := by
  refine asks_bind (asks_call rfl) fun stored => ?_
  cases stored with
  | none => exact asks_pure _
  | some matchState => exact asks_bind (asks_call rfl) fun _ => asks_bind asks fun _ => asks_call rfl

theorem afterScore_harmless (sender : UserId) (played : MatchId) (matchState : MatchState)
    (evalResult : EvalResult) :
    (do
      poolQuery (.recordVerdict played sender (judgeStatus evalResult.score) evalResult)
      emit (.sender sender) (.evaluationResult played evalResult (judgeStatus evalResult.score))
      let scoreA ← redisGet (.score played matchState.playerAId)
      let scoreB ← redisGet (.score played matchState.playerBId)
      if scoreA.isSome && scoreB.isSome then
        determineAndResolveWinner played matchState
      else
        emit (.sender sender) (.waitingOpponent played) : Promise Unit).Asks (Op.sparesEntry matchId user) := by
  refine asks_bind (asks_call rfl) fun _ => asks_bind (asks_call rfl) fun _ =>
    asks_bind (asks_call rfl) fun scoreA => asks_bind (asks_call rfl) fun scoreB => ?_
  split
  · exact determineAndResolveWinner_harmless _ _
  · exact asks_call rfl

theorem codeSubmit_harmless {sender : UserId} {played : MatchId} (language code : JsVal)
    (other : (decide (played = matchId) && decide (sender = user)) = false) :
    (codeSubmit sender played language code).Asks (Op.sparesEntry matchId user) := by
  have own : !(decide (played = matchId) && decide (sender = user)) := by simp [other]
  refine asks_attempt (asks_bind (asks_call rfl) fun stored => ?_) fun _ => asks_call rfl
  cases stored with
  | none => exact asks_call rfl
  | some matchState =>
    dsimp only
    split
    · exact asks_call rfl
    · refine asks_bind (getMatchTimer_asks played rfl rfl rfl) fun timer => ?_
      split
      · exact asks_call rfl
      · refine asks_bind (asks_call own) fun taken => ?_
        cases taken with
        | false => exact asks_call rfl
        | true =>
          refine asks_bind (asks_call rfl) fun _ => asks_bind (asks_call rfl) fun _ =>
            asks_bind (asks_call rfl) fun startTs => asks_bind (asks_call rfl) fun now =>
            asks_bind (asks_call own) fun _ => asks_bind (asks_call own) fun _ =>
            asks_bind (asks_call rfl) fun problemId => ?_
          cases problemId with
          | none => exact refundUnjudged_harmless _ _ (asks_pure _)
          | some problemId =>
            refine asks_bind (asks_call rfl) fun _ => asks_bind (asks_call own) fun evalResult => ?_
            unfold afterEvaluation
            split
            · exact refundUnjudged_harmless _ _ (asks_call rfl)
            · exact asks_bind (asks_call own) fun _ => afterScore_harmless _ _ _ _

/-! ### The handlers with steps of their own -/

theorem harmless_then {phase : Progress} {op : Op} {rest : op.Reply → Promise α}
    (harmless : op.apart matchId user = true)
    (stays : ∀ value, phase.after matchId user op (.ok value) = phase)
    (next : ∀ value, (rest value).Keeps (submitting matchId user) phase fun _ _ => True) :
    (op.call >>= rest).Keeps (submitting matchId user) phase fun _ _ => True := by
  refine keeps_call_bind (.inl harmless) (fun value _ => ?_) fun _ _ => trivial
  have same : (submitting matchId user).after phase op (.ok value) = phase := stays value
  rw [same]
  exact next value

theorem step_then {phase : Progress} {op : Op} {rest : op.Reply → Promise α} (due : phase.permits op)
    (next : ∀ value, (rest value).Keeps (submitting matchId user) (phase.after matchId user op (.ok value))
      fun _ _ => True) :
    (op.call >>= rest).Keeps (submitting matchId user) phase fun _ _ => True :=
  keeps_call_bind (.inr due) (fun value _ => next value) fun _ _ => trivial

theorem attempt_harmless {phase : Progress} {body : Promise α} {handler : Err → Promise α}
    (first : body.Keeps (submitting matchId user) phase fun _ _ => True)
    (second : ∀ err, (handler err).Asks (Op.sparesEntry matchId user)) :
    (Task.attempt body handler).Keeps (submitting matchId user) phase fun _ _ => True := by
  refine (Task.keeps_attempt _ _ _ _).mpr (first.mono ?_)
  rintro (err | value) phase' -
  · exact harmless_keeps (second err)
  · trivial

/-- A timer that was read has been compared with the clock. -/
theorem getMatchTimer_then {rest : Option Timer → Promise α}
    (absent : ∀ phase, (rest none).Keeps (submitting matchId user) phase fun _ _ => True)
    (present : ∀ startTs endTs now, (rest (some ⟨startTs, endTs, endTs - now, endTs - now = 0⟩)).Keeps
      (submitting matchId user) (.checked endTs now) fun _ _ => True) :
    (getMatchTimer matchId >>= rest).Keeps (submitting matchId user) .away fun _ _ => True := by
  refine (Task.keeps_bind _ _ _ _).mpr (keeps_call_bind (.inl rfl) (fun startTs _ => ?_) fun _ _ => trivial)
  refine keeps_call_bind (.inl rfl) (fun endTs _ => ?_) fun _ _ => trivial
  cases startTs with
  | none => exact absent _
  | some startTs =>
    cases endTs with
    | none => exact absent _
    | some endTs =>
      have known : (submitting matchId user).after
          ((submitting matchId user).after .away (.get (.startTs matchId)) (.ok (some startTs)))
          (.get (.endTs matchId)) (.ok (some endTs)) = .aware endTs := if_pos rfl
      rw [known]
      exact keeps_call_bind (.inl rfl) (fun now _ => present startTs endTs now) fun _ _ => trivial

/-- What follows the lock: the time, the row, the verdict and the score, in this order. -/
theorem submitLocked_submitting (language code : JsVal) (matchState : MatchState) :
    (submitLocked user matchId language code matchState).Keeps (submitting matchId user) .locked
      fun _ _ => True := by
  refine harmless_then rfl (fun _ => rfl) fun _ => harmless_then rfl (fun _ => rfl) fun _ =>
    harmless_then rfl (fun _ => rfl) fun startTs => harmless_then rfl (fun _ => rfl) fun now =>
    step_then trivial fun _ => ?_
  rw [Progress.after, if_pos ⟨rfl, rfl⟩]
  refine step_then trivial fun _ => ?_
  rw [Progress.after, if_pos ⟨rfl, rfl⟩]
  refine harmless_then rfl (fun _ => rfl) fun problemId => ?_
  cases problemId with
  | none => exact harmless_keeps (refundUnjudged_harmless _ _ (asks_pure _))
  | some problemId =>
    refine harmless_then rfl (fun _ => rfl) fun _ => step_then ⟨rfl, rfl⟩ fun evalResult => ?_
    rw [Progress.after, if_pos ⟨rfl, rfl⟩]
    unfold afterEvaluation
    split
    · exact harmless_keeps (refundUnjudged_harmless _ _ (asks_call rfl))
    · exact step_then trivial fun _ => harmless_keeps (afterScore_harmless _ _ _ _)

/-- **`code:submit`** of the user for the match: each step leads to the next. -/
theorem codeSubmit_submitting (language code : JsVal) :
    (codeSubmit user matchId language code).Keeps (submitting matchId user) .away fun _ _ => True := by
  refine attempt_harmless (harmless_then rfl (fun _ => rfl) fun stored => ?_) fun _ => asks_call rfl
  cases stored with
  | none => exact harmless_keeps (asks_call rfl)
  | some matchState =>
    dsimp only
    split
    · exact harmless_keeps (asks_call rfl)
    · refine getMatchTimer_then (fun _ => harmless_keeps (asks_call rfl)) fun startTs endTs now => ?_
      split
      · exact harmless_keeps (asks_call rfl)
      · rename_i inTime
        have before : now < endTs := by
          simp only [Option.map_some, Option.getD_some, decide_eq_true_eq] at inTime
          omega
        refine step_then ⟨before, rfl⟩ fun taken => ?_
        cases taken with
        | false => exact harmless_keeps (asks_call rfl)
        | true =>
          rw [Progress.after, if_pos ⟨rfl, rfl⟩]
          exact submitLocked_submitting language code matchState

theorem announceMatch_harmless (env : Env) (fee : ℕ) (taken : Taken) (problem : Problem) {created : MatchId}
    (other : created ≠ matchId) :
    (announceMatch env fee taken problem created).Asks (Op.sparesEntry matchId user) := by
  have own : !(decide (created = matchId)) := by simp [other]
  refine asks_bind (asks_bind (asks_call rfl) fun _ => asks_bind (asks_call rfl) fun _ =>
    asks_bind (asks_call own) fun _ => asks_pure _) fun _ => ?_
  exact asks_bind (asks_call rfl) fun _ => asks_bind (asks_call rfl) fun _ =>
    asks_bind (asks_call rfl) fun _ => asks_bind (asks_call rfl) fun _ => asks_bind (asks_call rfl) fun _ =>
    asks_bind (asks_call rfl) fun _ => asks_call rfl

/-- The end of the match is set half an hour after the clock was read. -/
theorem announceMatch_submitting (env : Env) (fee : ℕ) (taken : Taken) (problem : Problem) :
    (announceMatch env fee taken problem matchId).Keeps (submitting matchId user) .issued fun _ _ => True := by
  refine (Task.keeps_bind _ _ _ _).mpr ?_
  refine keeps_call_bind (.inl rfl) (fun now _ => ?_) fun _ _ => trivial
  refine keeps_call_bind (.inl rfl) (fun _ _ => ?_) fun _ _ => trivial
  refine keeps_call_bind (.inr rfl) (fun _ _ => ?_) fun _ _ => trivial
  refine harmless_keeps ?_
  exact asks_bind (asks_call rfl) fun _ => asks_bind (asks_call rfl) fun _ =>
    asks_bind (asks_call rfl) fun _ => asks_bind (asks_call rfl) fun _ => asks_bind (asks_call rfl) fun _ =>
    asks_bind (asks_call rfl) fun _ => asks_call rfl

/-- The operation leaves a handler where it is, wherever that is. -/
def Op.aside : Op → Prop
  | memory _ | transact _ => True
  | _ => False

theorem aside_stable {phase : Progress} {task : Promise α} (asks : task.Asks Op.aside) :
    task.Stable (submitting matchId user) (· = phase) := by
  refine asks.stable fun phase' op here aside => ?_
  cases op
  case memory => exact ⟨.inl rfl, fun _ _ => by subst here; cases phase' <;> rfl⟩
  case transact => exact ⟨.inl rfl, fun _ _ => by subst here; cases phase' <;> rfl⟩
  all_goals cases aside

theorem createFor_submitting (env : Env) (fee : ℕ) (taken : Taken) :
    (createFor env fee taken).Keeps (submitting matchId user) .away fun _ _ => True := by
  refine harmless_then rfl (fun _ => rfl) fun _ => harmless_then rfl (fun _ => rfl) fun _ =>
    harmless_then rfl (fun _ => rfl) fun problem => ?_
  cases problem with
  | none =>
    exact harmless_keeps (asks_bind (asks_call rfl) fun _ => asks_bind (asks_call rfl) fun _ =>
      asks_bind (asks_call rfl) fun _ => asks_pure _)
  | some problem =>
    have commits : ∀ created phase, (commitMatch fee taken problem created).Stable (submitting matchId user)
        (· = phase) := fun _ _ => aside_stable
      (asks_attempt (asks_bind (asks_call trivial) fun _ => asks_pure _)
        fun _ => asks_bind (asks_call trivial) fun _ => asks_pure _)
    refine keeps_call_bind (.inl rfl) (fun created _ => (commits created _).keeps_bind (fun committed => ?_)
      fun _ => trivial) fun _ _ => trivial
    cases committed with
    | false => trivial
    | true =>
      by_cases same : created = matchId
      · subst same
        have here : (submitting created user).after .away .uuid (.ok created) = .issued := if_pos rfl
        rw [here]
        refine (Task.keeps_bind _ _ _ _).mpr ((announceMatch_submitting env fee taken problem).mono ?_)
        rintro (err | value) phase -
        · trivial
        · trivial
      · exact harmless_keeps (asks_bind (announceMatch_harmless env fee taken problem same) fun _ => asks_pure _)

theorem tryCreateMatch_submitting (env : Env) (fee : ℕ) :
    (tryCreateMatch env fee).Keeps (submitting matchId user) .away fun _ _ => True := by
  refine harmless_then rfl (fun _ => rfl) fun taken => ?_
  cases taken with
  | none => trivial
  | some taken => exact createFor_submitting env fee taken

theorem tryCreateMatch_then (env : Env) (fee : ℕ) :
    (tryCreateMatch env fee >>= fun _ => pure ()).Keeps (submitting matchId user) .away fun _ _ => True := by
  refine (Task.keeps_bind _ _ _ _).mpr ((tryCreateMatch_submitting env fee).mono ?_)
  rintro (err | value) phase -
  · trivial
  · trivial

theorem queueJoin_submitting (env : Env) (sender : UserId) (username : String) (fee : ℕ) (category : String) :
    (queueJoin env sender username fee category).Keeps (submitting matchId user) .away fun _ _ => True := by
  have hearts : (heartsCheck sender).Stable (submitting matchId user) (· = Progress.away) := by
    refine (heartsCheck_asks sender (P := fun op => op.apart matchId user = true ∧
      ∀ reply, Progress.away.after matchId user op reply = .away) ?_ ?_ ?_ ?_).stable ?_
    · exact ⟨rfl, fun _ => rfl⟩
    · exact ⟨rfl, fun _ => rfl⟩
    · exact ⟨rfl, fun _ => rfl⟩
    · exact fun _ => ⟨rfl, fun _ => rfl⟩
    · rintro phase op rfl ⟨harmless, stays⟩
      exact ⟨.inl harmless, fun reply _ => stays reply⟩
  refine attempt_harmless ?_ fun _ => asks_call rfl
  split
  · exact harmless_keeps (asks_call rfl)
  · refine harmless_then rfl (fun _ => rfl) fun _ => hearts.keeps_bind (fun goesOn => ?_) fun _ => trivial
    cases goesOn with
    | false => trivial
    | true =>
      refine harmless_then rfl (fun _ => rfl) fun balance => ?_
      split
      · exact harmless_keeps (asks_call rfl)
      · exact harmless_then rfl (fun _ => rfl) fun _ => harmless_then rfl (fun _ => rfl) fun _ =>
          harmless_then rfl (fun _ => rfl) fun _ => harmless_then rfl (fun _ => rfl) fun _ =>
          harmless_then rfl (fun _ => rfl) fun _ => harmless_then rfl (fun _ => rfl) fun _ =>
          tryCreateMatch_then env fee

/-- **Every handler keeps the contract.** -/
theorem handler_submitting (env : Env) (handler : Handler) :
    (handler.task env).Keeps (submitting matchId user) .away fun _ _ => True := by
  cases handler
  case codeSubmit sender played language code =>
    by_cases own : played = matchId ∧ sender = user
    · obtain ⟨rfl, rfl⟩ := own
      exact codeSubmit_submitting language code
    · exact harmless_keeps (codeSubmit_harmless language code (by simpa using own))
  case forfeitRequest sender played reason => exact harmless_keeps (forfeitRequest_harmless sender played reason)
  case timerExpiry played dueAt => exact harmless_keeps (handleTimerExpiry_harmless played dueAt)
  case disconnectForfeit sender played position dueAt =>
    exact harmless_keeps (handleDisconnectForfeit_harmless sender played dueAt)
  case queueJoin sender username fee category => exact queueJoin_submitting env sender username fee category
  case worker fee => exact attempt_harmless (tryCreateMatch_then env fee) fun _ => asks_pure _
  all_goals
    exact harmless_keeps ((Handler.asks_within env _).mono fun op inside => harmless_of_within inside rfl rfl)

end Contract

/-! ### What is written of a submission -/

/-- The language and the code in the row of a user's submission. -/
def Db.entry (db : Db) (matchId : MatchId) (user : UserId) : Option (Text × Text) :=
  (db.submissions matchId user).map fun row => (row.language, row.code)

/-- The rows of a user's submission: there is at most one. -/
def Db.entries (db : Db) (matchId : MatchId) (user : UserId) : ℕ := if (db.entry matchId user).isSome then 1 else 0

/-- The end of a match that was written, expired or not. -/
def World.storedEnd (world : World) (matchId : MatchId) : Option ℕ := (world.redis (.endTs matchId)).map (·.value)

/-- What an observer notes: whether the identifier of the match was given out, and the submissions of the
user that were evaluated. -/
structure Record where
  issued : Bool := false
  evaluated : List (JsVal × JsVal) := []

def Record.sees (matchId : MatchId) (user : UserId) (record : Record) : (op : Op) → Except Err op.Reply → Record
  | .uuid, .ok id => if id = matchId then { record with issued := true } else record
  | .evaluateCode matchId' user' language code _, _ =>
    if matchId' = matchId ∧ user' = user then
      { record with evaluated := record.evaluated ++ [(language, code)] }
    else record
  | _, _ => record

/-- The observer of a user's submissions for a match. -/
def recorder (matchId : MatchId) (user : UserId) : Observer (submitting matchId user) World Handler Record where
  enter _ := .away
  starts _ _ record := record
  sees _ op reply _ record := record.sees matchId user op reply

/-- The stages at which one handler at a time is: it may set the end of the match, the time, the row, get the
verdict, set the score. -/
inductive Milestone
  | creating
  | timing
  | entering
  | judging
  | scoring
  deriving DecidableEq

def Progress.milestone : Progress → Option Milestone
  | issued | starting _ => some .creating
  | locked => some .timing
  | timed => some .entering
  | entered .. => some .judging
  | evaluated => some .scoring
  | away | aware _ | checked .. => none

namespace Milestone

variable (matchId : MatchId) (user : UserId) (world : World) (record : Record)

/-- What brings a handler to a stage, so far. -/
def due : Milestone → ℕ
  | creating => if record.issued then 1 else 0
  | timing => world.written (.submitted matchId user)
  | entering => world.written (.time matchId user)
  | judging => world.db.entries matchId user
  | scoring => record.evaluated.length

/-- What a handler has done at a stage, so far. -/
def done : Milestone → ℕ
  | creating => world.written (.endTs matchId)
  | timing => world.written (.time matchId user)
  | entering => world.db.entries matchId user
  | judging => record.evaluated.length
  | scoring => world.written (.score matchId user)

end Milestone

/-- What a handler holds is what is written. -/
def Progress.sound (matchId : MatchId) (user : UserId) (world : World) : Progress → Prop
  | starting now => now ≤ world.now
  | aware endTs | checked endTs _ => world.storedEnd matchId = some endTs
  | entered language code =>
    ∃ stored, world.db.entry matchId user = some stored ∧
      (language.toSql, code.toSql) = (some stored.1, some stored.2)
  | _ => True

/-- **The invariant of a user's submissions for a match.** The lock outlives the end of the match by an hour
and a half. -/
structure Single (matchId : MatchId) (user : UserId) (world : World) (record : Record)
    (phases : List (Handler × Progress)) : Prop where
  stages : Relay Progress.milestone (Milestone.due matchId user world record)
    (Milestone.done matchId user world record) phases
  sound : ∀ entry ∈ phases, entry.2.sound matchId user world
  ends : ∀ endTs, world.storedEnd matchId = some endTs → endTs ≤ world.now + matchDurationMs
  locks : ∀ lock, world.redis (.submitted matchId user) = some lock →
    ∃ endTs, world.storedEnd matchId = some endTs ∧ endTs + 5400000 ≤ lock.expiresAt
  judged : ∀ pair ∈ record.evaluated, ∃ stored, world.db.entry matchId user = some stored ∧
    (pair.1.toSql, pair.2.toSql) = (some stored.1, some stored.2)

/-- **What is written of a submission stays.** -/
structure Retains (matchId : MatchId) (user : UserId) (world world' : World) : Prop where
  now : world.now ≤ world'.now
  cells : ∀ key, key.sealed matchId user = true → ∀ cell, world.redis key = some cell → world'.redis key = some cell
  entry : ∀ stored, world.db.entry matchId user = some stored → world'.db.entry matchId user = some stored

section Inv

variable {env : Env} {choice : Choice} {matchId : MatchId} {user : UserId} {world world' world'' : World}
  {record record' : Record} {phases : List (Handler × Progress)} {index : ℕ} {event : Handler}
  {phase phase' : Progress} {op : Op} {reply : Except Err op.Reply}

namespace Retains

theorem refl (world : World) : Retains matchId user world world := ⟨le_rfl, fun _ _ _ => id, fun _ => id⟩

theorem trans (first : Retains matchId user world world') (second : Retains matchId user world' world'') :
    Retains matchId user world world'' :=
  ⟨first.now.trans second.now,
    fun key own cell stored => second.cells key own cell (first.cells key own cell stored),
    fun stored held => second.entry stored (first.entry stored held)⟩

theorem ended (retains : Retains matchId user world world') {endTs : ℕ}
    (stored : world.storedEnd matchId = some endTs) : world'.storedEnd matchId = some endTs := by
  obtain ⟨cell, here, rfl⟩ := Option.map_eq_some_iff.mp stored
  unfold World.storedEnd
  rw [retains.cells (.endTs matchId) (decide_eq_true rfl) cell here]
  rfl

theorem sound (retains : Retains matchId user world world') (sound : phase.sound matchId user world) :
    phase.sound matchId user world' := by
  cases phase with
  | starting now => exact Nat.le_trans sound retains.now
  | aware endTs => exact retains.ended sound
  | checked endTs now => exact retains.ended sound
  | entered language code =>
    obtain ⟨stored, here, same⟩ := sound
    exact ⟨stored, retains.entry stored here, same⟩
  | _ => trivial

end Retains

/-- Nothing of a submission is written. -/
structure Spares (matchId : MatchId) (user : UserId) (world world' : World) : Prop where
  now : world.now ≤ world'.now
  cells : ∀ key, key.sealed matchId user = true → world'.redis key = world.redis key
  entry : world'.db.entry matchId user = world.db.entry matchId user

namespace Spares

theorem retains (spares : Spares matchId user world world') : Retains matchId user world world' :=
  ⟨spares.now, fun key own _ stored => (spares.cells key own).trans stored, fun _ held => spares.entry.trans held⟩

theorem ended (spares : Spares matchId user world world') : world'.storedEnd matchId = world.storedEnd matchId := by
  unfold World.storedEnd
  rw [spares.cells (.endTs matchId) (decide_eq_true rfl)]

theorem balanced (spares : Spares matchId user world world') (record : Record) (stage : Milestone) :
    stage.due matchId user world' record = stage.due matchId user world record ∧
      stage.done matchId user world' record = stage.done matchId user world record := by
  have own : (decide (matchId = matchId) && decide (user = user)) = true := by simp
  have locks := written_of_eq (spares.cells (.submitted matchId user) own)
  have times := written_of_eq (spares.cells (.time matchId user) own)
  have scores := written_of_eq (spares.cells (.score matchId user) own)
  have ends := written_of_eq (spares.cells (.endTs matchId) (decide_eq_true rfl))
  have entries : world'.db.entries matchId user = world.db.entries matchId user := by
    unfold Db.entries
    rw [spares.entry]
  cases stage with
  | creating => exact ⟨rfl, ends⟩
  | timing => exact ⟨locks, times⟩
  | entering => exact ⟨times, entries⟩
  | judging => exact ⟨entries, rfl⟩
  | scoring => exact ⟨rfl, scores⟩

end Spares

/-! ### The frame of a submission -/

theorem sealed_frame (performed : op.perform env choice world = some (reply, world'))
    (harmless : op.apart matchId user = true) {key : Key} (own : key.sealed matchId user = true) :
    world'.redis key = world.redis key := by
  refine redis_frame performed (Bool.eq_false_iff.mpr fun writes => ?_)
  unfold Op.writes at writes
  split at writes
  all_goals first | cases writes | skip
  all_goals
    obtain rfl : _ = key := of_decide_eq_true writes
    simp [Op.apart, own] at harmless

@[simp] theorem entry_setSubmission (db : Db) (played : MatchId) (sender : UserId) (row : Option Submission) :
    (db.setSubmission played sender row).entry matchId user =
      if played = matchId ∧ sender = user then row.map fun row => (row.language, row.code)
      else db.entry matchId user := by
  unfold Db.entry Db.setSubmission
  by_cases match_ : played = matchId
  · subst match_
    by_cases player : sender = user
    · subst player
      simp
    · simp [player, Function.update_of_ne (Ne.symm player)]
  · simp [match_, Function.update_of_ne (Ne.symm match_)]

theorem query_entry {sql : Query} {pick : ℕ} {value : sql.Reply} {db db' : Db}
    (ran : sql.exec pick db = .ok (value, db')) (harmless : (Op.query sql).apart matchId user = true) :
    db'.entry matchId user = db.entry matchId user := by
  cases sql
  case insertSubmission played sender language code =>
    have other : ¬ (played = matchId ∧ sender = user) := not_and_or.mpr (by simpa [Op.apart] using harmless)
    simp only [Query.exec] at ran
    repeat' split at ran
    all_goals first | (cases ran; done) | skip
    · cases ran
      rfl
    · cases ran
      rw [entry_setSubmission, if_neg other]
  case recordVerdict played sender status result =>
    cases ran
    rw [entry_setSubmission]
    split
    · rename_i own
      obtain ⟨rfl, rfl⟩ := own
      rw [Option.map_map]
      rfl
    · rfl
  case completeMatch played winner scoreA scoreB timeA timeB =>
    simp only [Query.exec] at ran
    split at ran
    · cases ran
      rfl
    · cases ran
  all_goals
    cases ran
    rfl

theorem entry_frame (performed : op.perform env choice world = some (reply, world'))
    (harmless : op.apart matchId user = true) :
    world'.db.entry matchId user = world.db.entry matchId user := by
  cases reply with
  | error err => rw [perform_error performed]
  | ok value =>
    rcases db_frame performed with same | ⟨sql, rfl⟩ | ⟨transaction, rfl⟩
    · rw [same]
    · obtain ⟨pick, db', ran, rfl⟩ := perform_query_ok performed
      exact query_entry ran harmless
    · obtain ⟨db', ran, rfl⟩ := perform_transact_ok performed
      unfold Db.entry
      rw [withDb_db, run_submissions ran]

/-! ### One step -/

/-- Where a harmless operation can lead a handler. -/
inductive Look (matchId : MatchId) : Progress → (op : Op) → Except Err op.Reply → Progress → Prop
  | rest {phase : Progress} {op : Op} {reply : Except Err op.Reply} : Look matchId phase op reply phase
  | issue : Look matchId .away .uuid (.ok matchId) .issued
  | start {now : ℕ} : Look matchId .issued .dateNow (.ok now) (.starting now)
  | read {endTs : ℕ} : Look matchId .away (.get (.endTs matchId)) (.ok (some endTs)) (.aware endTs)
  | check {endTs now : ℕ} : Look matchId (.aware endTs) .dateNow (.ok now) (.checked endTs now)

theorem look_of_harmless (harmless : op.apart matchId user = true) :
    Look matchId phase op reply (phase.after matchId user op reply) := by
  unfold Progress.after
  split
  · split
    · rename_i same
      subst same
      exact .issue
    · exact .rest
  · exact .start
  · split
    · rename_i same
      simp [Op.apart, Key.sealed, same] at harmless
    · exact .rest
  · split
    · rename_i same
      subst same
      exact .read
    · exact .rest
  · exact .check
  all_goals first | exact .rest | skip
  all_goals
    split
    · rename_i same
      simp [Op.apart, Key.sealed, same] at harmless
    · exact .rest

theorem sees_of_harmless (record : Record) (harmless : op.apart matchId user = true)
    (reply : Except Err op.Reply) : (record.sees matchId user op reply).evaluated = record.evaluated ∧
      (record.issued = true → (record.sees matchId user op reply).issued = true) := by
  unfold Record.sees
  split
  · split
    · exact ⟨rfl, fun _ => rfl⟩
    · exact ⟨rfl, id⟩
  · split
    · rename_i own
      simp [Op.apart, own] at harmless
    · exact ⟨rfl, id⟩
  · exact ⟨rfl, id⟩

theorem fresh_of_uuid {id : MatchId} (performed : Op.uuid.perform env choice world = some (.ok id, world')) :
    choice = .fresh id := by
  have proceeded := proceed_of_ok performed
  simp only [Op.proceed] at proceeded
  split at proceeded
  · cases proceeded
    rfl
  · cases proceeded

namespace Single

/-- **One handler goes on**, if what it has done, what it has come to and what is written balance. -/
theorem advance (inv : Single matchId user world record phases) (found : phases[index]? = some (event, phase))
    (retains : Retains matchId user world world') (sound : phase'.sound matchId user world')
    (balance : ∀ stage : Milestone, stage.done matchId user world' record' +
        Relay.share Progress.milestone phase' stage + stage.due matchId user world record ≤
      stage.due matchId user world' record' + stage.done matchId user world record +
        Relay.share Progress.milestone phase stage)
    (ends : ∀ endTs, world'.storedEnd matchId = some endTs → endTs ≤ world'.now + matchDurationMs)
    (locks : ∀ lock, world'.redis (.submitted matchId user) = some lock →
      ∃ endTs, world'.storedEnd matchId = some endTs ∧ endTs + 5400000 ≤ lock.expiresAt)
    (judged : ∀ pair ∈ record'.evaluated, ∃ stored, world'.db.entry matchId user = some stored ∧
      (pair.1.toSql, pair.2.toSql) = (some stored.1, some stored.2)) :
    Single matchId user world' record' (phases.set index (event, phase')) := by
  refine ⟨inv.stages.set found balance, fun entry inside => ?_, ends, locks, judged⟩
  rcases List.mem_or_eq_of_mem_set inside with old | rfl
  · exact retains.sound (inv.sound entry old)
  · exact sound

theorem due_le (inv : Single matchId user world record phases) (stage : Milestone) :
    stage.due matchId user world record ≤ 1 := by
  have flag : ∀ flag : Bool, (if flag = true then 1 else 0) ≤ 1 := by decide
  cases stage with
  | creating => exact flag record.issued
  | timing => exact written_le _ _
  | entering => exact written_le _ _
  | judging => exact flag (world.db.entry matchId user).isSome
  | scoring => exact (inv.stages.done_le .judging).trans (flag (world.db.entry matchId user).isSome)

/-- While a handler is at a stage, what is to be done there has not been done. -/
theorem pending (inv : Single matchId user world record phases) (found : phases[index]? = some (event, phase))
    {stage : Milestone} (here : phase.milestone = some stage) : stage.done matchId user world record = 0 :=
  inv.stages.pending found here (inv.due_le stage)

theorem spared (inv : Single matchId user world record phases) (spares : Spares matchId user world world') :
    Single matchId user world' record phases := by
  refine ⟨fun stage => ?_, fun entry inside => spares.retains.sound (inv.sound entry inside),
    fun endTs stored => ?_, fun lock stored => ?_, fun pair inside => ?_⟩
  · rw [(spares.balanced record stage).1, (spares.balanced record stage).2]
    exact inv.stages stage
  · rw [spares.ended] at stored
    exact (inv.ends endTs stored).trans (Nat.add_le_add_right spares.now _)
  · rw [spares.ended]
    rw [spares.cells _ (by simp [Key.sealed])] at stored
    exact inv.locks lock stored
  · rw [spares.entry]
    exact inv.judged pair inside

theorem append (inv : Single matchId user world record phases) (children : List Handler) :
    Single matchId user world record (phases ++ children.map fun child => (child, Progress.away)) := by
  refine ⟨inv.stages.append ?_, fun entry inside => ?_, inv.ends, inv.locks, inv.judged⟩
  · intro entry inside
    obtain ⟨child, _, rfl⟩ := List.mem_map.mp inside
    rfl
  · rcases List.mem_append.mp inside with old | new
    · exact inv.sound entry old
    · obtain ⟨child, _, rfl⟩ := List.mem_map.mp new
      trivial

theorem harmless_step (inv : Single matchId user world record phases)
    (found : phases[index]? = some (event, phase)) (harmless : op.apart matchId user = true)
    (performed : op.perform env choice world = some (reply, world'))
    (fresh : choice = .fresh matchId → record.issued = false) :
    Single matchId user world' (record.sees matchId user op reply)
        (phases.set index (event, phase.after matchId user op reply)) ∧
      Retains matchId user world world' := by
  have spares : Spares matchId user world world' :=
    ⟨(now_frame performed).ge, fun _ own => sealed_frame performed harmless own, entry_frame performed harmless⟩
  have inv' := inv.spared spares
  obtain ⟨same, grown⟩ := sees_of_harmless record harmless reply
  have judged := fun pair inside => inv'.judged pair (same ▸ inside)
  have counts : ∀ stage : Milestone, stage.done matchId user world' (record.sees matchId user op reply) =
      stage.done matchId user world' record ∧ stage.due matchId user world' record ≤
        stage.due matchId user world' (record.sees matchId user op reply) := by
    intro stage
    cases stage with
    | creating =>
      refine ⟨rfl, ?_⟩
      show (if record.issued then 1 else 0) ≤ if (record.sees matchId user op reply).issued then 1 else 0
      split
      · rename_i issued
        rw [if_pos (grown issued)]
      · exact Nat.zero_le _
    | timing => exact ⟨rfl, le_rfl⟩
    | entering => exact ⟨rfl, le_rfl⟩
    | judging => exact ⟨congrArg List.length same, le_rfl⟩
    | scoring => exact ⟨rfl, (congrArg List.length same).ge⟩
  refine ⟨?_, spares.retains⟩
  have member := List.mem_of_getElem? found
  have look : Look matchId phase op reply (phase.after matchId user op reply) := look_of_harmless harmless
  generalize phase.after matchId user op reply = phase' at look ⊢
  cases look with
  | rest =>
    refine inv'.advance found (.refl _) (inv'.sound _ member) (fun stage => ?_) inv'.ends inv'.locks judged
    have count := counts stage
    omega
  | issue =>
    refine inv'.advance found (.refl _) trivial (fun stage => ?_) inv'.ends inv'.locks judged
    have count := counts stage
    have issued := fresh (fresh_of_uuid performed)
    cases stage with
    | creating =>
      simp only [Milestone.due, Milestone.done, Record.sees, Relay.share, Progress.milestone, issued]
      simp only [if_true, reduceCtorEq, if_false]
      omega
    | _ =>
      simp only [Relay.share, Progress.milestone, Option.some.injEq, reduceCtorEq, if_false]
      omega
  | start =>
    cases proceed_of_ok performed
    refine inv'.advance found (.refl _) (Nat.le_refl _) (fun stage => ?_) inv'.ends inv'.locks judged
    have count := counts stage
    cases stage with
    | creating =>
      simp only [Relay.share, Progress.milestone, if_true]
      omega
    | _ =>
      simp only [Relay.share, Progress.milestone, Option.some.injEq, reduceCtorEq, if_false]
      omega
  | read =>
    obtain ⟨read, rfl⟩ := perform_get_ok performed
    obtain ⟨cell, stored, _, value⟩ := Store.read_eq_some.mp read.symm
    refine inv'.advance found (.refl _) ?_ (fun stage => ?_) inv'.ends inv'.locks judged
    · show (world'.redis (.endTs matchId)).map (·.value) = _
      rw [stored]
      exact congrArg some value
    · have count := counts stage
      simp only [Relay.share, Progress.milestone, reduceCtorEq, if_false]
      omega
  | check =>
    refine inv'.advance found (.refl _) ?_ (fun stage => ?_) inv'.ends inv'.locks judged
    · exact inv'.sound _ member
    · have count := counts stage
      simp only [Relay.share, Progress.milestone, reduceCtorEq, if_false]
      omega

end Single

theorem Retains.of_write {key : Key} (absent : world.redis key = none) (value : key.Val) (expiresAt : ℕ) :
    Retains matchId user world (world.withRedis (world.redis.write key value expiresAt)) := by
  refine ⟨le_rfl, fun other _ cell stored => ?_, fun _ => id⟩
  have different : other ≠ key := by
    rintro rfl
    rw [absent] at stored
    cases stored
  exact (Store.write_of_ne different _ _).trans stored

/-- **The writes of a submission**: who may write which key, and what it has come to after that. -/
inductive Entrusted (matchId : MatchId) (user : UserId) : Progress → Key → Progress → Prop
  | endTs (now : ℕ) : Entrusted matchId user (.starting now) (.endTs matchId) .away
  | lock (endTs now : ℕ) : Entrusted matchId user (.checked endTs now) (.submitted matchId user) .locked
  | time : Entrusted matchId user .locked (.time matchId user) .timed
  | score : Entrusted matchId user .evaluated (.score matchId user) .away

/-- **The first write of a key keeps the balance**: it is a deed of the stage the handler leaves, or what lets it
into the next one, or both. -/
theorem Entrusted.balance {key : Key} (entrusted : Entrusted matchId user phase key phase')
    (unwritten : world.written key = 0) (value : key.Val) (expiresAt : ℕ) (record : Record) (stage : Milestone) :
    stage.done matchId user (world.withRedis (world.redis.write key value expiresAt)) record +
        Relay.share Progress.milestone phase' stage + stage.due matchId user world record ≤
      stage.due matchId user (world.withRedis (world.redis.write key value expiresAt)) record +
        stage.done matchId user world record + Relay.share Progress.milestone phase stage := by
  cases entrusted
  all_goals
    cases stage
    all_goals
      simp only [Milestone.due, Milestone.done, written_write, withRedis_db, unwritten, Relay.share,
        Progress.milestone, Option.some.injEq, reduceCtorEq, if_false, if_true]
      omega

namespace Single

/-- **The timer is started**: the end of the match is written, half an hour after the clock was read. -/
theorem create_step {now seconds : ℕ} (inv : Single matchId user world record phases)
    (found : phases[index]? = some (event, .starting now))
    (performed : (Op.set (.endTs matchId) (now + matchDurationMs) seconds).perform env choice world =
      some (.ok (), world')) :
    Single matchId user world' record (phases.set index (event, .away)) ∧ Retains matchId user world world' := by
  have unwritten : world.written (.endTs matchId) = 0 := inv.pending found rfl
  have absent := none_of_written unwritten
  have read : now ≤ world.now := inv.sound _ (List.mem_of_getElem? found)
  have retains : Retains matchId user world world' := by
    rw [perform_set_ok performed]
    exact .of_write absent _ _
  refine ⟨inv.advance found retains trivial (fun stage => ?_) (fun endTs stored => ?_) (fun lock stored => ?_)
    fun pair inside => ?_, retains⟩
  · rw [perform_set_ok performed]
    exact (Entrusted.endTs now).balance unwritten _ _ record stage
  · rw [perform_set_ok performed] at stored ⊢
    unfold World.storedEnd at stored
    rw [withRedis_redis, Store.write_self] at stored
    cases stored
    exact Nat.add_le_add_right read _
  · rw [perform_set_ok performed] at stored
    have other : Key.submitted matchId user ≠ .endTs matchId := nofun
    rw [withRedis_redis, Store.write_of_ne other] at stored
    obtain ⟨endTs, ended, _⟩ := inv.locks lock stored
    unfold World.storedEnd at ended
    rw [absent] at ended
    cases ended
  · rw [perform_set_ok performed]
    exact inv.judged pair inside

/-- **The lock is taken**: it was not taken before, for it outlives every check of the deadline by an hour. -/
theorem lock_step {endTs now : ℕ} {taken : Bool} (inv : Single matchId user world record phases)
    (found : phases[index]? = some (event, .checked endTs now)) (before : now < endTs)
    (prompt : world.now ≤ now + 3600000)
    (performed : (Op.setNx (.submitted matchId user) () 7200).perform env choice world =
      some (.ok taken, world')) :
    Single matchId user world' record
        (phases.set index (event, if taken then .locked else .checked endTs now)) ∧
      Retains matchId user world world' := by
  have member := List.mem_of_getElem? found
  have ended : world.storedEnd matchId = some endTs := inv.sound _ member
  rcases perform_setNx_ok performed with ⟨rfl, _, rfl⟩ | ⟨rfl, unread, rfl⟩
  · rw [if_neg Bool.false_ne_true]
    refine ⟨inv.advance found (.refl _) ended (fun stage => ?_) inv.ends inv.locks inv.judged, .refl _⟩
    omega
  · have absent : world.redis (.submitted matchId user) = none := by
      by_contra stored
      obtain ⟨lock, stored⟩ := Option.ne_none_iff_exists'.mp stored
      obtain ⟨endTs', ended', live⟩ := inv.locks lock stored
      cases ended.symm.trans ended'
      have readable := Store.read_eq_some.mpr ⟨lock, stored, (by omega : world.now ≤ lock.expiresAt), rfl⟩
      rw [unread] at readable
      cases readable
    have unwritten := written_of_none absent
    have retains : Retains matchId user world (world.withRedis (world.redis.write (.submitted matchId user) ()
        (world.expiry 7200))) := .of_write absent _ _
    refine ⟨inv.advance found retains trivial (fun stage => ?_) (fun endTs' stored => ?_) (fun lock stored => ?_)
      inv.judged, retains⟩
    · exact (Entrusted.lock endTs now).balance unwritten _ _ record stage
    · exact inv.ends endTs' (by simpa [World.storedEnd] using stored)
    · rw [withRedis_redis, Store.write_self] at stored
      cases stored
      have half := inv.ends endTs ended
      refine ⟨endTs, retains.ended ended, ?_⟩
      simp only [World.expiry, matchDurationMs] at half ⊢
      omega

theorem write_step {key : Key} {value : key.Val} {seconds : ℕ} (inv : Single matchId user world record phases)
    (found : phases[index]? = some (event, phase)) (unwritten : world.written key = 0)
    (unlocked : Key.submitted matchId user ≠ key) (timeless : Key.endTs matchId ≠ key)
    (performed : (Op.set key value seconds).perform env choice world = some (.ok (), world'))
    (sound : phase'.sound matchId user world')
    (balance : ∀ stage : Milestone, stage.done matchId user world' record +
        Relay.share Progress.milestone phase' stage + stage.due matchId user world record ≤
      stage.due matchId user world' record + stage.done matchId user world record +
        Relay.share Progress.milestone phase stage) :
    Single matchId user world' record (phases.set index (event, phase')) ∧ Retains matchId user world world' := by
  have retains : Retains matchId user world world' := by
    rw [perform_set_ok performed]
    exact .of_write (none_of_written unwritten) _ _
  refine ⟨inv.advance found retains sound balance (fun endTs stored => ?_) (fun lock stored => ?_)
    fun pair inside => ?_, retains⟩
  · rw [perform_set_ok performed] at stored ⊢
    unfold World.storedEnd at stored
    rw [withRedis_redis, Store.write_of_ne timeless] at stored
    exact inv.ends endTs stored
  · rw [perform_set_ok performed, withRedis_redis, Store.write_of_ne unlocked] at stored
    obtain ⟨endTs, ended, live⟩ := inv.locks lock stored
    exact ⟨endTs, retains.ended ended, live⟩
  · rw [perform_set_ok performed]
    exact inv.judged pair inside

/-- **The time is written** by who holds the lock. -/
theorem time_step {time : JsNum} {seconds : ℕ} (inv : Single matchId user world record phases)
    (found : phases[index]? = some (event, .locked))
    (performed : (Op.set (.time matchId user) time seconds).perform env choice world = some (.ok (), world')) :
    Single matchId user world' record (phases.set index (event, .timed)) ∧ Retains matchId user world world' := by
  have unwritten : world.written (.time matchId user) = 0 := inv.pending found rfl
  refine inv.write_step found unwritten nofun nofun performed trivial fun stage => ?_
  rw [perform_set_ok performed]
  exact Entrusted.time.balance unwritten _ _ record stage

/-- **The score is written** by who has the verdict. -/
theorem score_step {score : JsNum} {seconds : ℕ} (inv : Single matchId user world record phases)
    (found : phases[index]? = some (event, .evaluated))
    (performed : (Op.set (.score matchId user) score seconds).perform env choice world = some (.ok (), world')) :
    Single matchId user world' record (phases.set index (event, .away)) ∧ Retains matchId user world world' := by
  have unwritten : world.written (.score matchId user) = 0 := inv.pending found rfl
  refine inv.write_step found unwritten nofun nofun performed trivial fun stage => ?_
  rw [perform_set_ok performed]
  exact Entrusted.score.balance unwritten _ _ record stage

/-- **The row is inserted**: there is none yet, so it is the row of this submission. -/
theorem enter_step {language code : JsVal} (inv : Single matchId user world record phases)
    (found : phases[index]? = some (event, .timed))
    (performed : (Op.query (.insertSubmission matchId user language code)).perform env choice world =
      some (.ok (), world')) :
    Single matchId user world' record (phases.set index (event, .entered language code)) ∧
      Retains matchId user world world' := by
  have unentered : world.db.entries matchId user = 0 := inv.pending found rfl
  have absent : world.db.entry matchId user = none := by
    by_contra stored
    unfold Db.entries at unentered
    rw [if_pos (Option.isSome_iff_ne_none.mpr stored)] at unentered
    cases unentered
  obtain ⟨pick, db', ran, rfl⟩ := perform_query_ok performed
  obtain ⟨stored, held, same⟩ : ∃ stored, db'.entry matchId user = some stored ∧
      (language.toSql, code.toSql) = (some stored.1, some stored.2) := by
    simp only [Query.exec] at ran
    split at ran
    · rename_i language' code' hLanguage hCode
      repeat' split at ran
      · cases ran
      · rename_i present
        unfold Db.entry at absent
        simp [Option.map_eq_none_iff.mp absent] at present
      · cases ran
      · cases ran
        exact ⟨(language', code'), by simp, by rw [hLanguage, hCode]⟩
    · cases ran
  have retains : Retains matchId user world (world.withDb db') := by
    refine ⟨le_rfl, fun _ _ _ => id, fun stored' held' => ?_⟩
    rw [absent] at held'
    cases held'
  have entered : db'.entries matchId user = 1 := by
    unfold Db.entries
    rw [held]
    rfl
  have cells : ∀ key, (world.withDb db').written key = world.written key := fun _ => rfl
  refine ⟨inv.advance found retains ⟨stored, held, same⟩ (fun stage => ?_) inv.ends inv.locks
    fun pair inside => ?_, retains⟩
  · cases stage
    all_goals
      simp only [Milestone.due, Milestone.done, withDb_db, unentered, entered, cells, Relay.share,
        Progress.milestone, Option.some.injEq, reduceCtorEq, if_false, if_true]
      omega
  · obtain ⟨stored', held', _⟩ := inv.judged pair inside
    rw [absent] at held'
    cases held'

/-- **The submission is evaluated**, and it is the one in the row. -/
theorem judge_step {language code : JsVal} {problemId : ProblemId}
    {reply : Except Err (Op.evaluateCode matchId user language code problemId).Reply}
    (inv : Single matchId user world record phases)
    (found : phases[index]? = some (event, .entered language code))
    (performed : (Op.evaluateCode matchId user language code problemId).perform env choice world =
      some (reply, world')) :
    Single matchId user world' { record with evaluated := record.evaluated ++ [(language, code)] }
        (phases.set index (event, .evaluated)) ∧ Retains matchId user world world' := by
  obtain rfl : world' = world := by
    cases reply with
    | error err => exact perform_error performed
    | ok result =>
      have proceeded := proceed_of_ok performed
      simp only [Op.proceed] at proceeded
      split at proceeded
      · cases proceeded
        rfl
      · cases proceeded
  refine ⟨inv.advance found (.refl _) trivial (fun stage => ?_) inv.ends inv.locks fun pair inside => ?_, .refl _⟩
  · cases stage
    all_goals
      simp only [Milestone.due, Milestone.done, List.length_append, List.length_singleton, Relay.share,
        Progress.milestone, Option.some.injEq, reduceCtorEq, if_false, if_true]
      omega
  · rcases List.mem_append.mp inside with old | new
    · exact inv.judged pair old
    · cases List.mem_singleton.mp new
      exact inv.sound _ (List.mem_of_getElem? found)

/-- **One step keeps the invariant**, if the identifier is given out once and the lock is asked for within the
hour. -/
theorem step (inv : Single matchId user world record phases) (found : phases[index]? = some (event, phase))
    (may : op.apart matchId user = true ∨ phase.permits op)
    (performed : op.perform env choice world = some (reply, world'))
    (fresh : choice = .fresh matchId → record.issued = false)
    (prompt : ∀ endTs now seconds, phase = .checked endTs now → op = .setNx (.submitted matchId user) () seconds →
      world.now ≤ now + 3600000) :
    Single matchId user world' (record.sees matchId user op reply)
        (phases.set index (event, phase.after matchId user op reply)) ∧ Retains matchId user world world' := by
  by_cases harmless : op.apart matchId user = true
  · exact inv.harmless_step found harmless performed fresh
  · have due := may.resolve_left harmless
    have own : ∀ {played sender}, ¬ (!(decide (played = matchId) && decide (sender = user))) = true →
        played = matchId ∧ sender = user := by
      intro played sender
      simp
    -- a step that fails changes nothing
    have failed : ∀ {err}, reply = .error err → phase.after matchId user op reply = phase →
        record.sees matchId user op reply = record →
        Single matchId user world' (record.sees matchId user op reply)
          (phases.set index (event, phase.after matchId user op reply)) ∧ Retains matchId user world world' := by
      rintro err rfl stays unseen
      rw [perform_error performed, stays, unseen]
      refine ⟨inv.advance found (.refl _) (inv.sound _ (List.mem_of_getElem? found)) (fun stage => ?_) inv.ends
        inv.locks inv.judged, .refl _⟩
      omega
    unfold Progress.permits at due
    split at due
    · rename_i now played endTs seconds
      obtain rfl : played = matchId := by simpa [Op.apart, Key.sealed] using harmless
      subst due
      cases reply with
      | error err => exact failed rfl rfl rfl
      | ok value =>
        rw [Progress.after, if_pos rfl]
        exact inv.create_step found performed
    · rename_i endTs now played sender value seconds
      obtain ⟨rfl, rfl⟩ := own harmless
      obtain ⟨before, rfl⟩ := due
      cases reply with
      | error err => exact failed rfl rfl rfl
      | ok taken =>
        have locked := inv.lock_step found before (prompt _ _ _ rfl rfl) performed
        cases taken with
        | false => exact locked
        | true =>
          rw [Progress.after, if_pos ⟨rfl, rfl⟩]
          exact locked
    · obtain ⟨rfl, rfl⟩ := own harmless
      cases reply with
      | error err => exact failed rfl rfl rfl
      | ok value =>
        rw [Progress.after, if_pos ⟨rfl, rfl⟩]
        exact inv.time_step found performed
    · obtain ⟨rfl, rfl⟩ := own harmless
      cases reply with
      | error err => exact failed rfl rfl rfl
      | ok value =>
        rw [Progress.after, if_pos ⟨rfl, rfl⟩]
        exact inv.enter_step found performed
    · obtain ⟨rfl, rfl⟩ := own harmless
      obtain ⟨rfl, rfl⟩ := due
      rw [Progress.after, if_pos ⟨rfl, rfl⟩, Record.sees, if_pos ⟨rfl, rfl⟩]
      exact inv.judge_step found performed
    · obtain ⟨rfl, rfl⟩ := own harmless
      cases reply with
      | error err => exact failed rfl rfl rfl
      | ok value =>
        rw [Progress.after, if_pos ⟨rfl, rfl⟩]
        exact inv.score_step found performed
    · cases due

end Single

end Inv

/-! ### Whole runs -/

/-- A handler that is about to ask for the lock does so within an hour of its check of the deadline. -/
def Progress.prompt (matchId : MatchId) (user : UserId) (now : ℕ) : Progress → Option Op → Bool
  | checked _ check, some (.setNx (.submitted played sender) ..) =>
    !(played = matchId && sender = user) || now ≤ check + 3600000
  | _, _ => true

/-- **The condition on a run**: the identifier of the match is given out once, `code:submit` asks for its lock
within an hour of its check of the deadline, and no other part of the system touches a submission. -/
def regular (matchId : MatchId) (user : UserId) (w : Watched (submitting matchId user) World Handler Record) :
    BackendMove → Bool
  | .start _ => true
  | .step index choice => (choice ≠ .fresh matchId || !w.notes.issued) &&
    (w.threads[index]?).all fun thread => Progress.prompt matchId user w.state.now thread.phase thread.prog.head
  | .outside (.tick _) => true
  | .outside (.act _ op) => op.apart matchId user

/-- Neither the timer of the match nor a submission of the user for it has been written. -/
structure World.Unplayed (world : World) (matchId : MatchId) (user : UserId) : Prop where
  cells : ∀ key, key.sealed matchId user = true → world.redis key = none
  entry : world.db.submissions matchId user = none

section Runs

variable {env : Env} {matchId : MatchId} {user : UserId} {world world' : World}

theorem spares_of_arrive {event : Handler} (arrived : event.arrive world = some world') :
    Spares matchId user world world' := by
  obtain ⟨redis, db⟩ := arrive_frame arrived
  refine ⟨(arrive_now arrived).ge, fun key _ => ?_, ?_⟩
  · rw [redis]
  · rw [db]

theorem spares_of_outside {act : Outside} (harmless : ∀ choice op, act = .act choice op →
    op.apart matchId user = true) (acted : act.run env world = some world') :
    Spares matchId user world world' := by
  cases act with
  | tick ms =>
    cases acted
    exact ⟨Nat.le_add_right _ _, fun _ _ => rfl, rfl⟩
  | act choice op =>
    obtain ⟨⟨reply, state⟩, performed, rfl⟩ := Option.map_eq_some_iff.mp acted
    have spared := harmless choice op rfl
    exact ⟨(now_frame performed).ge, fun _ own => sealed_frame performed spared own, entry_frame performed spared⟩

/-- **The vigil over a user's submissions**, which knows what was written at some earlier point. -/
def onceVigil (env : Env) (matchId : MatchId) (user : UserId) (earlier : World) :
    Vigil (backend env) (recorder matchId user) (fun w move => regular matchId user w move = true) where
  finished _ := True
  Inv world record phases := Single matchId user world record phases ∧ Retains matchId user earlier world
  keeps event _ := (Task.keeps_run _ _ _).mpr (handler_submitting env event)
  enters _ _ _ := trivial
  forks _ _ _ _ _ := trivial
  start w event state inv _ arrived := by
    have spares : Spares matchId user w.state state := spares_of_arrive arrived
    exact ⟨(inv.1.spared spares).append [event], inv.2.trans spares.retains⟩
  step w index choice event phase op next reply state inv allowed found inPhase may performed := by
    obtain ⟨given, prompt⟩ : (choice ≠ .fresh matchId ∨ w.notes.issued = false) ∧
        Progress.prompt matchId user w.state.now phase (some op) = true := by
      have allowed : ((choice ≠ .fresh matchId || !w.notes.issued) && (w.threads[index]?).all
        fun thread => Progress.prompt matchId user w.state.now thread.phase thread.prog.head) = true := allowed
      rw [found] at allowed
      simpa using allowed
    obtain ⟨kept, retains⟩ := inv.1.step inPhase may performed
      (fun fresh => given.resolve_left (not_not.mpr fresh)) (by
        rintro endTs now seconds rfl rfl
        simpa [Progress.prompt] using prompt)
    exact ⟨trivial, kept.append _, inv.2.trans retains⟩
  outside w act state inv allowed acted := by
    have spares : Spares matchId user w.state state := by
      refine spares_of_outside ?_ acted
      rintro choice op rfl
      exact allowed
    exact ⟨inv.1.spared spares, inv.2.trans spares.retains⟩

/-- Before the match has an identifier, nothing is counted. -/
theorem single_of_unplayed (unplayed : world.Unplayed matchId user) : Single matchId user world {} [] := by
  have own : (decide (matchId = matchId) && decide (user = user)) = true := by simp
  have ends := unplayed.cells (.endTs matchId) (decide_eq_true rfl)
  have entry : world.db.entry matchId user = none := by
    unfold Db.entry
    rw [unplayed.entry]
    rfl
  refine ⟨fun stage => ?_, List.forall_mem_nil _, fun endTs stored => ?_, fun lock stored => ?_,
    List.forall_mem_nil _⟩
  · have undone : stage.done matchId user world {} = 0 := by
      cases stage with
      | creating => exact written_of_none ends
      | timing => exact written_of_none (unplayed.cells (.time matchId user) own)
      | entering =>
        show Db.entries _ _ _ = 0
        unfold Db.entries
        rw [entry]
        rfl
      | judging => rfl
      | scoring => exact written_of_none (unplayed.cells (.score matchId user) own)
    rw [List.countP_nil, undone]
    exact Nat.zero_le _
  · unfold World.storedEnd at stored
    rw [ends] at stored
    cases stored
  · rw [unplayed.cells (.submitted matchId user) own] at stored
    cases stored

end Runs

/-- Users 1 and 2 are matched, as match 7. User 1 submits from two tabs: both check the deadline, one takes the
lock and is evaluated. -/
def submitsTwice : List BackendMove :=
  joinsAndPlays ++ List.replicate 10 (.step 1 .proceed) ++
    [.start (.codeSubmit 1 7 (.str ['c']) (.str ['x'])), .start (.codeSubmit 1 7 (.str ['c']) (.str ['y']))] ++
    List.replicate 4 (.step 3 .proceed) ++ List.replicate 4 (.step 4 .proceed) ++
    List.replicate 9 (.step 3 .proceed) ++ [.step 3 (.verdict (points 50 1 .partialScore)), .step 3 .proceed]

/-- The other tab is refused. Two hours and a half later the lock has expired, and so has the match. -/
def submitsAgain : List BackendMove :=
  List.replicate 2 (.step 4 .proceed) ++ .outside (.tick 9000000) ::
    .start (.codeSubmit 1 7 (.str ['c']) (.str ['z'])) :: List.replicate 2 (.step 5 .proceed)

end SkillArena
