/-
**Which handlers touch what.**

The operations fall into departments: playing a match, crediting a payment, the presence of a user, the
queues. A handler works in its own departments only (`Handler.asks_within`): the resolved flag, the
scores and the settlements belong to `code:submit`, `match:forfeit_request`, the forfeit check after a
disconnect and the timer, the credits to the payment handlers, and so on. Inside the four handlers of a
match, everything but `resolveMatch` and the refund of a match that cannot be judged is idle for whoever
watches settlements (`codeSubmit_stable`, …): the rules of such a watcher are a `Referee`. The handlers
that create matches write the state of a match with a fresh identifier only: the rules of a watcher of the
other matches are a `Registrar`.
-/

import SkillArena.Model.Connection

namespace SkillArena

open Async

/-! ### Kinds of operations -/

/-- The match a key belongs to. -/
def Key.ofMatch : Key → Option MatchId
  | state matchId | resolved matchId | startTs matchId | endTs matchId => some matchId
  | submitted matchId _ | score matchId _ | time matchId _ => some matchId
  | _ => none

/-- The departments of the backend; `record` writes the state and the timer of a match, `leave` takes a
user out of the queues, `sample` reads the tests of a match. -/
inductive Department
  | play
  | sample
  | record
  | pay
  | presence
  | queue
  | leave
  deriving DecidableEq

/-- The department an operation belongs to; the others are common to all. -/
def Op.department : Op → Option Department
  | get (.resolved _) => some .play
  | get (.presence _) => some .presence
  | set (.resolved _) .. | set (.score ..) .. | set (.time ..) .. | set (.submitted ..) .. => some .play
  | set (.state _) .. | set (.startTs _) .. | set (.endTs _) .. => some .record
  | set (.presence _) .. | setNx (.presence _) .. | del (.presence _) => some .presence
  | setNx .. => some .play
  | del key => if key.ofMatch.isSome then some .play else none
  | query (.insertSubmission ..) | query (.cancelMatch _) | query (.recordVerdict ..) => some .play
  | query (.completeMatch ..) => some .play
  | query (.testCasesOfMatch _) => some .sample
  | query (.pickProblem ..) => some .queue
  | query (.depositsLike _) | query (.transactionsLike _) => some .pay
  | transact (.releaseEscrowToWinner ..) | transact (.refundBothPlayers ..) => some .play
  | transact (.creditVerified ..) | transact (.creditWebhook ..) => some .pay
  | transact (.createMatch ..) => some .queue
  | transact (.deposit ..) | transact (.withdraw ..) => some .pay
  | evaluateCode .. => some .play
  | register .. => some .presence
  | memory (.removeFromMemoryQueue _) => some .leave
  | memory _ => some .queue
  | emit _ .queueLeft => some .queue
  | fork (.timerExpiry ..) | fork (.queueJoin ..) | fork (.queueLeave _) | fork (.worker _) => some .queue
  | fork (.verifyPayment ..) | fork (.webhook ..) => some .pay
  | fork _ => some .presence
  | _ => none

/-- The operation is common or of one of the given departments. -/
def Op.belongs (departments : List Department) (op : Op) : Bool :=
  op.department.all fun department => departments.contains department

def Op.within (departments : List Department) (op : Op) : Prop := op.belongs departments = true

theorem within_mono {departments more : List Department} (included : departments ⊆ more) {op : Op}
    (inside : op.within departments) : op.within more := by
  unfold Op.within Op.belongs at inside ⊢
  cases department : op.department with
  | none => rfl
  | some department' =>
    rw [department] at inside
    simpa using included (by simpa using inside)

theorem department_ne {departments : List Department} {department : Department} {op : Op}
    (inside : op.within departments) (other : departments.contains department = false) :
    op.department ≠ some department := by
  intro same
  unfold Op.within Op.belongs at inside
  rw [same] at inside
  exact Bool.eq_false_iff.mp other inside

/-- Operations that settle a match, or that a settlement goes by. -/
def Op.settling : Op → Bool
  | get (.resolved _) | get (.state _) => true
  | set (.resolved _) .. | set (.state _) .. => true
  | setNx (.resolved _) .. | setNx (.state _) .. => true
  | del (.resolved _) | del (.state _) => true
  | query (.cancelMatch _) | query (.completeMatch ..) => true
  | transact _ => true
  | _ => false

/-- The operation is idle for who watches settlements, and awaited only by the handlers of a match. -/
def Op.sideline (op : Op) : Bool := !op.settling && op.belongs [.play]

/-- The operations after the payout, the row of the match apart. -/
def Op.bookkeeping (matchId : MatchId) : Op → Bool
  | get (.score matchId' _) | get (.time matchId' _) => matchId' = matchId
  | query (.selectHearts _) | query (.loseHeart ..) | query (.regainHeart _) => true
  | query (.countWin _) | query (.countLoss _) | query (.selectBalance _) => true
  | del (.activeMatch _) => true
  | dateNow => true
  | emit _ (.result ..) => true
  | _ => false

theorem sideline_of_bookkeeping {matchId : MatchId} {op : Op} (kept : op.bookkeeping matchId = true) :
    op.sideline = true := by
  unfold Op.bookkeeping at kept
  split at kept
  all_goals first | rfl | cases kept

/-- The operation neither takes a heart nor turns a player away from a queue. -/
def Op.heartless : Op → Bool
  | query (.loseHeart ..) | emit (.sender _) (.queueError _) => false
  | _ => true

/-- The operation is of the given departments and leaves the hearts alone. -/
def Op.plainly (departments : List Department) (op : Op) : Prop :=
  op.within departments ∧ op.heartless = true

/-- The match a handler plays, if it is one of the four. -/
def Handler.plays : Handler → Option MatchId
  | codeSubmit _ matchId _ _ => some matchId
  | forfeitRequest _ matchId _ => some matchId
  | timerExpiry matchId _ => some matchId
  | disconnectForfeit _ matchId _ _ => some matchId
  | _ => none

/-- The departments a handler works in. -/
def Handler.departments : Handler → List Department
  | codeSubmit .. | forfeitRequest .. | timerExpiry .. => [.play, .record]
  | disconnectForfeit .. => [.play, .record, .presence]
  | codeRun .. => [.sample]
  | connection .. => [.presence]
  | disconnect .. => [.presence, .leave]
  | queueJoin .. | worker _ => [.queue, .record]
  | queueLeave _ => [.leave, .queue]
  | verifyPayment .. | webhook .. => [.pay]
  | _ => []

/-! ### Calls -/

/-- One call, and what follows it for each answer the contract allows. -/
theorem keeps_call_bind {C : Contract signature} {phase : C.Phase} {β : Type} {op : Op}
    {rest : op.Reply → Promise β} {post : Except Err β → C.Phase → Prop} (may : C.may phase op)
    (next : ∀ value, C.answers phase op (.ok value) →
      (rest value).Keeps C (C.after phase op (.ok value)) post)
    (failed : ∀ err, C.answers phase op (.error err) →
      post (.error err) (C.after phase op (.error err))) : (op.call >>= rest).Keeps C phase post := by
  refine (Task.keeps_bind _ _ _ _).mpr ⟨may, fun reply answers => ?_⟩
  cases reply with
  | error err => exact failed err answers
  | ok value => exact next value answers

/-! ### The other handlers -/

section Asks

variable {P : Op → Prop}

theorem asks_call {op : Op} (holds : P op) : op.call.Asks (S := signature) P := ⟨holds, fun _ => trivial⟩

open Async.Task (asks_pure asks_throw asks_bind asks_attempt)

theorem getMatchTimer_asks (matchId : MatchId) (started : P (.get (.startTs matchId)))
    (ends : P (.get (.endTs matchId))) (clock : P .dateNow) : (getMatchTimer matchId).Asks P := by
  refine asks_bind (asks_call started) fun startTs => asks_bind (asks_call ends) fun endTs => ?_
  cases startTs with
  | none => exact asks_pure _
  | some startTs =>
    cases endTs with
    | none => exact asks_pure _
    | some endTs => exact asks_bind (asks_call clock) fun _ => asks_pure _

theorem updateHearts_asks (winnerId loserId : UserId) (clock : P .dateNow)
    (select : P (.query (.selectHearts loserId)))
    (lose : ∀ losses hearts resetAt, P (.query (.loseHeart loserId losses hearts resetAt)))
    (regain : P (.query (.regainHeart winnerId))) : (updateHearts winnerId loserId).Asks P := by
  refine asks_attempt (asks_bind (asks_bind (asks_call select) fun loser => ?_) fun _ => asks_call regain)
    fun _ => asks_pure _
  cases loser with
  | none => exact asks_pure _
  | some loser =>
    simp only
    split
    · exact asks_pure _
    · simp only [loseHeart]
      split
      · exact asks_bind (asks_call clock) fun _ => asks_call (lose _ _ _)
      · exact asks_call (lose _ _ _)

theorem runSample_asks (language code : JsVal) (clock : P .dateNow)
    (execute : ∀ stdin, P (.executeCode language code stdin)) (index : ℕ) (testCase : TestCase) :
    (runSample language code index testCase).Asks P :=
  asks_bind (asks_call clock) fun _ => asks_attempt (asks_bind (asks_call (execute _)) fun _ =>
    asks_bind (asks_call clock) fun _ => asks_pure _) fun _ => asks_pure _

theorem runSamples_asks (language code : JsVal) (clock : P .dateNow)
    (execute : ∀ stdin, P (.executeCode language code stdin)) (testCases : List TestCase) (index : ℕ) :
    (runSamples language code index testCases).Asks P := by
  induction testCases generalizing index with
  | nil => exact asks_pure _
  | cons testCase rest ih =>
    exact asks_bind (runSample_asks language code clock execute index testCase) fun _ =>
      asks_bind (ih (index + 1)) fun _ => asks_pure _

/-- The operation only reads or sends. -/
def Op.passive : Op → Prop
  | get key => (∀ matchId, key ≠ .resolved matchId) ∧ ∀ user, key ≠ .presence user
  | query (.testCasesOfMatch _) => True
  | executeCode .. | dateNow => True
  | emit _ event => event ≠ .queueLeft
  | _ => False

theorem within_of_passive (op : Op) (passive : op.passive) : op.within [.sample] := by
  cases op with
  | get key =>
    cases key
    case resolved matchId => exact absurd rfl (passive.1 matchId)
    case presence user => exact absurd rfl (passive.2 user)
    all_goals rfl
  | query sql =>
    cases sql
    case testCasesOfMatch => rfl
    all_goals cases passive
  | executeCode => rfl
  | dateNow => rfl
  | emit room event =>
    cases event
    case queueLeft => exact absurd rfl passive
    all_goals rfl
  | _ => cases passive

/-- The operation only reads or sends, and turns nobody away. -/
def Op.calm (op : Op) : Prop := op.passive ∧ op.heartless = true

/-- The operation is calm and common to all departments. -/
def Op.mild (op : Op) : Prop := op.calm ∧ op.within []

theorem matchJoin_mild (userId : UserId) (matchId : MatchId) : (matchJoin userId matchId).Asks Op.mild := by
  have tells : ∀ {room : Room} {event : Event}, (Op.emit room event).mild →
      (emit room event).Asks Op.mild := asks_call
  refine asks_attempt (asks_bind (asks_call ⟨⟨⟨nofun, nofun⟩, rfl⟩, rfl⟩) fun stored => ?_) fun _ => asks_pure _
  cases stored with
  | none => exact tells ⟨⟨nofun, rfl⟩, rfl⟩
  | some matchState =>
    simp only
    split
    · exact tells ⟨⟨nofun, rfl⟩, rfl⟩
    · exact asks_bind (getMatchTimer_asks matchId ⟨⟨⟨nofun, nofun⟩, rfl⟩, rfl⟩ ⟨⟨⟨nofun, nofun⟩, rfl⟩, rfl⟩
        ⟨⟨trivial, rfl⟩, rfl⟩) fun _ => asks_bind (asks_call ⟨⟨trivial, rfl⟩, rfl⟩) fun _ =>
          asks_bind (tells ⟨⟨nofun, rfl⟩, rfl⟩) fun _ => tells ⟨⟨nofun, rfl⟩, rfl⟩

theorem timerRequest_mild (userId : UserId) (matchId : MatchId) :
    (timerRequest userId matchId).Asks Op.mild := by
  refine asks_attempt (asks_bind (getMatchTimer_asks matchId ⟨⟨⟨nofun, nofun⟩, rfl⟩, rfl⟩
    ⟨⟨⟨nofun, nofun⟩, rfl⟩, rfl⟩ ⟨⟨trivial, rfl⟩, rfl⟩) fun timer => ?_) fun _ => asks_pure _
  cases timer with
  | none => exact asks_pure _
  | some timer =>
    exact asks_bind (asks_call ⟨⟨trivial, rfl⟩, rfl⟩) fun _ => asks_call ⟨⟨nofun, rfl⟩, rfl⟩

theorem matchJoin_calm (userId : UserId) (matchId : MatchId) : (matchJoin userId matchId).Asks Op.calm :=
  (matchJoin_mild userId matchId).mono fun _ => And.left

theorem timerRequest_calm (userId : UserId) (matchId : MatchId) : (timerRequest userId matchId).Asks Op.calm :=
  (timerRequest_mild userId matchId).mono fun _ => And.left

theorem codeRun_calm (userId : UserId) (matchId : MatchId) (language code : JsVal) :
    (codeRun userId matchId language code).Asks Op.calm := by
  have key : ∀ {key : Key}, (Op.get key).passive → (Op.get key).calm := fun passive => ⟨passive, rfl⟩
  refine asks_attempt (asks_bind (asks_call (key ⟨nofun, nofun⟩)) fun stored => ?_)
    fun _ => asks_call ⟨nofun, rfl⟩
  cases stored with
  | none => exact asks_call ⟨nofun, rfl⟩
  | some matchState =>
    simp only
    split
    · exact asks_call ⟨nofun, rfl⟩
    · refine asks_bind (getMatchTimer_asks matchId (key ⟨nofun, nofun⟩) (key ⟨nofun, nofun⟩) ⟨trivial, rfl⟩)
        fun timer => ?_
      split
      · exact asks_call ⟨nofun, rfl⟩
      · refine asks_bind (asks_call ⟨nofun, rfl⟩) fun _ => asks_bind (asks_call ⟨trivial, rfl⟩) fun tests => ?_
        cases tests with
        | none => exact asks_call ⟨nofun, rfl⟩
        | some tests =>
          simp only
          split
          · exact asks_call ⟨nofun, rfl⟩
          · exact asks_bind (runSamples_asks language code ⟨trivial, rfl⟩ (fun _ => ⟨trivial, rfl⟩) _ 1) fun _ =>
              asks_call ⟨nofun, rfl⟩

theorem matchJoin_passive (userId : UserId) (matchId : MatchId) :
    (matchJoin userId matchId).Asks Op.passive := (matchJoin_calm userId matchId).mono fun _ => And.left

theorem timerRequest_passive (userId : UserId) (matchId : MatchId) :
    (timerRequest userId matchId).Asks Op.passive := (timerRequest_calm userId matchId).mono fun _ => And.left

theorem codeRun_passive (userId : UserId) (matchId : MatchId) (language code : JsVal) :
    (codeRun userId matchId language code).Asks Op.passive :=
  (codeRun_calm userId matchId language code).mono fun _ => And.left

theorem plain_call {departments : List Department} {op : Op} (inside : op.within departments)
    (heartless : op.heartless = true := by rfl) : op.call.Asks (S := signature) (Op.plainly departments) :=
  asks_call ⟨inside, heartless⟩

theorem connection_plain (userId : UserId) (socket : SocketId) :
    (connection userId socket).Asks (Op.plainly [.presence]) :=
  asks_bind (plain_call rfl) fun _ => plain_call rfl

theorem disconnect_plain (userId : UserId) (socket : SocketId) (position : ℕ) :
    (disconnect userId socket position).Asks (Op.plainly [.presence, .leave]) := by
  refine asks_bind (plain_call rfl) fun _ => asks_bind (plain_call rfl) fun _ => asks_bind ?_ fun _ =>
    asks_bind ?_ fun _ => ?_
  · refine asks_bind (plain_call rfl) fun current => ?_
    split
    · exact plain_call rfl
    · exact asks_pure _
  · refine asks_bind (plain_call rfl) fun active => ?_
    cases active with
    | none => exact asks_pure _
    | some matchId => exact asks_bind (plain_call rfl) fun _ => plain_call rfl
  · refine asks_bind (plain_call rfl) fun queued => ?_
    cases queued with
    | none => exact asks_pure _
    | some fee =>
      exact asks_bind (plain_call rfl) fun _ => asks_bind (plain_call rfl) fun _ => plain_call rfl

theorem heartsCheck_asks (userId : UserId) (clock : P .dateNow)
    (select : P (.query (.selectHearts userId))) (restore : P (.query (.restoreHearts userId)))
    (send : ∀ message, P (.emit (.sender userId) (.queueError message))) :
    (heartsCheck userId).Asks P := by
  refine asks_attempt (asks_bind (asks_call select) fun userData => ?_) fun _ => asks_pure _
  cases userData with
  | none => exact asks_pure _
  | some userData =>
    simp only
    split
    · exact asks_pure _
    · refine asks_bind (asks_call clock) fun now => ?_
      split
      · exact asks_bind (asks_call restore) fun _ => asks_pure _
      · split
        · exact asks_bind (asks_call (send _)) fun _ => asks_pure _
        · exact asks_pure _

theorem queueLeave_plain (userId : UserId) : (queueLeave userId).Asks (Op.plainly [.leave, .queue]) :=
  asks_attempt (asks_bind (plain_call rfl) fun _ => asks_bind (plain_call rfl) fun _ =>
    asks_bind (plain_call rfl) fun _ => asks_bind (plain_call rfl) fun _ => plain_call rfl) fun _ => asks_pure _

theorem verifyPayment_plain (env : Env) (userId : UserId) (orderId paymentId signature : Text) :
    (verifyPayment env userId orderId paymentId signature).Asks (Op.plainly [.pay]) := by
  unfold verifyPayment
  split
  · exact asks_throw _
  · refine asks_bind ?_ fun _ => asks_pure _
    simp only [verifyAndCreditWallet]
    split
    · exact asks_throw _
    · refine asks_bind (plain_call rfl) fun _ => asks_bind (plain_call rfl) fun existing => ?_
      split
      · exact asks_throw _
      · exact asks_bind (plain_call rfl) fun _ => asks_pure _

theorem handleWebhook_plain (env : Env) (body signature : Text) :
    (handleWebhook env body signature).Asks (Op.plainly [.pay]) := by
  simp only [handleWebhook]
  split
  · exact asks_throw _
  · cases env.parseWebhook body with
    | error err => exact asks_throw _
    | ok event =>
      simp only
      split
      · cases event.userId with
        | none => exact asks_pure _
        | some userId =>
          refine asks_bind (plain_call rfl) fun existing => ?_
          split
          · exact asks_pure _
          · exact plain_call rfl
      · exact asks_pure _

end Asks

/-! ### The handlers of a match -/

/-- The winner and the loser of a decision are the two players. -/
def MatchState.Decides (matchState : MatchState) (pair : UserId × UserId) : Prop :=
  pair = (matchState.playerAId, matchState.playerBId) ∨ pair = (matchState.playerBId, matchState.playerAId)

theorem decides_byTime (matchState : MatchState) (first : Prop) [Decidable first] :
    matchState.Decides (if first then matchState.playerAId else matchState.playerBId,
      if (if first then matchState.playerAId else matchState.playerBId) = matchState.playerAId then
        matchState.playerBId else matchState.playerAId) := by
  by_cases holds : first
  · rw [if_pos holds, if_pos rfl]
    exact .inl rfl
  · rw [if_neg holds]
    by_cases same : matchState.playerBId = matchState.playerAId
    · rw [if_pos same]
      exact .inl (by rw [same])
    · rw [if_neg same]
      exact .inr rfl

theorem decideWinner_decides (matchState : MatchState) (scoreA scoreB timeA timeB : JsNum) :
    matchState.Decides (decideWinner matchState scoreA scoreB timeA timeB) := by
  unfold decideWinner
  by_cases aWins : scoreA.gt scoreB
  · rw [if_pos aWins]
    exact .inl rfl
  by_cases bWins : scoreB.gt scoreA
  · rw [if_neg aWins, if_pos bWins]
    exact .inr rfl
  · rw [if_neg aWins, if_neg bWins]
    exact decides_byTime matchState _

theorem decideAtExpiry_decides (matchState : MatchState) (scoreA scoreB timeA timeB : JsNum) :
    matchState.Decides (decideAtExpiry matchState scoreA scoreB timeA timeB) := by
  unfold decideAtExpiry
  by_cases aWins : scoreA.gt scoreB
  · rw [if_pos aWins]
    exact .inl rfl
  by_cases bWins : scoreB.gt scoreA
  · rw [if_neg aWins, if_pos bWins]
    exact .inr rfl
  by_cases neither : timeA.eq (.int 999999) && timeB.eq (.int 999999)
  · rw [if_neg aWins, if_neg bWins, if_pos neither]
    exact .inl rfl
  · rw [if_neg aWins, if_neg bWins, if_neg neither]
    exact decides_byTime matchState _

/-- **The rules of a watcher of settlements**, over the handlers of one match: everything else is idle,
the match states that can be read are known, a refund of the players of a known state is stable, and so
is the `try` block of a resolution between them. -/
structure Referee (C : Contract signature) (Q : C.Phase → Prop) (matchId : MatchId) where
  known : MatchState → Prop
  idle : ∀ phase op, Q phase → op.sideline = true → op.heartless = true →
    C.may phase op ∧ ∀ reply, C.answers phase op reply → Q (C.after phase op reply)
  state : ∀ phase, Q phase → C.may phase (.get (.state matchId)) ∧
    ∀ reply, C.answers phase (.get (.state matchId)) reply →
      Q (C.after phase (.get (.state matchId)) reply) ∧ ∀ matchState, reply = .ok (some matchState) →
        known matchState
  refund : ∀ matchState, known matchState → (transact (.refundBothPlayers matchState.playerAId
    matchState.playerBId matchState.entryFee matchId)).Stable C Q
  cancel : (poolQuery (.cancelMatch matchId)).Stable C Q
  body : ∀ matchState pair resolveType, known matchState → matchState.Decides pair →
    (resolveBody matchId pair.1 pair.2 resolveType).Stable C Q

open Async.Task (stable_pure stable_bind stable_attempt)

/-- **What a resolution does after the payout**, up to the row of the match and the hearts. -/
theorem recordResult_stable_of {C : Contract signature} {Q : C.Phase → Prop} {matchId : MatchId}
    (idle : ∀ phase op, Q phase → op.bookkeeping matchId = true → op.heartless = true →
      C.may phase op ∧ ∀ reply, C.answers phase op reply → Q (C.after phase op reply))
    {winnerId : UserId} (complete : ∀ scoreA scoreB timeA timeB,
      (poolQuery (.completeMatch matchId winnerId scoreA scoreB timeA timeB)).Stable C Q)
    {loserId : UserId} (hearts : (updateHearts winnerId loserId).Stable C Q)
    (resolveType : ResolveType) (matchState : MatchState) (prize : ℚ × ℚ) :
    (recordResult matchId winnerId loserId resolveType matchState prize).Stable C Q := by
  have call : ∀ {op : Op}, op.bookkeeping matchId = true ∧ op.heartless = true → op.call.Stable C Q :=
    fun kept => (asks_call (P := fun op => op.bookkeeping matchId = true ∧ op.heartless = true) kept).stable
      fun phase op here both => idle phase op here both.1 both.2
  have read : ∀ user, (Op.get (.score matchId user)).call.Stable C Q ∧
      (Op.get (.time matchId user)).call.Stable C Q :=
    fun user => ⟨call ⟨decide_eq_true rfl, rfl⟩, call ⟨decide_eq_true rfl, rfl⟩⟩
  exact stable_bind (stable_bind (read _).1 fun _ => stable_pure _) fun scoreA =>
    stable_bind (stable_bind (read _).1 fun _ => stable_pure _) fun scoreB =>
    stable_bind (stable_bind (read _).2 fun _ => stable_pure _) fun timeA =>
    stable_bind (stable_bind (read _).2 fun _ => stable_pure _) fun timeB =>
    stable_bind (complete scoreA scoreB timeA timeB) fun _ => stable_bind hearts fun _ =>
    stable_bind (call ⟨rfl, rfl⟩) fun _ => stable_bind (call ⟨rfl, rfl⟩) fun _ =>
    stable_bind (call ⟨rfl, rfl⟩) fun _ => stable_bind (call ⟨rfl, rfl⟩) fun _ =>
    stable_bind (call ⟨rfl, rfl⟩) fun _ => call ⟨rfl, rfl⟩

/-- **What a resolution does after the payout**, where the hearts are bookkeeping too. -/
theorem recordResult_stable {C : Contract signature} {Q : C.Phase → Prop} {matchId : MatchId}
    (idle : ∀ phase op, Q phase → op.bookkeeping matchId = true →
      C.may phase op ∧ ∀ reply, C.answers phase op reply → Q (C.after phase op reply))
    {winnerId : UserId} (complete : ∀ scoreA scoreB timeA timeB,
      (poolQuery (.completeMatch matchId winnerId scoreA scoreB timeA timeB)).Stable C Q)
    (loserId : UserId) (resolveType : ResolveType) (matchState : MatchState) (prize : ℚ × ℚ) :
    (recordResult matchId winnerId loserId resolveType matchState prize).Stable C Q := by
  have hearts : (updateHearts winnerId loserId).Stable C Q :=
    (updateHearts_asks (P := fun op => op.bookkeeping matchId = true) winnerId loserId rfl rfl
      (fun _ _ _ => rfl) rfl).stable idle
  exact recordResult_stable_of (fun phase op here kept _ => idle phase op here kept) complete hearts resolveType
    matchState prize

theorem within_of_sideline {op : Op} (sideline : op.sideline = true) : op.within [.play, .record] := by
  have inside : op.within [.play] := (Bool.and_eq_true_iff.mp sideline).2
  exact within_mono (by simp) inside

/-- **The operations of a resolution**, the refund of one that fails included. -/
def Op.closes (matchId : MatchId) : Op → Bool
  | get (.resolved _) | get (.state _) | set (.resolved _) .. | set (.state _) .. => true
  | transact (.releaseEscrowToWinner ..) | transact (.refundBothPlayers ..) => true
  | query (.completeMatch ..) => true
  | emit _ (.matchError message) => message = "Match resolution failed. Both refunded."
  | op => op.bookkeeping matchId

theorem closes_of_bookkeeping {matchId : MatchId} {op : Op} (kept : op.bookkeeping matchId = true) :
    op.closes matchId = true := by
  unfold Op.closes
  split
  all_goals first | rfl | exact kept | cases kept

section Closing

open Async.Task (asks_pure asks_bind asks_attempt)

theorem resolveBody_closes (matchId : MatchId) (winnerId loserId : UserId) (resolveType : ResolveType) :
    (resolveBody matchId winnerId loserId resolveType).Asks fun op : Op => op.closes matchId = true := by
  refine asks_bind (asks_call rfl) fun flag => ?_
  cases flag with
  | some _ => exact asks_pure _
  | none =>
    refine asks_bind (asks_call rfl) fun _ => asks_bind (asks_call rfl) fun stored => ?_
    cases stored with
    | none => exact asks_pure _
    | some stored =>
      refine asks_bind (asks_call rfl) fun _ => asks_bind (asks_call rfl) fun prize => ?_
      exact (recordResult_stable (C := .asking fun op : Op => op.closes matchId = true) (Q := fun _ => True)
        (fun _ _ _ kept => ⟨closes_of_bookkeeping kept, fun _ _ => trivial⟩)
        (fun _ _ _ _ _ _ => ⟨rfl, fun _ _ => trivial⟩) _ _ _ _).asks

theorem resolveMatch_closes (matchId : MatchId) (winnerId loserId : UserId) (resolveType : ResolveType) :
    (resolveMatch matchId winnerId loserId resolveType).Asks fun op : Op => op.closes matchId = true := by
  refine asks_attempt (resolveBody_closes matchId winnerId loserId resolveType) fun _ =>
    asks_attempt (asks_bind (asks_call rfl) fun stored => ?_) fun _ => asks_pure _
  cases stored with
  | none => exact asks_pure _
  | some stored => exact asks_bind (asks_call rfl) fun _ => asks_call (by simp [Op.closes])

theorem determineAndResolveWinner_closes (matchId : MatchId) (matchState : MatchState) :
    (determineAndResolveWinner matchId matchState).Asks fun op : Op => op.closes matchId = true := by
  have read : ∀ player default, (readScore matchId player default).Asks (fun op : Op => op.closes matchId = true) ∧
      (readTime matchId player default).Asks fun op : Op => op.closes matchId = true :=
    fun _ _ => ⟨asks_bind (asks_call (decide_eq_true rfl)) fun _ => asks_pure _,
      asks_bind (asks_call (decide_eq_true rfl)) fun _ => asks_pure _⟩
  exact asks_bind (read _ _).1 fun _ => asks_bind (read _ _).1 fun _ => asks_bind (read _ _).2 fun _ =>
    asks_bind (read _ _).2 fun _ => resolveMatch_closes _ _ _ _

end Closing

theorem within_of_closes {matchId : MatchId} {op : Op} (closes : op.closes matchId = true) :
    op.within [.play, .record] := by
  unfold Op.closes at closes
  split at closes
  all_goals first | rfl | exact within_of_sideline (sideline_of_bookkeeping closes)

theorem resolveBody_within {departments : List Department} (included : [.play, .record] ⊆ departments)
    (matchId : MatchId) (winnerId loserId : UserId) (resolveType : ResolveType) :
    (resolveBody matchId winnerId loserId resolveType).Stable
      (.asking (Op.within departments)) fun _ => True :=
  (resolveBody_closes matchId winnerId loserId resolveType).stable fun _ _ _ closes =>
    ⟨within_mono included (within_of_closes closes), fun _ _ => trivial⟩

/-- The winner when a user forfeits. -/
def Referee.opponentOf (matchState : MatchState) (userId : UserId) : UserId :=
  if matchState.playerAId = userId then matchState.playerBId else matchState.playerAId

/-- **What the handlers of a match come down to** for a watcher, once they have read a known state of it: everything
but the refund of a match that cannot be judged and `resolveMatch` is idle, and these are stable. -/
structure Umpire (C : Contract signature) (Q : C.Phase → Prop) (matchId : MatchId) where
  known : MatchState → Prop
  idle : ∀ phase op, Q phase → op.sideline = true → op.heartless = true →
    C.may phase op ∧ ∀ reply, C.answers phase op reply → Q (C.after phase op reply)
  refunds : ∀ message (afterwards : Promise Unit), afterwards.Stable C Q →
    (refundUnjudged matchId message afterwards).Stable C Q
  cancel : (poolQuery (.cancelMatch matchId)).Stable C Q
  resolves : ∀ matchState pair resolveType, known matchState → matchState.Decides pair →
    (resolveMatch matchId pair.1 pair.2 resolveType).Stable C Q

namespace Umpire

variable {C : Contract signature} {Q : C.Phase → Prop} {matchId : MatchId} (U : Umpire C Q matchId)

include U

theorem call {op : Op} (sideline : op.sideline = true) (heartless : op.heartless = true := by rfl) :
    op.call.Stable C Q :=
  (asks_call (P := fun op => op.sideline = true ∧ op.heartless = true) ⟨sideline, heartless⟩).stable
    fun phase op here both => U.idle phase op here both.1 both.2

theorem readScore_stable (userId : UserId) (default : ℤ) : (readScore matchId userId default).Stable C Q :=
  stable_bind (U.call rfl) fun _ => stable_pure _

theorem readTime_stable (userId : UserId) (default : ℤ) : (readTime matchId userId default).Stable C Q :=
  stable_bind (U.call rfl) fun _ => stable_pure _

theorem getMatchTimer_stable : (getMatchTimer matchId).Stable C Q :=
  (getMatchTimer_asks (P := fun op => op.sideline = true ∧ op.heartless = true) matchId ⟨rfl, rfl⟩ ⟨rfl, rfl⟩
    ⟨rfl, rfl⟩).stable fun phase op here both => U.idle phase op here both.1 both.2

theorem determineAndResolveWinner_stable {matchState : MatchState} (known : U.known matchState) :
    (determineAndResolveWinner matchId matchState).Stable C Q :=
  stable_bind (U.readScore_stable _ _) fun scoreA => stable_bind (U.readScore_stable _ _) fun scoreB =>
    stable_bind (U.readTime_stable _ _) fun timeA => stable_bind (U.readTime_stable _ _) fun timeB =>
      U.resolves matchState _ _ known (decideWinner_decides matchState scoreA scoreB timeA timeB)

theorem afterEvaluation_stable (userId : UserId) {matchState : MatchState} (known : U.known matchState)
    (evalResult : EvalResult) : (afterEvaluation userId matchId matchState evalResult).Stable C Q := by
  unfold afterEvaluation
  split
  · exact U.refunds _ _ U.cancel
  · refine stable_bind (U.call rfl) fun _ => stable_bind (U.call rfl) fun _ =>
      stable_bind (U.call rfl) fun _ => stable_bind (U.call rfl) fun scoreA =>
      stable_bind (U.call rfl) fun scoreB => ?_
    split
    · exact U.determineAndResolveWinner_stable known
    · exact U.call rfl

theorem submitLocked_stable (userId : UserId) (language code : JsVal) {matchState : MatchState}
    (known : U.known matchState) : (submitLocked userId matchId language code matchState).Stable C Q := by
  refine stable_bind (U.call rfl) fun _ => stable_bind (U.call rfl) fun _ =>
    stable_bind (U.call rfl) fun startTs => stable_bind (U.call rfl) fun now =>
    stable_bind (U.call rfl) fun _ => stable_bind (U.call rfl) fun _ =>
    stable_bind (U.call rfl) fun problemId => ?_
  cases problemId with
  | none => exact U.refunds _ _ (stable_pure _)
  | some problemId =>
    exact stable_bind (U.call rfl) fun _ => stable_bind (U.call rfl) fun evalResult =>
      U.afterEvaluation_stable userId known evalResult

end Umpire

/-- **The way there**: up to the state of the match, everything is idle for the watcher too. -/
structure Umpire.Approach {C : Contract signature} {Q : C.Phase → Prop} {matchId : MatchId} (U : Umpire C Q matchId)
    (Q₀ : C.Phase → Prop) : Prop where
  idle : ∀ phase op, Q₀ phase → op.sideline = true → op.heartless = true →
    C.may phase op ∧ ∀ reply, C.answers phase op reply → Q₀ (C.after phase op reply)
  looks : ∀ phase, Q₀ phase → C.may phase (.get (.state matchId)) ∧
    ∀ reply, C.answers phase (.get (.state matchId)) reply →
      match reply with
      | .ok (some matchState) =>
        U.known matchState ∧ Q (C.after phase (.get (.state matchId)) (.ok (some matchState)))
      | reply => Q₀ (C.after phase (.get (.state matchId)) reply)

section Approach

variable {C : Contract signature} {Q Q₀ : C.Phase → Prop} {phase : C.Phase}

theorem approach_bind {α β : Type} {task : Promise α} {rest : α → Promise β} (first : task.Stable C Q₀)
    (here : Q₀ phase)
    (second : ∀ value phase, Q₀ phase → (rest value).Keeps C phase fun _ phase => Q₀ phase ∨ Q phase) :
    (task >>= rest).Keeps C phase fun _ phase => Q₀ phase ∨ Q phase := by
  refine (Task.keeps_bind _ _ _ _).mpr ((first phase here).mono ?_)
  rintro (err | value) phase' there
  · exact .inl there
  · exact second value phase' there

theorem approach_attempt {body : Promise Unit} {handler : Err → Promise Unit}
    (first : body.Keeps C phase fun _ phase => Q₀ phase ∨ Q phase)
    (before : ∀ err, (handler err).Stable C Q₀) (after : ∀ err, (handler err).Stable C Q) :
    (Task.attempt body handler).Keeps C phase fun _ phase => Q₀ phase ∨ Q phase := by
  refine (Task.keeps_attempt _ _ _ _).mpr (first.mono ?_)
  rintro (err | value) phase' (there | there)
  · exact (before err phase' there).mono fun _ _ => .inl
  · exact (after err phase' there).mono fun _ _ => .inr
  · exact .inl there
  · exact .inr there

end Approach

namespace Umpire.Approach

variable {C : Contract signature} {Q Q₀ : C.Phase → Prop} {matchId : MatchId} {U : Umpire C Q matchId}
  {phase : C.Phase} (A : U.Approach Q₀)

include A

theorem call {op : Op} (sideline : op.sideline = true) (heartless : op.heartless = true := by rfl) :
    op.call.Stable C Q₀ :=
  (asks_call (P := fun op => op.sideline = true ∧ op.heartless = true) ⟨sideline, heartless⟩).stable
    fun phase op here both => A.idle phase op here both.1 both.2

/-- What ends on the way, or beyond it, has come to one of the two. -/
theorem state_bind {α : Type} {rest : Option MatchState → Promise α} (here : Q₀ phase)
    (absent : (rest none).Stable C Q₀)
    (present : ∀ matchState, U.known matchState → (rest (some matchState)).Stable C Q) :
    (redisGet (.state matchId) >>= rest).Keeps C phase fun _ phase => Q₀ phase ∨ Q phase := by
  obtain ⟨may, answers⟩ := A.looks phase here
  refine (Task.keeps_bind _ _ _ _).mpr ⟨may, fun reply answer => ?_⟩
  match reply, answers reply answer with
  | .error err, there => exact .inl there
  | .ok none, there => exact (absent _ there).mono fun _ _ => .inl
  | .ok (some matchState), ⟨known, there⟩ => exact (present matchState known _ there).mono fun _ _ => .inr

theorem codeSubmit_keeps (here : Q₀ phase) (userId : UserId) (language code : JsVal) :
    (codeSubmit userId matchId language code).Keeps C phase fun _ phase => Q₀ phase ∨ Q phase := by
  refine approach_attempt (A.state_bind here (A.call rfl) ?_) (fun _ => A.call rfl) fun _ => U.call rfl
  intro matchState known
  dsimp only
  split
  · exact U.call rfl
  · refine stable_bind U.getMatchTimer_stable fun timer => ?_
    split
    · exact U.call rfl
    · refine stable_bind (U.call rfl) fun locked => ?_
      cases locked with
      | false => exact U.call rfl
      | true => exact U.submitLocked_stable userId language code known

variable {userId : UserId} (forfeits : ∀ matchState, U.known matchState →
  (resolveMatch matchId (Referee.opponentOf matchState userId) userId .forfeit).Stable C Q)

include forfeits

theorem forfeitRequest_keeps (here : Q₀ phase) (reason : String) :
    (forfeitRequest userId matchId reason).Keeps C phase fun _ phase => Q₀ phase ∨ Q phase := by
  refine approach_attempt (A.state_bind here (stable_pure _) ?_) (fun _ => stable_pure _) fun _ => stable_pure _
  intro matchState known
  dsimp only
  split
  · exact stable_pure _
  · exact stable_bind (U.call rfl) fun _ => forfeits matchState known

theorem handleDisconnectForfeit_keeps (here : Q₀ phase)
    (looks : (Op.get (.presence userId)).call.Stable C Q₀) (dueAt : ℕ) :
    (handleDisconnectForfeit userId matchId dueAt).Keeps C phase fun _ phase => Q₀ phase ∨ Q phase := by
  refine approach_attempt (approach_bind (A.call rfl) here fun _ _ asleep => approach_bind looks asleep ?_)
    (fun _ => stable_pure _) fun _ => stable_pure _
  intro present phase looked
  cases present with
  | some socket => exact .inl looked
  | none =>
    refine A.state_bind looked (stable_pure _) ?_
    intro matchState known
    dsimp only
    split
    · exact stable_pure _
    · exact stable_bind (U.call rfl) fun _ => forfeits matchState known

end Umpire.Approach

namespace Referee

variable {C : Contract signature} {Q : C.Phase → Prop} {matchId : MatchId} (R : Referee C Q matchId)

include R

theorem call {op : Op} (sideline : op.sideline = true) (heartless : op.heartless = true := by rfl) :
    op.call.Stable C Q :=
  (asks_call (P := fun op => op.sideline = true ∧ op.heartless = true) ⟨sideline, heartless⟩).stable
    fun phase op here both => R.idle phase op here both.1 both.2

theorem state_bind {α : Type} {rest : Option MatchState → Promise α} (absent : (rest none).Stable C Q)
    (present : ∀ matchState, R.known matchState → (rest (some matchState)).Stable C Q) :
    (redisGet (.state matchId) >>= rest).Stable C Q := by
  intro phase here
  obtain ⟨may, answers⟩ := R.state phase here
  refine (Task.keeps_bind _ _ _ _).mpr ⟨may, fun reply answer => ?_⟩
  obtain ⟨there, known⟩ := answers reply answer
  match reply with
  | .error err => exact there
  | .ok none => exact absent _ there
  | .ok (some matchState) => exact present matchState (known matchState rfl) _ there

theorem resolveMatch_stable {winnerId loserId : UserId} {resolveType : ResolveType}
    (body : (resolveBody matchId winnerId loserId resolveType).Stable C Q) :
    (resolveMatch matchId winnerId loserId resolveType).Stable C Q :=
  stable_attempt body fun _ => stable_attempt
    (R.state_bind (stable_pure _) fun matchState known =>
      stable_bind (R.refund matchState known) fun _ => R.call rfl)
    fun _ => stable_pure _

/-- A referee watches from the start. -/
def umpire : Umpire C Q matchId where
  known := R.known
  idle := R.idle
  refunds _ _ stable := R.state_bind (stable_pure _) fun matchState known =>
    stable_bind (R.refund matchState known) fun _ => stable_bind stable fun _ => R.call rfl
  cancel := R.cancel
  resolves matchState pair resolveType known decides :=
    R.resolveMatch_stable (R.body matchState pair resolveType known decides)

theorem approach : R.umpire.Approach Q where
  idle := R.idle
  looks phase here := by
    obtain ⟨may, answers⟩ := R.state phase here
    refine ⟨may, fun reply answer => ?_⟩
    obtain ⟨there, known⟩ := answers reply answer
    match reply with
    | .error err => exact there
    | .ok none => exact there
    | .ok (some matchState) => exact ⟨known matchState rfl, there⟩

theorem handleTimerExpiry_stable (dueAt : ℕ) : (handleTimerExpiry matchId dueAt).Stable C Q := by
  refine stable_bind (R.call rfl) fun _ => stable_attempt (R.state_bind (stable_pure _) ?_)
    fun _ => stable_pure _
  intro matchState known
  have U := R.umpire
  dsimp only
  split
  · exact stable_pure _
  · exact stable_bind (U.readScore_stable _ _) fun scoreA => stable_bind (U.readScore_stable _ _) fun scoreB =>
      stable_bind (U.readTime_stable _ _) fun timeA => stable_bind (U.readTime_stable _ _) fun timeB =>
      stable_bind (R.call rfl) fun _ => R.resolveMatch_stable
        (R.body matchState _ _ known (decideAtExpiry_decides matchState scoreA scoreB timeA timeB))

theorem codeSubmit_stable (userId : UserId) (language code : JsVal) :
    (codeSubmit userId matchId language code).Stable C Q := fun _ here =>
  (R.approach.codeSubmit_keeps here userId language code).mono fun _ _ => (or_self _).mp

omit R

variable {userId : UserId} (forfeits : ∀ matchState, R.known matchState →
  (resolveBody matchId (opponentOf matchState userId) userId .forfeit).Stable C Q)

include R forfeits

theorem forfeitRequest_stable (reason : String) : (forfeitRequest userId matchId reason).Stable C Q := fun _ here =>
  (R.approach.forfeitRequest_keeps (fun matchState known => R.resolveMatch_stable (forfeits matchState known)) here
    reason).mono fun _ _ => (or_self _).mp

theorem handleDisconnectForfeit_stable (looks : (Op.get (.presence userId)).call.Stable C Q) (dueAt : ℕ) :
    (handleDisconnectForfeit userId matchId dueAt).Stable C Q := fun _ here =>
  (R.approach.handleDisconnectForfeit_keeps
    (fun matchState known => R.resolveMatch_stable (forfeits matchState known)) here looks dueAt).mono
      fun _ _ => (or_self _).mp

end Referee

/-! ### The handlers that create matches -/

/-- The operations of `queue:join` before it tries to create a match, and those of an attempt before there is an
identifier. -/
def Op.admitting : Op → Bool
  | memory (.dropStale ..) | memory (.push ..) | memory (.length _) => true
  | memory (.takeTwo _) | memory (.putBack _) => true
  | dateNow => true
  | emit _ (.queueError _) | emit _ (.queueJoined ..) => true
  | set (.queue _) .. | set (.username _) .. | set (.category _) .. | del (.queue _) => true
  | query (.selectHearts _) | query (.restoreHearts _) | query (.selectBalance _) | query (.pickProblem ..) => true
  | _ => false

/-- The reasons other than the hearts for which a player is turned away. -/
def refusals : List String :=
  ["Invalid entry fee", "Insufficient balance", "Failed to join queue. Try again."]

/-- **`queue:join`**, where an attempt to create a match, the check of the hearts and a refusal are stable. -/
theorem queueJoin_stable_with {C : Contract signature} {Q : C.Phase → Prop} {fee : ℕ}
    (idle : ∀ phase op, Q phase → op.admitting = true → op.heartless = true →
      C.may phase op ∧ ∀ reply, C.answers phase op reply → Q (C.after phase op reply))
    (env : Env) {userId : UserId} (username category : String) (hearts : (heartsCheck userId).Stable C Q)
    (refuses : ∀ message ∈ refusals, (emit (.sender userId) (.queueError message)).Stable C Q)
    (creates : (tryCreateMatch env fee).Stable C Q) : (queueJoin env userId username fee category).Stable C Q := by
  have call : ∀ {op : Op}, op.admitting = true ∧ op.heartless = true → op.call.Stable C Q := fun admitting =>
    (asks_call (P := fun op => op.admitting = true ∧ op.heartless = true) admitting).stable
      fun phase op here both => idle phase op here both.1 both.2
  refine stable_attempt ?_ fun _ => refuses _ (by simp [refusals])
  split
  · exact refuses _ (by simp [refusals])
  · refine stable_bind (call ⟨rfl, rfl⟩) fun _ => stable_bind hearts fun goesOn => ?_
    cases goesOn with
    | false => exact stable_pure _
    | true =>
      refine stable_bind (call ⟨rfl, rfl⟩) fun balance => ?_
      split
      · exact refuses _ (by simp [refusals])
      · exact stable_bind (call ⟨rfl, rfl⟩) fun _ => stable_bind (call ⟨rfl, rfl⟩) fun _ =>
          stable_bind (call ⟨rfl, rfl⟩) fun _ => stable_bind (call ⟨rfl, rfl⟩) fun _ =>
          stable_bind (call ⟨rfl, rfl⟩) fun _ => stable_bind (call ⟨rfl, rfl⟩) fun _ =>
          stable_bind creates fun _ => stable_pure _

/-- **`queue:join`**, where an attempt to create a match is stable. -/
theorem queueJoin_stable_of {C : Contract signature} {Q : C.Phase → Prop} {fee : ℕ}
    (idle : ∀ phase op, Q phase → op.admitting = true →
      C.may phase op ∧ ∀ reply, C.answers phase op reply → Q (C.after phase op reply))
    (env : Env) (userId : UserId) (username category : String) (creates : (tryCreateMatch env fee).Stable C Q) :
    (queueJoin env userId username fee category).Stable C Q := by
  have call : ∀ {op : Op}, op.admitting = true → op.call.Stable C Q := fun admitting =>
    (asks_call (P := fun op => op.admitting = true) admitting).stable idle
  have hearts : (heartsCheck userId).Stable C Q :=
    (heartsCheck_asks userId (P := fun op => op.admitting = true) rfl rfl rfl fun _ => rfl).stable idle
  exact queueJoin_stable_with (fun phase op here admitting _ => idle phase op here admitting) env username category
    hearts (fun _ _ => call rfl) creates

/-- The operations of the creation of a match with a fresh identifier, `uuid` apart. -/
def Op.clerical (fee : ℕ) (fresh : MatchId → Prop) : Op → Prop
  | set (.state matchId) matchState _ => fresh matchId ∧ matchState.entryFee = fee
  | set (.startTs matchId) .. => fresh matchId
  | set (.endTs matchId) .. => fresh matchId
  | uuid => False
  | op => op.within [.queue]

theorem clerical_of_admitting {fee : ℕ} {fresh : MatchId → Prop} {op : Op} (admitting : op.admitting = true) :
    op.clerical fee fresh := by
  unfold Op.admitting at admitting
  split at admitting
  all_goals first | rfl | cases admitting

/-- **The rules of a watcher of the matches that exist**, over the handlers that create new ones: the
identifier of a new match is fresh, and what is done with a fresh one is idle. -/
structure Registrar (C : Contract signature) (Q : C.Phase → Prop) (fee : ℕ) where
  fresh : MatchId → Prop
  idle : ∀ phase op, Q phase → op.clerical fee fresh → op.heartless = true →
    C.may phase op ∧ ∀ reply, C.answers phase op reply → Q (C.after phase op reply)
  uuid : ∀ phase, Q phase → C.may phase .uuid ∧ ∀ reply, C.answers phase .uuid reply →
    Q (C.after phase .uuid reply) ∧ ∀ matchId, reply = .ok matchId → fresh matchId

namespace Registrar

variable {C : Contract signature} {Q : C.Phase → Prop} {fee : ℕ} (R : Registrar C Q fee)

include R

theorem call {op : Op} (clerical : op.clerical fee R.fresh) (heartless : op.heartless = true := by rfl) :
    op.call.Stable C Q :=
  (asks_call (P := fun op => op.clerical fee R.fresh ∧ op.heartless = true) ⟨clerical, heartless⟩).stable
    fun phase op here both => R.idle phase op here both.1 both.2

theorem uuid_bind {α : Type} {rest : MatchId → Promise α}
    (next : ∀ matchId, R.fresh matchId → (rest matchId).Stable C Q) :
    (Op.uuid.call >>= rest).Stable C Q := by
  intro phase here
  obtain ⟨may, answers⟩ := R.uuid phase here
  refine keeps_call_bind may (fun matchId answer => ?_) fun err answer => (answers _ answer).1
  obtain ⟨there, fresh⟩ := answers _ answer
  exact next matchId (fresh matchId rfl) _ there

theorem announceMatch_stable (env : Env) (taken : Taken) (problem : Problem) {matchId : MatchId}
    (fresh : R.fresh matchId) : (announceMatch env fee taken problem matchId).Stable C Q := by
  refine stable_bind ?_ fun _ => stable_bind (R.call ⟨fresh, rfl⟩) fun _ => ?_
  · exact stable_bind (R.call rfl) fun _ => stable_bind (R.call fresh) fun _ =>
      stable_bind (R.call fresh) fun _ => stable_pure _
  · exact stable_bind (R.call rfl) fun _ => stable_bind (R.call rfl) fun _ =>
      stable_bind (R.call rfl) fun _ => stable_bind (R.call rfl) fun _ =>
        stable_bind (R.call rfl) fun _ => R.call rfl

theorem tryCreateMatch_stable (env : Env) : (tryCreateMatch env fee).Stable C Q := by
  refine stable_bind (R.call rfl) fun taken => ?_
  cases taken with
  | none => exact stable_pure _
  | some taken =>
    refine stable_bind (R.call rfl) fun _ => stable_bind (R.call rfl) fun _ =>
      stable_bind (R.call rfl) fun problem => ?_
    cases problem with
    | none =>
      exact stable_bind (R.call rfl) fun _ => stable_bind (R.call rfl) fun _ =>
        stable_bind (R.call rfl) fun _ => stable_pure _
    | some problem =>
      refine R.uuid_bind fun matchId fresh => stable_bind ?_ fun committed => ?_
      · exact stable_attempt (stable_bind (R.call rfl) fun _ => stable_pure _)
          fun _ => stable_bind (R.call rfl) fun _ => stable_pure _
      · cases committed with
        | true => exact stable_bind (R.announceMatch_stable env taken problem fresh) fun _ => stable_pure _
        | false => exact stable_pure _

theorem worker_stable (env : Env) : (worker env fee).Stable C Q :=
  stable_attempt (stable_bind (R.tryCreateMatch_stable env) fun _ => stable_pure _) fun _ => stable_pure _

theorem queueJoin_stable (refuses : ∀ phase user message, Q phase →
      C.may phase (.emit (.sender user) (.queueError message)) ∧
        ∀ reply, C.answers phase (.emit (.sender user) (.queueError message)) reply →
          Q (C.after phase (.emit (.sender user) (.queueError message)) reply))
    (env : Env) (userId : UserId) (username category : String) :
    (queueJoin env userId username fee category).Stable C Q := by
  refine queueJoin_stable_of (fun phase op here admitting => ?_) env userId username category
    (R.tryCreateMatch_stable env)
  cases heartless : op.heartless with
  | true => exact R.idle phase op here (clerical_of_admitting admitting) heartless
  | false =>
    unfold Op.heartless at heartless
    split at heartless
    · cases admitting
    · exact refuses phase _ _ here
    · cases heartless

end Registrar

/-! ### All handlers -/

/-- The operations of a match, as rules over its handlers. -/
def playReferee {departments : List Department} (included : [.play, .record] ⊆ departments)
    (matchId : MatchId) : Referee (.asking (Op.within departments)) (fun _ => True) matchId where
  known _ := True
  idle _ _ _ sideline _ := ⟨within_mono included (within_of_sideline sideline), fun _ _ => trivial⟩
  state _ _ := ⟨rfl, fun _ _ => ⟨trivial, fun _ _ => trivial⟩⟩
  refund _ _ _ _ := ⟨within_mono included rfl, fun _ _ => trivial⟩
  cancel _ _ := ⟨within_mono included rfl, fun _ _ => trivial⟩
  body _ pair resolveType _ _ := resolveBody_within included matchId pair.1 pair.2 resolveType

theorem within_of_clerical {fee : ℕ} {fresh : MatchId → Prop} {op : Op} (clerical : op.clerical fee fresh) :
    op.within [.queue, .record] := by
  unfold Op.clerical at clerical
  split at clerical
  · rfl
  · rfl
  · rfl
  · cases clerical
  · exact within_mono (by simp) clerical

/-- The operations of the creation of a match, as rules over the handlers that create one. -/
def queueRegistrar (fee : ℕ) : Registrar (.asking (Op.within [.queue, .record])) (fun _ => True) fee where
  fresh _ := True
  idle _ _ _ clerical _ := ⟨within_of_clerical clerical, fun _ _ => trivial⟩
  uuid _ _ := ⟨rfl, fun _ _ => ⟨trivial, fun _ _ => trivial⟩⟩

/-- **A handler works in its own departments.** -/
theorem Handler.asks_within (env : Env) (handler : Handler) :
    (handler.task env).Asks (Op.within handler.departments) := by
  have own : [Department.play, .record] ⊆ [.play, .record] := fun _ => id
  have more : [Department.play, .record] ⊆ [.play, .record, .presence] := by decide
  cases handler with
  | matchJoin user matchId => exact (matchJoin_mild user matchId).mono fun _ => And.right
  | timerRequest user matchId => exact (timerRequest_mild user matchId).mono fun _ => And.right
  | codeRun user matchId language code =>
    exact (codeRun_passive user matchId language code).mono within_of_passive
  | codeSubmit user matchId language code =>
    exact ((playReferee own matchId).codeSubmit_stable user language code).asks
  | forfeitRequest user matchId reason =>
    exact ((playReferee own matchId).forfeitRequest_stable
      (fun _ _ => resolveBody_within own _ _ _ _) reason).asks
  | matchLeave user matchId => exact asks_call rfl
  | timerExpiry matchId dueAt => exact ((playReferee own matchId).handleTimerExpiry_stable dueAt).asks
  | connection user socket => exact (connection_plain user socket).mono fun _ => And.left
  | dropped user socket => exact Task.asks_pure _
  | disconnect user socket position =>
    exact (disconnect_plain user socket position).mono fun _ => And.left
  | disconnectForfeit user matchId position dueAt =>
    exact ((playReferee more matchId).handleDisconnectForfeit_stable
      (fun _ _ => resolveBody_within more _ _ _ _) (fun _ _ => ⟨rfl, fun _ _ => trivial⟩) dueAt).asks
  | queueJoin user username fee category =>
    exact ((queueRegistrar fee).queueJoin_stable (fun _ _ _ _ => ⟨rfl, fun _ _ => trivial⟩) env user username
      category).asks
  | queueLeave user => exact (queueLeave_plain user).mono fun _ => And.left
  | worker fee => exact ((queueRegistrar fee).worker_stable env).asks
  | verifyPayment user orderId paymentId signature =>
    exact (verifyPayment_plain env user orderId paymentId signature).mono fun _ => And.left
  | webhook body signature => exact (handleWebhook_plain env body signature).mono fun _ => And.left

end SkillArena
