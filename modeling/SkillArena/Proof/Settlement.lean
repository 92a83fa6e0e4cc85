/-
**Settling a match that is already settled.**

`code:submit` refunds a match it cannot judge, but leaves its state in Redis in progress and its flag
unset, so that a later submission, forfeit, disconnect or timer settles it again. What may still stop a
second settlement is the database: a payout or a refund takes the fee out of two escrows, and a wallet
whose escrow would become negative is rejected (`settle_covered`). While the players hold escrow of other
matches it is not, and a refunded match is paid out and completed (`refunded_then_paid`). Where every
settlement that is attempted of a settled match finds one of its users without the fee, a refunded match
stays refunded (`refunded_is_terminal`).

The row of a match is completed only by a handler whose own payout of it was committed; this is the
contract `paying`.
-/

import SkillArena.Proof.Guard

namespace SkillArena

open Async Expiring
open Sql (Numeric)

/-! ### What a settlement takes -/

/-- The users whose escrow a settlement takes. -/
def Transaction.parties : Transaction → List UserId
  | releaseEscrowToWinner winnerId loserId _ _ => [winnerId, loserId]
  | refundBothPlayers playerA playerB _ _ => [playerA, playerB]
  | _ => []

def Transaction.fee : Transaction → ℚ
  | releaseEscrowToWinner _ _ entryFee _ => entryFee
  | refundBothPlayers _ _ entryFee _ => entryFee
  | _ => 0

/-- A user does not hold a fee in escrow, or has no wallet. -/
def Db.short (db : Db) (N : Numeric) (fee : ℚ) (user : UserId) : Bool :=
  match db.wallets user with
  | some wallet => N.store (wallet.lockedBalance - fee) < 0
  | none => true

/-- One of the users of a settlement does not hold the fee. -/
def Transaction.uncovered (N : Numeric) (db : Db) (transaction : Transaction) : Bool :=
  transaction.parties.any (db.short N transaction.fee)

section Covered

variable {env : Env} {db db' : Db} {matchId : MatchId} {transaction : Transaction}

theorem short_eq_false {N : Numeric} {fee : ℚ} {user : UserId} {wallet wallet' : Wallet}
    (found : db.wallets user = some wallet)
    (taken : wallet'.lockedBalance = N.store (wallet.lockedBalance - fee)) : db.short N fee user = false := by
  unfold Db.short
  rw [found]
  have nonneg := wallet'.positive_locked
  rw [taken] at nonneg
  simpa using nonneg

/-- **A settlement commits only if both users hold the fee.** -/
theorem settle_covered {reply : transaction.Reply} (settles : transaction.settles matchId = true)
    (ran : transaction.run env db = (.ok reply, db')) : transaction.uncovered env.numeric db = false := by
  cases transaction with
  | releaseEscrowToWinner winner loser fee matchId' =>
    obtain ⟨L, L', W, W', X, foundL, storedL, foundW, storedW, _, _, _⟩ := release_ok.mp ran
    have lost := short_eq_false foundL (update_ok.mp storedL).2.1
    have won : db.short env.numeric fee winner = false := by
      by_cases same : winner = loser
      · rw [same]
        exact lost
      · rw [setWallet_wallets, Function.update_of_ne same] at foundW
        exact short_eq_false foundW (update_ok.mp storedW).2.1
    simp [Transaction.uncovered, Transaction.parties, Transaction.fee, won, lost]
  | refundBothPlayers playerA playerB fee matchId' =>
    obtain ⟨A, A', B, B', foundA, storedA, foundB, storedB, _⟩ := refund_ok.mp ran
    have first := short_eq_false foundA (update_ok.mp storedA).2.1
    have second : db.short env.numeric fee playerB = false := by
      by_cases same : playerB = playerA
      · rw [same]
        exact first
      · rw [setWallet_wallets, Function.update_of_ne same] at foundB
        exact short_eq_false foundB (update_ok.mp storedB).2.1
    simp [Transaction.uncovered, Transaction.parties, Transaction.fee, first, second]
  | _ => cases settles

end Covered

/-! ### Who completes the row of a match -/

/-- Whether a handler has paid a match out. -/
inductive Purse
  | unpaid
  | paid
  deriving DecidableEq

def Op.completes (matchId : MatchId) : Op → Bool
  | query (.completeMatch matchId' ..) => matchId' = matchId
  | _ => false

/-- **The contract of a payout**: the row of the match is completed only by who has paid it out. -/
def paying (matchId : MatchId) : Contract signature where
  Phase := Purse
  may phase op := op.completes matchId = true → phase = .paid
  answers _ _ _ := True
  after phase op reply := if op.commits (·.paysOut matchId) && reply.isOk then .paid else phase

section Contract

variable {matchId : MatchId}

open Async.Task (stable_pure stable_bind)

theorem paying_after_paid (op : Op) (reply : Except Err op.Reply) :
    (paying matchId).after Purse.paid op reply = Purse.paid := by
  show (if _ then Purse.paid else Purse.paid) = _
  exact ite_self _

theorem paying_call {op : Op} (other : op.completes matchId = false) :
    op.call.Stable (paying matchId) fun _ => True := by
  intro phase _
  refine ⟨fun completes => ?_, fun _ _ => trivial⟩
  rw [other] at completes
  cases completes

theorem completes_of_sideline (matchId : MatchId) {op : Op} (sideline : op.sideline = true) :
    op.completes matchId = false := by
  refine Bool.eq_false_iff.mpr fun completes => ?_
  unfold Op.completes at completes
  split at completes
  · cases sideline
  · cases completes

theorem recordResult_paying (winnerId loserId : UserId) (resolveType : ResolveType)
    (matchState : MatchState) (prize : ℚ × ℚ) :
    (recordResult matchId winnerId loserId resolveType matchState prize).Stable (paying matchId)
      (· = Purse.paid) := by
  have idle : ∀ (phase : Purse) (op : Op), phase = .paid → (paying matchId).may phase op ∧
      ∀ reply, (paying matchId).answers phase op reply →
        (paying matchId).after phase op reply = Purse.paid := by
    rintro _ op rfl
    exact ⟨fun _ => rfl, fun reply _ => paying_after_paid op reply⟩
  exact recordResult_stable (fun phase op paid _ => idle phase op paid)
    (fun _ _ _ _ => (asks_call (P := fun _ => True) trivial).stable fun phase op paid _ => idle phase op paid)
    loserId resolveType matchState prize

theorem recordResult_paying_of_ne {resolved : MatchId} (other : resolved ≠ matchId)
    (winnerId loserId : UserId) (resolveType : ResolveType) (matchState : MatchState) (prize : ℚ × ℚ) :
    (recordResult resolved winnerId loserId resolveType matchState prize).Stable (paying matchId)
      fun _ => True := by
  refine recordResult_stable (fun phase op _ kept => ?_) (fun _ _ _ _ => paying_call ?_)
    loserId resolveType matchState prize
  · have free := completes_of_sideline matchId (sideline_of_bookkeeping kept)
    exact ⟨fun completes => absurd completes (Bool.eq_false_iff.mp free), fun _ _ => trivial⟩
  · simp [Op.completes, other]

/-- **A resolution completes the row of the match only after its own payout.** -/
theorem resolveBody_paying (matchId resolved : MatchId) (winnerId loserId : UserId) (resolveType : ResolveType) :
    (resolveBody resolved winnerId loserId resolveType).Stable (paying matchId) fun _ => True := by
  refine stable_bind (paying_call rfl) fun flag => ?_
  cases flag with
  | some _ => exact stable_pure _
  | none =>
    refine stable_bind (paying_call rfl) fun _ => stable_bind (paying_call rfl) fun stored => ?_
    cases stored with
    | none => exact stable_pure _
    | some stored =>
      refine stable_bind (paying_call rfl) fun _ => ?_
      by_cases same : resolved = matchId
      · rintro phase -
        refine keeps_call_bind nofun (fun prize _ => ?_) fun _ _ => trivial
        have paid : (paying matchId).after phase (.transact (.releaseEscrowToWinner winnerId loserId
            stored.entryFee resolved)) (.ok prize) = Purse.paid :=
          if_pos (by simp [Op.commits, Transaction.paysOut, same, Except.isOk, Except.toBool])
        rw [paid, same]
        exact (recordResult_paying _ _ _ _ _ .paid rfl).mono fun _ _ _ => trivial
      · exact stable_bind (paying_call rfl) fun _ => recordResult_paying_of_ne same _ _ _ _ _

/-- The contract of a payout, as rules over the handlers of any match. -/
def payingReferee (matchId played : MatchId) : Referee (paying matchId) (fun _ => True) played where
  known _ := True
  idle phase op _ sideline _ := by
    have free := completes_of_sideline matchId sideline
    exact ⟨fun completes => absurd completes (Bool.eq_false_iff.mp free), fun _ _ => trivial⟩
  state _ _ := ⟨nofun, fun _ _ => ⟨trivial, fun _ _ => trivial⟩⟩
  refund _ _ := paying_call rfl
  cancel := paying_call rfl
  body _ pair resolveType _ _ := resolveBody_paying matchId played pair.1 pair.2 resolveType

/-- **Every handler keeps the contract of every payout.** -/
theorem handler_paying (env : Env) (handler : Handler) :
    (handler.task env).Stable (paying matchId) fun _ => True := by
  have body := resolveBody_paying matchId
  cases handler
  case codeSubmit user played language code => exact (payingReferee matchId played).codeSubmit_stable _ _ _
  case forfeitRequest user played reason =>
    exact (payingReferee matchId played).forfeitRequest_stable (fun _ _ => body _ _ _ _) reason
  case timerExpiry played dueAt => exact (payingReferee matchId played).handleTimerExpiry_stable dueAt
  case disconnectForfeit user played position dueAt =>
    exact (payingReferee matchId played).handleDisconnectForfeit_stable (fun _ _ => body _ _ _ _)
      (paying_call rfl) dueAt
  all_goals
    refine (Handler.asks_within env _).stable fun phase op _ inside => ?_
    refine ⟨fun completes => ?_, fun _ _ => trivial⟩
    have unplayed : op.department ≠ some .play := department_ne inside rfl
    unfold Op.completes at completes
    split at completes
    · exact absurd rfl unplayed
    · cases completes

end Contract

/-! ### The invariant -/

/-- No settlement of a match has been committed. -/
def Db.unsettled (db : Db) (matchId : MatchId) : Bool := db.payouts matchId = 0 && db.refundRows matchId = 0

/-- **At most one settlement**: none, one payout, or one refund, which writes a row for each player. -/
def Db.settledOnce (db : Db) (matchId : MatchId) : Prop :=
  db.payouts matchId = 0 ∧ db.refundRows matchId = 0 ∨ db.payouts matchId = 1 ∧ db.refundRows matchId = 0 ∨
    db.payouts matchId = 0 ∧ db.refundRows matchId = 2

def Db.isCompleted (db : Db) (matchId : MatchId) : Prop :=
  (db.matches_ matchId).map (·.status) = some .completed

/-- **The invariant of a match that is settled once**: who has paid it has committed a payout, and so
has who completed its row. -/
structure SettledOnce (matchId : MatchId) (world : World) (phases : List (Handler × Purse)) : Prop where
  once : world.db.settledOnce matchId
  paid : ∀ entry ∈ phases, entry.2 = .paid → world.db.payouts matchId ≠ 0
  completed : world.db.isCompleted matchId → world.db.payouts matchId ≠ 0

section Inv

variable {env : Env} {choice : Choice} {matchId : MatchId} {world world' : World}
  {phases : List (Handler × Purse)} {index : ℕ} {event : Handler} {phase : Purse} {op : Op}
  {reply : Except Err op.Reply}

theorem completed_frame (performed : op.perform env choice world = some (reply, world'))
    (other : op.completes matchId = false) (completed : world'.db.isCompleted matchId) :
    world.db.isCompleted matchId := by
  by_cases rewrites : op.rewrites matchId = true
  · cases reply with
    | error err =>
      rw [perform_error performed] at completed
      exact completed
    | ok value =>
      unfold Op.rewrites at rewrites
      split at rewrites
      · rename_i matchId'
        obtain rfl : matchId' = matchId := by simpa using rewrites
        obtain ⟨pick, db', ran, rfl⟩ := perform_query_ok performed
        cases ran
        unfold Db.isCompleted at completed
        rw [withDb_db, updateMatch_self, Option.map_map] at completed
        cases found : world.db.matches_ matchId' with
        | none =>
          rw [found] at completed
          cases completed
        | some row =>
          rw [found] at completed
          cases completed
      · exact absurd rewrites (Bool.eq_false_iff.mp other)
      · rename_i matchId' playerA playerB problemId fee
        obtain rfl : matchId' = matchId := by simpa using rewrites
        obtain ⟨db', ran, rfl⟩ := perform_transact_ok performed
        obtain ⟨_, A, A', B, B', _, _, _, _, _, _, rfl⟩ := createMatch_ok.mp ran
        unfold Db.isCompleted at completed
        simp [newMatchRow] at completed
      · cases rewrites
  · unfold Db.isCompleted at completed ⊢
    rwa [matches_frame performed (Bool.eq_false_iff.mpr rewrites)] at completed

theorem counts_of_unsettling (performed : op.perform env choice world = some (reply, world'))
    (other : op.commits (·.settles matchId) = false) :
    world'.db.payouts matchId = world.db.payouts matchId ∧
      world'.db.refundRows matchId = world.db.refundRows matchId := by
  have parts : op.commits (·.paysOut matchId) = false ∧ op.commits (·.refunds matchId) = false := by
    cases op
    case transact transaction => simpa [Op.commits, Transaction.settles] using other
    all_goals exact ⟨rfl, rfl⟩
  obtain ⟨payouts, refunds⟩ := counts_frame matchId performed
  exact ⟨payouts parts.1, refunds parts.2⟩

/-- **A match stays settled at most once** over a step that commits no settlement of it while it is
settled and covered. -/
theorem once_step (performed : op.perform env choice world = some (reply, world'))
    (once : world.db.settledOnce matchId)
    (backed : ∀ transaction, op = .transact transaction → transaction.settles matchId = true →
      world.db.unsettled matchId = true ∨ transaction.uncovered env.numeric world.db = true) :
    world'.db.settledOnce matchId := by
  by_cases settles : op.commits (·.settles matchId) = true
  · obtain ⟨transaction, rfl⟩ : ∃ transaction, op = .transact transaction := by
      cases op
      case transact transaction => exact ⟨transaction, rfl⟩
      all_goals cases settles
    cases reply with
    | error err =>
      rw [perform_error performed]
      exact once
    | ok value =>
      obtain ⟨db', ran, _⟩ := perform_transact_ok performed
      obtain ⟨payouts, refunds⟩ := perform_counts matchId performed
      -- a settlement that commits was covered, so the match was unsettled
      have unsettled : world.db.payouts matchId = 0 ∧ world.db.refundRows matchId = 0 := by
        rcases backed transaction rfl settles with unsettled | uncovered
        · simpa [Db.unsettled] using unsettled
        · rw [settle_covered settles ran] at uncovered
          cases uncovered
      have oneKind : ¬ (transaction.paysOut matchId = true ∧ transaction.refunds matchId = true) := by
        cases transaction
        all_goals exact fun both => by first | cases both.1 | cases both.2
      unfold Db.settledOnce
      rw [payouts, refunds, unsettled.1, unsettled.2]
      by_cases pays : transaction.paysOut matchId = true <;>
        by_cases refunds : transaction.refunds matchId = true
      · exact absurd ⟨pays, refunds⟩ oneKind
      all_goals simp [Op.commits, pays, refunds]
  · obtain ⟨payouts, refunds⟩ := counts_of_unsettling performed (Bool.eq_false_iff.mpr settles)
    unfold Db.settledOnce
    rw [payouts, refunds]
    exact once

namespace SettledOnce

theorem append (inv : SettledOnce matchId world phases) (events : List Handler) :
    SettledOnce matchId world (phases ++ events.map fun event => (event, Purse.unpaid)) := by
  refine ⟨inv.once, fun entry inside paid => ?_, inv.completed⟩
  rcases List.mem_append.mp inside with old | new
  · exact inv.paid entry old paid
  · obtain ⟨event, _, rfl⟩ := List.mem_map.mp new
    cases paid

theorem same (inv : SettledOnce matchId world phases)
    (counts : world'.db.payouts matchId = world.db.payouts matchId ∧
      world'.db.refundRows matchId = world.db.refundRows matchId)
    (completed : world'.db.isCompleted matchId → world.db.payouts matchId ≠ 0) :
    SettledOnce matchId world' phases := by
  obtain ⟨payouts, refunds⟩ := counts
  refine ⟨?_, by rw [payouts]; exact inv.paid, by rw [payouts]; exact completed⟩
  unfold Db.settledOnce
  rw [payouts, refunds]
  exact inv.once

/-- **One step keeps the invariant**, if a settlement of a settled match is not covered. -/
theorem step (inv : SettledOnce matchId world phases) (found : phases[index]? = some (event, phase))
    (may : (paying matchId).may phase op)
    (performed : op.perform env choice world = some (reply, world'))
    (backed : ∀ transaction, op = .transact transaction → transaction.settles matchId = true →
      world.db.unsettled matchId = true ∨ transaction.uncovered env.numeric world.db = true) :
    SettledOnce matchId world'
      (phases.set index (event, (paying matchId).after phase op reply)) := by
  have member : (event, phase) ∈ phases := List.mem_of_getElem? found
  have completed : world'.db.isCompleted matchId → world.db.payouts matchId ≠ 0 := by
    intro after
    by_cases completes : op.completes matchId = true
    · exact inv.paid _ member (may completes)
    · exact inv.completed (completed_frame performed (Bool.eq_false_iff.mpr completes) after)
  cases reply with
  | error err =>
    obtain rfl := perform_error performed
    have stays : (paying matchId).after phase op (.error err) = phase :=
      if_neg (by simp [Except.isOk, Except.toBool])
    rw [stays]
    refine ⟨inv.once, fun entry inside paid => ?_, inv.completed⟩
    rcases List.mem_or_eq_of_mem_set inside with old | rfl
    · exact inv.paid entry old paid
    · exact inv.paid _ member paid
  | ok value =>
    obtain ⟨payouts, refunds⟩ := perform_counts matchId performed
    have grown : world.db.payouts matchId ≠ 0 → world'.db.payouts matchId ≠ 0 := by omega
    refine ⟨?_, fun entry inside paid => ?_, fun after => grown (completed after)⟩
    · exact once_step performed inv.once backed
    · rcases List.mem_or_eq_of_mem_set inside with old | rfl
      · exact grown (inv.paid entry old paid)
      · by_cases pays : op.commits (·.paysOut matchId) = true
        · rw [payouts, if_pos pays]
          exact Nat.succ_ne_zero _
        · have stays : (paying matchId).after phase op (.ok value) = phase := if_neg (by simp [pays])
          exact grown (inv.paid _ member (stays.symm.trans paid))

end SettledOnce

end Inv

/-! ### Terminal -/

/-- **The condition on a run**: a payout or a refund of the match that is attempted although the match
is settled finds one of its users without the fee in escrow. Nothing outside the handlers settles the
match or completes its row. -/
def spent (env : Env) (matchId : MatchId) (c : BackendConfig) : BackendMove → Bool
  | .start _ => true
  | .step index _ =>
    match (c.threads[index]?).bind (·.2.head) with
    | some (.transact transaction) => !transaction.settles matchId || c.state.db.unsettled matchId ||
      transaction.uncovered env.numeric c.state.db
    | _ => true
  | .outside (.tick _) => true
  | .outside (.act _ op) => !op.commits (·.settles matchId) && !op.completes matchId

/-- The contract and the invariant of a match that is settled once, over every handler. -/
def settledDiscipline (env : Env) (matchId : MatchId) :
    Discipline (backend env) (fun c move => spent env matchId c move = true) (paying matchId) where
  enter _ := .unpaid
  finished _ := True
  Inv := SettledOnce matchId
  keeps c event _ := (Task.keeps_run _ _ _).mpr (handler_paying env event .unpaid trivial)
  start c phases event state _ inv _ arrived := by
    have same := (arrive_frame arrived).2
    have kept : SettledOnce matchId state phases :=
      ⟨by rw [same]; exact inv.once, by rw [same]; exact inv.paid, by rw [same]; exact inv.completed⟩
    exact kept.append [event]
  step c phases index choice event op next phase reply state _ inv spent found inPhase may performed := by
    refine ⟨trivial, fun child _ => (Task.keeps_run _ _ _).mpr (handler_paying env child .unpaid trivial),
      (inv.step inPhase may performed ?_).append _⟩
    rintro transaction rfl settles
    simpa [SkillArena.spent, found, settles] using spent
  outside c phases act state _ inv spent acted := by
    cases act with
    | tick ms =>
      cases acted
      exact ⟨inv.once, inv.paid, inv.completed⟩
    | act choice op =>
      obtain ⟨⟨reply, state'⟩, performed, rfl⟩ := Option.map_eq_some_iff.mp acted
      simp only [SkillArena.spent, Bool.and_eq_true, Bool.not_eq_true'] at spent
      exact inv.same (counts_of_unsettling performed spent.1) fun completed =>
        inv.completed (completed_frame performed spent.2 completed)

theorem refundRows_le_of_move {env : Env} {c c' : BackendConfig} {move : BackendMove} (matchId : MatchId)
    (moved : (backend env).move c move = some c') :
    c.state.db.refundRows matchId ≤ c'.state.db.refundRows matchId := by
  have performs : ∀ {choice : Choice} {op : Op} {reply : Except Err op.Reply} {world' : World},
      op.perform env choice c.state = some (reply, world') →
        c.state.db.refundRows matchId ≤ world'.db.refundRows matchId := by
    intro choice op reply world' performed
    cases reply with
    | error err => rw [perform_error performed]
    | ok value =>
      rw [(perform_counts matchId performed).2]
      exact Nat.le_add_right _ _
  rcases Machine.move_cases moved with ⟨event, state, rfl, arrived, rfl⟩ |
    ⟨index, choice, event, op, next, reply, state, rfl, found, performed, rfl⟩ | ⟨act, state, rfl, acted, rfl⟩
  · rw [(arrive_frame arrived).2]
  · exact performs performed
  · cases act with
    | tick ms =>
      cases acted
      exact le_rfl
    | act choice op =>
      obtain ⟨⟨reply, state'⟩, performed, rfl⟩ := Option.map_eq_some_iff.mp acted
      exact performs performed

/-- **A refunded match is terminal** along every run whose settlements meet the condition: in every
state after the refund there has been no payout and no second refund, and its row is not completed. -/
theorem refunded_is_terminal (env : Env) (matchId : MatchId) {c₀ c₁ c : BackendConfig}
    (idle : c₀.threads = []) (unsettled : c₀.state.db.unsettled matchId = true)
    (uncompleted : ¬ c₀.state.db.isCompleted matchId)
    (run : Reaches (backend env) (fun c move => spent env matchId c move = true) c₀ c₁)
    (refunded : c₁.state.db.refundRows matchId ≠ 0)
    (later : Reaches (backend env) (fun c move => spent env matchId c move = true) c₁ c) :
    c.state.db.payouts matchId = 0 ∧ c.state.db.refundRows matchId = c₁.state.db.refundRows matchId ∧
      ¬ c.state.db.isCompleted matchId := by
  have initial : SettledOnce matchId c₀.state [] :=
    ⟨.inl (by simpa [Db.unsettled] using unsettled), nofun, fun completed => absurd completed uncompleted⟩
  obtain ⟨_, _, first⟩ := (settledDiscipline env matchId).holds ⟨[], tracks_nil idle, initial⟩ run
  obtain ⟨_, _, last⟩ := (settledDiscipline env matchId).holds ⟨[], tracks_nil idle, initial⟩
    (run.trans later)
  have kept : c₁.state.db.refundRows matchId ≤ c.state.db.refundRows matchId :=
    later.invariant (fun c => c₁.state.db.refundRows matchId ≤ c.state.db.refundRows matchId) le_rfl
      fun _ _ _ le _ moved => le.trans (refundRows_le_of_move matchId moved)
  have before : c₁.state.db.settledOnce matchId := first.once
  have after : c.state.db.settledOnce matchId := last.once
  unfold Db.settledOnce at before after
  have unpaid : c.state.db.payouts matchId = 0 := by omega
  exact ⟨unpaid, by omega, fun completed => last.completed completed unpaid⟩

/-! ### A refunded match is paid out -/

/-- The two users have been matched as match 7, which is running. -/
def matchedOnce : World where
  now := 0
  db := ((Transaction.createMatch 7 1 2 0 10).run sampleEnv twoPlayers).2
  redis := Store.write (Store.write (Store.write (fun _ => none) (.startTs 7) 0 7200000)
    (.endTs 7) 1800000 7200000) (.state 7) (openState 7) 7200000

/-- They have been matched once more, as match 8. -/
def matchedAgain : World :=
  matchedOnce.withDb ((Transaction.createMatch 8 1 2 0 10).run sampleEnv matchedOnce.db).2

/-- The moves of one match played by its two players; only the judge may fail. -/
def judgedBy (matchId : MatchId) (playerA playerB : UserId) : BackendMove → Bool
  | .start handler => handler.plays = some matchId &&
      handler.sender.all fun user => user = playerA || user = playerB
  | .step _ choice => choice ≠ .fail
  | .outside (.tick _) => true
  | .outside (.act ..) => false

/-- The judge fails on the submission of player 1: both players are refunded and the row is cancelled. -/
def judgeError : List BackendMove :=
  .start (.codeSubmit 1 7 (.str ['c']) (.str ['x'])) :: List.replicate 13 (.step 0 .proceed) ++
    .step 0 (.verdict ⟨.int 0, 0, 1, .judgeError, none, none⟩) :: List.replicate 4 (.step 0 .proceed)

/-- Player 2 forfeits the refunded match. -/
def forfeitRefunded : List BackendMove :=
  .start (.forfeitRequest 2 7 "quit") :: List.replicate 12 (.step 1 .proceed)

/-- **A refunded match is paid out and completed**: the escrow of match 8 covers the payout. -/
theorem refunded_then_paid : ∃ c₁ c, Reaches (backend sampleEnv)
    (fun _ move => judgedBy 7 1 2 move = true) ⟨matchedAgain, []⟩ c₁ ∧
      c₁.state.db.refundRows 7 = 2 ∧ (c₁.state.db.matches_ 7).map (·.status) = some .cancelled ∧
      Reaches (backend sampleEnv) (fun _ move => judgedBy 7 1 2 move = true) c₁ c ∧
      c.state.db.payouts 7 = 1 ∧ c.state.db.isCompleted 7 := by
  obtain ⟨c₁, c, run, refunded, later, paid⟩ := Machine.exists_run_then (backend sampleEnv)
    (fun _ move => judgedBy 7 1 2 move) ⟨matchedAgain, []⟩ judgeError forfeitRefunded
    (fun c₁ => c₁.state.db.refundRows 7 = 2 ∧ (c₁.state.db.matches_ 7).map (·.status) = some .cancelled)
    (fun c => c.state.db.payouts 7 = 1 ∧ (c.state.db.matches_ 7).map (·.status) = some .completed)
    (by decide +kernel)
  simp only [decide_eq_true_eq] at refunded paid
  exact ⟨c₁, c, run, refunded.1, refunded.2, later, paid.1, paid.2⟩

/-- Without another match, the payout of the forfeit and the refund after it are rejected. -/
def forfeitRejected : List BackendMove :=
  .start (.forfeitRequest 2 7 "quit") :: List.replicate 9 (.step 1 .proceed)

theorem refunded_is_terminal_once : ∃ c₁ c, Reaches (backend sampleEnv)
    (fun c move => spent sampleEnv 7 c move = true) ⟨matchedOnce, []⟩ c₁ ∧
      c₁.state.db.refundRows 7 = 2 ∧
      Reaches (backend sampleEnv) (fun c move => spent sampleEnv 7 c move = true) c₁ c ∧
      (c.state.redis.read c.state.now (.resolved 7)).isSome ∧ c.state.db.payouts 7 = 0 ∧
      c.state.db.refundRows 7 = c₁.state.db.refundRows 7 ∧ ¬ c.state.db.isCompleted 7 := by
  obtain ⟨c₁, c, run, refunded, later, flagged⟩ := Machine.exists_run_then (backend sampleEnv)
    (spent sampleEnv 7) ⟨matchedOnce, []⟩ judgeError forfeitRejected
    (fun c₁ => c₁.state.db.refundRows 7 = 2)
    (fun c => (c.state.redis.read c.state.now (.resolved 7)).isSome) (by decide +kernel)
  have uncompleted : ¬ matchedOnce.db.isCompleted 7 := by
    unfold Db.isCompleted
    decide +kernel
  have rows : c₁.state.db.refundRows 7 = 2 := by simpa using refunded
  have some_rows : c₁.state.db.refundRows 7 ≠ 0 := by omega
  exact ⟨c₁, c, run, rows, later, flagged, refunded_is_terminal sampleEnv 7 rfl (by decide +kernel) uncompleted
    run some_rows later⟩

end SkillArena
