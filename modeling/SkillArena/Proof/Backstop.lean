/-
**The check on the escrow as a backstop.**

The resolved flag does not keep two settlements of a match apart. Where the match is the only escrow of
its two players, the database does: a committed settlement takes the whole escrow of both, nothing but the
creation of another match of theirs brings any back, and a settlement without escrow violates
`positive_locked` and is rolled back. So at most one settlement commits, whatever the handlers of the match
do and whatever fails (`settled_at_most_once`).

* `Duel` — the match, its two players and its fee.
* `duel.contract` — who settles the match takes the fee from its two players; every settlement takes a fee
  that is not negative.
* `Backed` — the invariant: before the settlement each player has at most the fee in escrow, after it
  nothing.
-/

import SkillArena.Proof.Settlement

namespace SkillArena

open Async Expiring
open Sql (Numeric)

/-! ### The escrow of a user -/

/-- What a user has in escrow. -/
def Db.locked (db : Db) (user : UserId) : ℚ := ((db.wallets user).map (·.lockedBalance)).getD 0

section Locked

variable {env : Env} {db db' : Db} {user other : UserId} {W W' : Wallet} {bound fee : ℚ}

theorem locked_of_found (found : db.wallets user = some W) : db.locked user = W.lockedBalance := by
  unfold Db.locked
  rw [found]
  rfl

theorem locked_of_wallets (same : db'.wallets = db.wallets) (user : UserId) :
    db'.locked user = db.locked user := by
  unfold Db.locked
  rw [same]

@[simp] theorem locked_addRow (db : Db) (row : LedgerRow) (user : UserId) :
    (db.addRow row).locked user = db.locked user := rfl

theorem locked_setWallet_self (db : Db) (user : UserId) (W : Wallet) :
    (db.setWallet user W).locked user = W.lockedBalance :=
  locked_of_found (by rw [setWallet_wallets, Function.update_self])

theorem locked_setWallet_of_ne (db : Db) (different : user ≠ other) (W : Wallet) :
    (db.setWallet other W).locked user = db.locked user := by
  unfold Db.locked
  rw [setWallet_wallets, Function.update_of_ne different]

theorem locked_setWallet_le (found : db.wallets other = some W)
    (lower : W.lockedBalance ≤ bound → W'.lockedBalance ≤ bound) (le : db.locked user ≤ bound) :
    (db.setWallet other W').locked user ≤ bound := by
  by_cases same : user = other
  · subst same
    rw [locked_setWallet_self]
    exact lower (locked_of_found found ▸ le)
  · rw [locked_setWallet_of_ne db same]
    exact le

theorem store_sub_le (N : Numeric) (kept : N.store bound = bound) (nonneg : 0 ≤ fee) {locked : ℚ}
    (le : locked ≤ bound) : N.store (locked - fee) ≤ bound := by
  calc N.store (locked - fee) ≤ N.store bound := N.store_mono (by linarith)
    _ = bound := kept

/-- The transaction creates a match of a user. -/
def Transaction.enlists (user : UserId) : Transaction → Bool
  | createMatch _ playerA playerB _ _ => playerA = user || playerB = user
  | _ => false

/-- **Only the creation of a match adds to the escrow of a user.** -/
theorem run_locked_le {transaction : Transaction} {reply : transaction.Reply}
    (ran : transaction.run env db = (.ok reply, db')) (kept : env.numeric.store bound = bound)
    (unlisted : transaction.enlists user = false) (nonneg : 0 ≤ transaction.fee)
    (le : db.locked user ≤ bound) : db'.locked user ≤ bound := by
  cases transaction with
  | deposit =>
    obtain ⟨_, W, W', found, stored, _, rfl⟩ := deposit_ok.mp ran
    exact locked_setWallet_le found (fun le => (update_ok.mp stored).2.1.trans_le le) le
  | creditVerified =>
    obtain ⟨W, W', found, stored, _, rfl⟩ := creditVerified_ok.mp ran
    exact locked_setWallet_le found (fun le => (update_ok.mp stored).2.1.trans_le le) le
  | creditWebhook =>
    rcases creditWebhook_ok.mp ran with ⟨_, rfl⟩ | ⟨W, W', found, stored, rfl⟩
    · exact le
    · exact locked_setWallet_le found (fun le => (update_ok.mp stored).2.1.trans_le le) le
  | withdraw =>
    obtain ⟨W, W', found, _, stored, _, rfl⟩ := withdraw_ok.mp ran
    exact locked_setWallet_le found (fun le => (update_ok.mp stored).2.1.trans_le le) le
  | createMatch matchId playerA playerB =>
    obtain ⟨_, A, A', B, B', _, _, _, _, _, _, rfl⟩ := createMatch_ok.mp ran
    simp only [Transaction.enlists, Bool.or_eq_false_iff, decide_eq_false_iff_not] at unlisted
    rw [locked_addRow, locked_setWallet_of_ne _ (Ne.symm unlisted.2), locked_addRow,
      locked_setWallet_of_ne _ (Ne.symm unlisted.1)]
    exact le
  | releaseEscrowToWinner winner loser =>
    obtain ⟨L, L', W, W', X, foundL, storedL, foundW, storedW, _, _, rfl⟩ := release_ok.mp ran
    have lost : (db.setWallet loser L').locked user ≤ bound := locked_setWallet_le foundL
      (fun le => (update_ok.mp storedL).2.1.trans_le (store_sub_le env.numeric kept nonneg le)) le
    exact locked_setWallet_le foundW
      (fun le => (update_ok.mp storedW).2.1.trans_le (store_sub_le env.numeric kept nonneg le)) lost
  | refundBothPlayers playerA playerB =>
    obtain ⟨A, A', B, B', foundA, storedA, foundB, storedB, rfl⟩ := refund_ok.mp ran
    have first : (db.setWallet playerA A').locked user ≤ bound := locked_setWallet_le foundA
      (fun le => (update_ok.mp storedA).2.1.trans_le (store_sub_le env.numeric kept nonneg le)) le
    exact locked_setWallet_le foundB
      (fun le => (update_ok.mp storedB).2.1.trans_le (store_sub_le env.numeric kept nonneg le)) first

/-- **A committed settlement takes the fee from the escrow of both its users.** -/
theorem settle_locked {transaction : Transaction} {reply : transaction.Reply} {matchId : MatchId}
    (settles : transaction.settles matchId = true) (distinct : transaction.parties.Nodup)
    (ran : transaction.run env db = (.ok reply, db')) (party : user ∈ transaction.parties) :
    db'.locked user = env.numeric.store (db.locked user - transaction.fee) := by
  cases transaction with
  | releaseEscrowToWinner winner loser fee matchId' =>
    have different : winner ≠ loser := by simpa [Transaction.parties] using distinct
    obtain ⟨W, W', L, L', foundW, foundL, wallets, won, lost⟩ := release_escrow different ran
    obtain rfl | rfl : user = winner ∨ user = loser := by simpa [Transaction.parties] using party
    · have after : db'.wallets user = some W' := by rw [wallets, Function.update_self]
      rw [locked_of_found foundW, locked_of_found after]
      exact won
    · have after : db'.wallets user = some L' := by
        rw [wallets, Function.update_of_ne different.symm, Function.update_self]
      rw [locked_of_found foundL, locked_of_found after]
      exact lost
  | refundBothPlayers playerA playerB fee matchId' =>
    have different : playerA ≠ playerB := by simpa [Transaction.parties] using distinct
    obtain ⟨A, A', B, B', foundA, foundB, wallets, first, second⟩ := refund_escrow different ran
    obtain rfl | rfl : user = playerA ∨ user = playerB := by simpa [Transaction.parties] using party
    · have after : db'.wallets user = some A' := by
        rw [wallets, Function.update_of_ne different, Function.update_self]
      rw [locked_of_found foundA, locked_of_found after]
      exact first
    · have after : db'.wallets user = some B' := by rw [wallets, Function.update_self]
      rw [locked_of_found foundB, locked_of_found after]
      exact second
  | _ => cases settles

end Locked

/-! ### The match -/

/-- **A match between two players**, for a fee that is a value of the column. -/
structure Duel (N : Numeric) where
  matchId : MatchId
  playerA : UserId
  playerB : UserId
  fee : ℚ
  distinct : playerA ≠ playerB
  positive : 0 < fee
  kept : N.store fee = fee

namespace Duel

variable {N : Numeric} (duel : Duel N)

/-- What is known of the stored state of a match. -/
def knows (matchId : MatchId) (matchState : MatchState) : Prop :=
  0 ≤ matchState.entryFee ∧ (matchId = duel.matchId → matchState.playerAId = duel.playerA ∧
    matchState.playerBId = duel.playerB ∧ matchState.entryFee = duel.fee)

/-- The winner and the loser are the two players. -/
def pairs (users : List UserId) : Prop :=
  users = [duel.playerA, duel.playerB] ∨ users = [duel.playerB, duel.playerA]

/-- What a handler may ask: a stored state is as it is known, and a settlement takes a fee that is not
negative, and the fee of the match from its players. -/
def allows : Op → Prop
  | .set (.state matchId) matchState _ => duel.knows matchId matchState
  | .setNx (.state _) .. => False
  | .transact transaction => 0 ≤ transaction.fee ∧ (transaction.settles duel.matchId = true →
      duel.pairs transaction.parties ∧ transaction.fee = duel.fee)
  | _ => True

/-- What a handler may rely on. -/
def expects : (op : Op) → Except Err op.Reply → Prop
  | .get (.state matchId), .ok (some matchState) => duel.knows matchId matchState
  | .uuid, .ok matchId => matchId ≠ duel.matchId
  | _, _ => True

/-- **The contract of the match.** -/
def contract : Contract signature where
  Phase := Unit
  may _ op := duel.allows op
  answers _ op reply := duel.expects op reply
  after _ _ _ := ()

/-- The handler does not play the match, or one of its two players has sent the event. -/
def fair (handler : Handler) : Bool :=
  handler.plays ≠ some duel.matchId ||
    handler.sender.all fun user => user = duel.playerA || user = duel.playerB

open Async.Task (stable_pure stable_bind)

theorem call {op : Op} (allowed : duel.allows op) : op.call.Stable duel.contract fun _ => True :=
  fun _ _ => ⟨allowed, fun _ _ => trivial⟩

theorem allows_of_department {op : Op} (unplayed : op.department ≠ some .play)
    (unrecorded : op.department ≠ some .record) : duel.allows op := by
  unfold allows
  split
  · exact absurd rfl unrecorded
  · exact absurd rfl unplayed
  · rename_i transaction
    cases transaction
    case releaseEscrowToWinner => exact absurd rfl unplayed
    case refundBothPlayers => exact absurd rfl unplayed
    all_goals exact ⟨le_rfl, nofun⟩
  · trivial

theorem allows_of_sideline {op : Op} (sideline : op.sideline = true) : duel.allows op := by
  unfold allows
  split
  · cases sideline
  · cases sideline
  · cases sideline
  · trivial

theorem state_bind {α : Type} {matchId : MatchId} {rest : Option MatchState → Promise α}
    (absent : (rest none).Stable duel.contract fun _ => True)
    (present : ∀ matchState, duel.knows matchId matchState →
      (rest (some matchState)).Stable duel.contract fun _ => True) :
    (redisGet (.state matchId) >>= rest).Stable duel.contract fun _ => True := by
  rintro phase -
  refine keeps_call_bind trivial (fun stored known => ?_) fun _ _ => trivial
  cases stored with
  | none => exact absent _ trivial
  | some matchState => exact present matchState known _ trivial

/-- **A resolution between the players of the match, or of another match.** -/
theorem resolveBody_stable {matchId : MatchId} {winnerId loserId : UserId} (resolveType : ResolveType)
    (paired : matchId = duel.matchId → duel.pairs [winnerId, loserId]) :
    (resolveBody matchId winnerId loserId resolveType).Stable duel.contract fun _ => True := by
  refine stable_bind (duel.call trivial) fun flag => ?_
  cases flag with
  | some _ => exact stable_pure _
  | none =>
    refine stable_bind (duel.call trivial) fun _ => duel.state_bind (stable_pure _) fun stored known => ?_
    have payout : duel.allows (.transact (.releaseEscrowToWinner winnerId loserId stored.entryFee matchId)) := by
      refine ⟨known.1, fun settles => ?_⟩
      have same : matchId = duel.matchId := by
        simpa [Transaction.settles, Transaction.paysOut, Transaction.refunds] using settles
      exact ⟨paired same, (known.2 same).2.2⟩
    refine stable_bind (duel.call known) fun _ => stable_bind (duel.call payout) fun prize => ?_
    exact recordResult_stable (fun _ _ _ kept =>
      ⟨duel.allows_of_sideline (sideline_of_bookkeeping kept), fun _ _ => trivial⟩)
      (fun _ _ _ _ => duel.call trivial) _ _ _ _

/-- The contract of the match, as rules over the handlers of any match. -/
def referee (played : MatchId) : Referee duel.contract (fun _ => True) played where
  known := duel.knows played
  idle _ _ _ sideline _ := ⟨duel.allows_of_sideline sideline, fun _ _ => trivial⟩
  state _ _ := by
    refine ⟨trivial, fun reply known => ⟨trivial, ?_⟩⟩
    rintro matchState rfl
    exact known
  refund matchState known := by
    refine duel.call ⟨known.1, fun settles => ?_⟩
    have same : played = duel.matchId := by
      simpa [Transaction.settles, Transaction.paysOut, Transaction.refunds] using settles
    obtain ⟨isA, isB, fee⟩ := known.2 same
    refine ⟨.inl ?_, fee⟩
    rw [Transaction.parties, isA, isB]
  cancel := duel.call trivial
  body matchState pair resolveType known decides := by
    refine duel.resolveBody_stable resolveType fun same => ?_
    obtain ⟨isA, isB, _⟩ := known.2 same
    rcases decides with rfl | rfl
    · exact .inl (by rw [isA, isB])
    · exact .inr (by rw [isA, isB])

/-- The contract of the match, as rules over the handlers that create matches. -/
def registrar (fee : ℕ) : Registrar duel.contract (fun _ => True) fee where
  fresh matchId := matchId ≠ duel.matchId
  idle _ op _ clerical _ := by
    refine ⟨?_, fun _ _ => trivial⟩
    unfold Op.clerical at clerical
    split at clerical
    · refine ⟨?_, fun same => absurd same clerical.1⟩
      rw [clerical.2]
      exact Nat.cast_nonneg fee
    · trivial
    · trivial
    · cases clerical
    · exact duel.allows_of_department (department_ne clerical rfl) (department_ne clerical rfl)
  uuid _ _ := by
    refine ⟨trivial, fun reply fresh => ⟨trivial, ?_⟩⟩
    rintro matchId rfl
    exact fresh

theorem forfeits {handler : Handler} (fair : duel.fair handler = true) {played : MatchId} {user : UserId}
    (plays : handler.plays = some played) (sent : handler.sender = some user) (matchState : MatchState)
    (known : duel.knows played matchState) :
    (resolveBody played (Referee.opponentOf matchState user) user .forfeit).Stable duel.contract
      fun _ => True := by
  refine duel.resolveBody_stable .forfeit fun same => ?_
  obtain ⟨isA, isB, _⟩ := known.2 same
  have player : user = duel.playerA ∨ user = duel.playerB := by
    simpa [Duel.fair, plays, same, sent] using fair
  unfold Referee.opponentOf
  rw [isA, isB]
  rcases player with rfl | rfl
  · rw [if_pos rfl]
    exact .inr rfl
  · rw [if_neg duel.distinct]
    exact .inl rfl

/-- **Every fair handler keeps the contract of the match.** -/
theorem handler_stable (env : Env) (handler : Handler) (fair : duel.fair handler = true) :
    (handler.task env).Stable duel.contract fun _ => True := by
  cases handler
  case codeSubmit user played language code => exact (duel.referee played).codeSubmit_stable _ _ _
  case forfeitRequest user played reason =>
    exact (duel.referee played).forfeitRequest_stable (duel.forfeits fair rfl rfl) reason
  case timerExpiry played dueAt => exact (duel.referee played).handleTimerExpiry_stable dueAt
  case disconnectForfeit user played position dueAt =>
    exact (duel.referee played).handleDisconnectForfeit_stable (duel.forfeits fair rfl rfl)
      (duel.call trivial) dueAt
  case queueJoin user username fee category =>
    exact (duel.registrar fee).queueJoin_stable (fun _ _ _ _ => ⟨trivial, fun _ _ => trivial⟩) env user username
      category
  case worker fee => exact (duel.registrar fee).worker_stable env
  all_goals
    exact (Handler.asks_within env _).stable fun _ op _ inside =>
      ⟨duel.allows_of_department (department_ne inside rfl) (department_ne inside rfl), fun _ _ => trivial⟩

/-! ### The invariant -/

/-- What each player may have in escrow: the fee until the match is settled, then nothing. -/
def allowance (db : Db) : ℚ := if db.unsettled duel.matchId then duel.fee else 0

theorem allowance_kept (db : Db) : N.store (duel.allowance db) = duel.allowance db := by
  unfold allowance
  split
  · exact duel.kept
  · exact N.store_zero

theorem allowance_nonneg (db : Db) : 0 ≤ duel.allowance db := by
  unfold allowance
  split
  · exact duel.positive.le
  · exact le_rfl

theorem allowance_of_counts {db db' : Db} (counts : db'.payouts duel.matchId = db.payouts duel.matchId ∧
    db'.refundRows duel.matchId = db.refundRows duel.matchId) : duel.allowance db' = duel.allowance db := by
  unfold allowance Db.unsettled
  rw [counts.1, counts.2]

/-- **The invariant of the match.** -/
structure Backed (world : World) : Prop where
  stored : ∀ matchId cell, world.redis (.state matchId) = some cell → duel.knows matchId cell.value
  once : world.db.settledOnce duel.matchId
  escrow : ∀ user ∈ [duel.playerA, duel.playerB], world.db.locked user ≤ duel.allowance world.db

end Duel

section Step

variable {env : Env} {duel : Duel env.numeric} {choice : Choice} {world world' : World} {op : Op}
  {reply : Except Err op.Reply} {db db' : Db} {transaction : Transaction}

theorem mem_of_pairs {users : List UserId} (paired : duel.pairs users) {user : UserId}
    (player : user ∈ [duel.playerA, duel.playerB]) : user ∈ users := by
  rcases paired with rfl | rfl
  · exact player
  · simpa [or_comm] using player

/-- **A settled match has no escrow for another settlement.** -/
theorem uncovered_of_settled (settled : db.unsettled duel.matchId = false)
    (escrow : ∀ user ∈ [duel.playerA, duel.playerB], db.locked user ≤ duel.allowance db)
    (allowed : duel.allows (.transact transaction)) (settles : transaction.settles duel.matchId = true) :
    transaction.uncovered env.numeric db = true := by
  obtain ⟨paired, fee⟩ := allowed.2 settles
  have empty := escrow duel.playerA (by simp)
  unfold Duel.allowance at empty
  rw [settled, if_neg Bool.false_ne_true] at empty
  refine List.any_eq_true.mpr ⟨duel.playerA, mem_of_pairs paired (by simp), ?_⟩
  unfold Db.short
  cases found : db.wallets duel.playerA with
  | none => rfl
  | some wallet =>
    rw [locked_of_found found] at empty
    have taken : env.numeric.store (wallet.lockedBalance - transaction.fee) ≤ -duel.fee := by
      calc env.numeric.store (wallet.lockedBalance - transaction.fee)
          ≤ env.numeric.store (-duel.fee) := env.numeric.store_mono (by linarith)
        _ = -duel.fee := by rw [env.numeric.store_neg, duel.kept]
    exact decide_eq_true (lt_of_le_of_lt taken (neg_lt_zero.mpr duel.positive))

/-- **A committed settlement leaves no escrow** to players who had at most the fee. -/
theorem locked_of_settlement {reply : transaction.Reply} (ran : transaction.run env db = (.ok reply, db'))
    (settles : transaction.settles duel.matchId = true) (allowed : duel.allows (.transact transaction))
    (escrow : ∀ user ∈ [duel.playerA, duel.playerB], db.locked user ≤ duel.fee) :
    ∀ user ∈ [duel.playerA, duel.playerB], db'.locked user ≤ 0 := by
  obtain ⟨paired, fee⟩ := allowed.2 settles
  have distinct : transaction.parties.Nodup := by
    rcases paired with pair | pair
    · rw [pair]
      simpa using duel.distinct
    · rw [pair]
      simpa using duel.distinct.symm
  intro user player
  rw [settle_locked settles distinct ran (mem_of_pairs paired player), fee]
  calc env.numeric.store (db.locked user - duel.fee)
      ≤ env.numeric.store 0 := env.numeric.store_mono (by linarith [escrow user player])
    _ = 0 := env.numeric.store_zero

theorem stored_step
    (known : ∀ matchId cell, world.redis (.state matchId) = some cell → duel.knows matchId cell.value)
    (allowed : duel.allows op) (performed : op.perform env choice world = some (reply, world')) :
    ∀ matchId cell, world'.redis (.state matchId) = some cell → duel.knows matchId cell.value := by
  intro matchId cell stored
  by_cases writes : op.writes (.state matchId) = true
  · cases reply with
    | error err =>
      rw [perform_error performed] at stored
      exact known matchId cell stored
    | ok value =>
      unfold Op.writes at writes
      split at writes
      · obtain rfl : _ = Key.state matchId := by simpa using writes
        rw [perform_set_ok performed, withRedis_redis, Store.write_self] at stored
        cases stored
        exact allowed
      · obtain rfl : _ = Key.state matchId := by simpa using writes
        exact absurd allowed id
      · obtain rfl : _ = Key.state matchId := by simpa using writes
        rw [perform_del_ok performed, withRedis_redis, Store.delete_self] at stored
        cases stored
      · cases writes
  · rw [redis_frame performed (Bool.eq_false_iff.mpr writes)] at stored
    exact known matchId cell stored

/-- **One step keeps the invariant**, if no other match of the players is created. -/
theorem Duel.Backed.step (inv : duel.Backed world) (allowed : duel.allows op)
    (performed : op.perform env choice world = some (reply, world'))
    (alone : ∀ user ∈ [duel.playerA, duel.playerB], op.commits (·.enlists user) = false) :
    duel.Backed world' := by
  have backed : ∀ transaction, op = .transact transaction → transaction.settles duel.matchId = true →
      world.db.unsettled duel.matchId = true ∨ transaction.uncovered env.numeric world.db = true := by
    rintro transaction rfl settles
    cases settled : world.db.unsettled duel.matchId with
    | true => exact .inl rfl
    | false => exact .inr (uncovered_of_settled settled inv.escrow allowed settles)
  refine ⟨fun matchId cell stored => ?_, once_step performed inv.once backed, fun user player => ?_⟩
  · exact stored_step inv.stored allowed performed matchId cell stored
  · rcases money_frame performed with ⟨wallets, ledger⟩ | ⟨transaction, value, rfl, ran⟩
    · have counts : world'.db.payouts duel.matchId = world.db.payouts duel.matchId ∧
          world'.db.refundRows duel.matchId = world.db.refundRows duel.matchId := by
        unfold Db.payouts Db.refundRows
        rw [ledger]
        exact ⟨rfl, rfl⟩
      rw [locked_of_wallets wallets, duel.allowance_of_counts counts]
      exact inv.escrow user player
    by_cases settles : transaction.settles duel.matchId = true
    · -- the match was not settled: a settlement that commits was covered
      have unsettled : world.db.unsettled duel.matchId = true := by
        rcases backed transaction rfl settles with unsettled | uncovered
        · exact unsettled
        · rw [settle_covered settles ran] at uncovered
          cases uncovered
      have escrow : ∀ user ∈ [duel.playerA, duel.playerB], world.db.locked user ≤ duel.fee := by
        intro user player
        have le := inv.escrow user player
        unfold Duel.allowance at le
        rwa [if_pos unsettled] at le
      exact (locked_of_settlement ran settles allowed escrow user player).trans (duel.allowance_nonneg _)
    · rw [duel.allowance_of_counts (counts_of_unsettling performed (Bool.eq_false_iff.mpr settles))]
      exact run_locked_le ran (duel.allowance_kept _) (alone user player) allowed.1 (inv.escrow user player)

/-- **A settlement of a settled match is rolled back.** -/
theorem Duel.Backed.rejects (inv : duel.Backed world) (allowed : duel.allows op)
    (performed : op.perform env choice world = some (reply, world'))
    (settles : op.commits (·.settles duel.matchId) = true)
    (settled : world.db.unsettled duel.matchId = false) : world' = world := by
  cases op
  case transact transaction =>
    cases reply with
    | error err => exact perform_error performed
    | ok value =>
      obtain ⟨db', ran, _⟩ := perform_transact_ok performed
      have covered := settle_covered settles ran
      rw [uncovered_of_settled settled inv.escrow allowed settles] at covered
      cases covered
  all_goals cases settles

end Step

/-! ### At most one settlement -/

def Transaction.escrows : Transaction → Bool
  | createMatch .. | releaseEscrowToWinner .. | refundBothPlayers .. => true
  | _ => false

def Op.writesState : Op → Bool
  | set (.state _) .. | setNx (.state _) .. => true
  | _ => false

/-- **The setting**: only the players send events of the match, a new identifier is not its identifier,
and no match of either player is created. Outside the handlers anything may happen that moves no escrow
and writes no match state, such as deposits and withdrawals. -/
def Duel.sole {N : Numeric} (duel : Duel N) (c : BackendConfig) : BackendMove → Bool
  | .start handler => duel.fair handler
  | .step index choice => choice ≠ .fresh duel.matchId &&
    match (c.threads[index]?).bind (·.2.head) with
    | some (.fork handler) => duel.fair handler
    | some (.transact transaction) => !transaction.enlists duel.playerA && !transaction.enlists duel.playerB
    | _ => true
  | .outside (.tick _) => true
  | .outside (.act _ op) => !op.commits (·.escrows) && !op.writesState

section Run

variable {env : Env} {duel : Duel env.numeric} {choice : Choice} {world world' : World} {op : Op}
  {reply : Except Err op.Reply}

theorem Duel.Backed.expects (inv : duel.Backed world) (fresh : choice ≠ .fresh duel.matchId)
    (performed : op.perform env choice world = some (reply, world')) : duel.expects op reply := by
  unfold Duel.expects
  split
  · obtain ⟨read, _⟩ := perform_get_ok performed
    obtain ⟨cell, stored, _, rfl⟩ := Store.read_eq_some.mp read.symm
    exact inv.stored _ cell stored
  · rename_i matchId
    have proceeded := proceed_of_ok performed
    rintro rfl
    cases choice
    case fresh matchId' =>
      cases proceeded
      exact fresh rfl
    all_goals cases proceeded
  · trivial

theorem Duel.allows_of_outside (duel : Duel env.numeric) (unescrowed : op.commits (·.escrows) = false)
    (unwritten : op.writesState = false) :
    duel.allows op ∧ ∀ user, op.commits (·.enlists user) = false := by
  constructor
  · unfold Duel.allows
    split
    · cases unwritten
    · cases unwritten
    · rename_i transaction
      cases transaction
      case createMatch => cases unescrowed
      case releaseEscrowToWinner => cases unescrowed
      case refundBothPlayers => cases unescrowed
      all_goals exact ⟨le_rfl, nofun⟩
    · trivial
  · intro user
    cases op
    case transact transaction =>
      cases transaction
      case createMatch => cases unescrowed
      all_goals rfl
    all_goals rfl

/-- The contract and the invariant of the match, over every handler of the backend. -/
def Duel.discipline (env : Env) (duel : Duel env.numeric) :
    Discipline (backend env) (fun c move => duel.sole c move = true) duel.contract where
  enter _ := ()
  finished _ := True
  Inv world _ := duel.Backed world
  keeps c event fair := (Task.keeps_run _ _ _).mpr (duel.handler_stable env event fair () trivial)
  start c phases event state _ inv _ arrived := by
    obtain ⟨redis, db⟩ := arrive_frame arrived
    exact ⟨by rw [redis]; exact inv.stored, by rw [db]; exact inv.once, by rw [db]; exact inv.escrow⟩
  step c phases index choice event op next phase reply state _ inv sole found _ may performed := by
    simp only [Duel.sole, found, Option.bind_some, Prog.head_await, Bool.and_eq_true] at sole
    refine ⟨inv.expects (by simpa using sole.1) performed, fun child forked => ?_, ?_⟩
    · obtain rfl := fork_of_mem forked
      exact (Task.keeps_run _ _ _).mpr (duel.handler_stable env child sole.2 () trivial)
    · refine inv.step may performed fun user player => ?_
      cases op
      case transact transaction =>
        simp only [Bool.and_eq_true, Bool.not_eq_true'] at sole
        obtain rfl | rfl : user = duel.playerA ∨ user = duel.playerB := by simpa using player
        · exact sole.2.1
        · exact sole.2.2
      all_goals rfl
  outside c phases act state _ inv sole acted := by
    cases act with
    | tick ms =>
      cases acted
      exact ⟨inv.stored, inv.once, inv.escrow⟩
    | act choice op =>
      obtain ⟨⟨reply, state'⟩, performed, rfl⟩ := Option.map_eq_some_iff.mp acted
      simp only [Duel.sole, Bool.and_eq_true, Bool.not_eq_true'] at sole
      obtain ⟨allowed, alone⟩ := duel.allows_of_outside sole.1 sole.2
      exact inv.step allowed performed fun user _ => alone user

end Run

/-- A handler is about to settle a match. -/
def attempts (matchId : MatchId) (c : BackendConfig) (index : ℕ) : Bool :=
  ((c.threads[index]?).bind (·.2.head)).any (Op.commits (·.settles matchId))

/-- **At most one settlement of the match commits**, along every run in the setting, whatever fails; an
attempt to settle the match once more leaves the database as it is. -/
theorem settled_at_most_once (env : Env) (duel : Duel env.numeric) {c₀ c : BackendConfig}
    (idle : c₀.threads = []) (unsettled : c₀.state.db.unsettled duel.matchId = true)
    (escrowA : c₀.state.db.locked duel.playerA = duel.fee)
    (escrowB : c₀.state.db.locked duel.playerB = duel.fee)
    (known : ∀ matchId cell, c₀.state.redis (.state matchId) = some cell → duel.knows matchId cell.value)
    (run : Reaches (backend env) (fun c move => duel.sole c move = true) c₀ c) :
    c.state.db.settledOnce duel.matchId ∧
      ∀ {index choice c'}, attempts duel.matchId c index = true →
        c.state.db.unsettled duel.matchId = false →
        (backend env).move c (.step index choice) = some c' → c'.state.db = c.state.db := by
  have initial : duel.Backed c₀.state := by
    refine ⟨known, .inl (by simpa [Db.unsettled] using unsettled), fun user player => ?_⟩
    unfold Duel.allowance
    rw [if_pos unsettled]
    obtain rfl | rfl : user = duel.playerA ∨ user = duel.playerB := by simpa using player
    · exact escrowA.le
    · exact escrowB.le
  obtain ⟨phases, tracks, inv⟩ := (duel.discipline env).holds ⟨[], tracks_nil idle, initial⟩ run
  refine ⟨inv.once, fun {index choice c'} attempted settled moved => ?_⟩
  rcases Machine.move_cases moved with ⟨_, _, same, _, _⟩ |
    ⟨index', choice', event, op, next, reply, state, same, found, performed, rfl⟩ | ⟨_, _, same, _, _⟩
  · cases same
  · cases same
    obtain ⟨phase, _, keeps⟩ := tracks.get found
    unfold attempts at attempted
    rw [found] at attempted
    show state.db = c.state.db
    rw [inv.rejects keeps.1 performed attempted settled]
  · cases same

/-- Match 7 of the two sample players, for ten rupees. -/
def sampleDuel : Duel sampleEnv.numeric where
  matchId := 7
  playerA := 1
  playerB := 2
  fee := 10
  distinct := by decide
  positive := by norm_num
  kept := by decide +kernel

/-- Both players forfeit side by side; the first has paid, the second is about to. -/
def forfeitAgain : List BackendMove :=
  [.start (.forfeitRequest 1 7 "quit"), .start (.forfeitRequest 2 7 "quit")] ++
    (List.replicate 6 [.step 0 .proceed, .step 1 .proceed]).flatten ++ [.step 0 .proceed]

theorem settled_at_most_once_forfeits : ∃ c c', Reaches (backend sampleEnv)
    (fun c move => sampleDuel.sole c move = true) ⟨matchedOnce, []⟩ c ∧ c.state.db.settledOnce 7 ∧
      c.state.db.payouts 7 = 1 ∧ (backend sampleEnv).move c (.step 1 .proceed) = some c' ∧
      c'.state.db = c.state.db := by
  obtain ⟨c, run, ends⟩ := Machine.exists_run (backend sampleEnv) sampleDuel.sole ⟨matchedOnce, []⟩
    forfeitAgain (fun c => attempts 7 c 1 && (c.state.db.payouts 7 = 1) &&
      ((backend sampleEnv).move c (.step 1 .proceed)).isSome) (by decide +kernel)
  simp only [Bool.and_eq_true, decide_eq_true_eq, Option.isSome_iff_exists] at ends
  obtain ⟨⟨attempted, paid⟩, c', moved⟩ := ends
  have known : ∀ matchId cell, matchedOnce.redis (.state matchId) = some cell →
      sampleDuel.knows matchId cell.value := by
    intro matchId cell stored
    by_cases same : matchId = 7
    · subst same
      cases stored
      exact ⟨by norm_num [openState], fun _ => ⟨rfl, rfl, rfl⟩⟩
    · have absent : matchedOnce.redis (.state matchId) = none := by
        have other : Key.state matchId ≠ Key.state 7 := by simpa using same
        simp only [matchedOnce]
        rw [Store.write_of_ne other, Store.write_of_ne (by simp), Store.write_of_ne (by simp)]
      rw [absent] at stored
      cases stored
  have idle : (⟨matchedOnce, []⟩ : BackendConfig).threads = [] := rfl
  have settled : c.state.db.unsettled 7 = false := by simp [Db.unsettled, paid]
  obtain ⟨once, rejected⟩ := settled_at_most_once sampleEnv sampleDuel idle
    (by decide +kernel) (by decide +kernel) (by decide +kernel) known run
  exact ⟨c, c', run, once, paid, moved, rejected attempted settled moved⟩

end SkillArena
