/-
**What one operation changes.**

The frame of the operations and the effect of each on what the proofs watch: the Redis cell of a key,
the wallets, the match rows, and the ledger. The ledger is where settlements are counted: a committed
payout of a match leaves one `MATCH_WIN_CREDIT` row with its id (`payouts`), a committed refund two
`REFUND` rows (`refundRows`).

* `perform_error` — an operation that rejects has changed nothing.
* `perform_get_ok`, `perform_set_ok`, … — what an operation that returns has done.
* `redis_frame`, `matches_frame`, `users_frame`, `money_frame`, `counts_frame` — what it has left alone.
-/

import SkillArena.Model.Connection
import SkillArena.Proof.Transactions

namespace SkillArena

open Async Expiring

variable {env : Env} {choice : Choice} {world world' : World} {db db' : Db}

/-! ### Counting settlements -/

/-- The payouts of a match that have been committed. -/
def Db.payouts (db : Db) (matchId : MatchId) : ℕ :=
  db.ledger.countP fun row => row.type = .matchWinCredit ∧ row.referenceId = some matchId

/-- The refund rows of a match that have been committed, two a refund. -/
def Db.refundRows (db : Db) (matchId : MatchId) : ℕ :=
  db.ledger.countP fun row => row.type = .refund ∧ row.referenceId = some matchId

def Transaction.paysOut (matchId : MatchId) : Transaction → Bool
  | releaseEscrowToWinner _ _ _ matchId' => matchId' = matchId
  | _ => false

def Transaction.refunds (matchId : MatchId) : Transaction → Bool
  | refundBothPlayers _ _ _ matchId' => matchId' = matchId
  | _ => false

def Transaction.settles (matchId : MatchId) (transaction : Transaction) : Bool :=
  transaction.paysOut matchId || transaction.refunds matchId

/-- **A committed transaction adds to the counts of a match exactly what it settles of it.** -/
theorem run_counts {transaction : Transaction} {reply : transaction.Reply} (matchId : MatchId)
    (ran : transaction.run env db = (.ok reply, db')) :
    db'.payouts matchId = db.payouts matchId + (if transaction.paysOut matchId then 1 else 0) ∧
    db'.refundRows matchId = db.refundRows matchId + (if transaction.refunds matchId then 2 else 0) := by
  have payouts := run_countP ran fun posting => posting.type = .matchWinCredit ∧ posting.referenceId = some matchId
  have refunds := run_countP ran fun posting => posting.type = .refund ∧ posting.referenceId = some matchId
  refine ⟨payouts.trans (congrArg _ ?_), refunds.trans (congrArg _ ?_)⟩
  · cases transaction with
    | releaseEscrowToWinner winner loser fee matchId' =>
      simp [Transaction.postings, Transaction.paysOut, List.countP_cons]
    | creditWebhook userId payment amount =>
      simp only [Transaction.postings]
      split
      · rfl
      · rfl
    | _ => rfl
  · cases transaction with
    | refundBothPlayers playerA playerB fee matchId' =>
      by_cases same : matchId' = matchId
      · simp [Transaction.postings, Transaction.refunds, same]
      · simp [Transaction.postings, Transaction.refunds, same]
    | creditWebhook userId payment amount =>
      simp only [Transaction.postings]
      split
      · rfl
      · rfl
    | _ => rfl

/-! ### Queries -/

theorem query_frame {sql : Query} {pick : ℕ} {reply : sql.Reply}
    (ran : sql.exec pick db = .ok (reply, db')) : db'.wallets = db.wallets ∧ db'.ledger = db.ledger := by
  cases sql
  case insertSubmission =>
    simp only [Query.exec] at ran
    repeat' split at ran
    all_goals first | cases ran; exact ⟨rfl, rfl⟩ | cases ran
  case completeMatch =>
    simp only [Query.exec] at ran
    split at ran
    · cases ran
      exact ⟨rfl, rfl⟩
    · cases ran
  all_goals
    cases ran
    exact ⟨rfl, rfl⟩

/-! ### Operations -/

/-- **An operation that rejects has changed nothing.** -/
theorem perform_error {op : Op} {err : Err}
    (performed : op.perform env choice world = some (.error err, world')) : world' = world := by
  unfold Op.perform at performed
  by_cases failed : choice = .fail
  · rw [if_pos failed] at performed
    split at performed
    · cases performed
      rfl
    · cases performed
  · rw [if_neg failed] at performed
    cases op
    case query sql =>
      simp only [Op.proceed] at performed
      split at performed
      · cases performed
      · cases performed
        rfl
    case transact transaction =>
      simp only [Op.proceed, Option.some.injEq, Prod.mk.injEq] at performed
      obtain ⟨threw, rfl⟩ := performed
      unfold World.withDb
      rw [run_error threw]
    case get => cases performed
    all_goals
      simp only [Op.proceed] at performed
      repeat' split at performed
      all_goals cases performed

theorem proceed_of_ok {op : Op} {value : op.Reply}
    (performed : op.perform env choice world = some (.ok value, world')) :
    op.proceed env choice world = some (.ok value, world') := by
  unfold Op.perform at performed
  by_cases failed : choice = .fail
  · rw [if_pos failed] at performed
    split at performed
    · cases performed
    · cases performed
  · rwa [if_neg failed] at performed

theorem perform_get_ok {key : Key} {value : Option key.Val}
    (performed : (Op.get key).perform env choice world = some (.ok value, world')) :
    value = world.redis.read world.now key ∧ world' = world := by
  have proceeded := proceed_of_ok performed
  cases proceeded
  exact ⟨rfl, rfl⟩

theorem perform_set_ok {key : Key} {value : key.Val} {seconds : ℕ}
    (performed : (Op.set key value seconds).perform env choice world = some (.ok (), world')) :
    world' = world.withRedis (world.redis.write key value (world.expiry seconds)) := by
  have proceeded := proceed_of_ok performed
  cases proceeded
  rfl

theorem perform_setNx_ok {key : Key} {value : key.Val} {seconds : ℕ} {taken : Bool}
    (performed : (Op.setNx key value seconds).perform env choice world = some (.ok taken, world')) :
    (taken = false ∧ (world.redis.read world.now key).isSome ∧ world' = world) ∨
    (taken = true ∧ world.redis.read world.now key = none ∧
      world' = world.withRedis (world.redis.write key value (world.expiry seconds))) := by
  have proceeded := proceed_of_ok performed
  simp only [Op.proceed] at proceeded
  split at proceeded
  · rename_i present
    cases proceeded
    exact .inl ⟨rfl, present, rfl⟩
  · rename_i absent
    cases proceeded
    exact .inr ⟨rfl, Option.not_isSome_iff_eq_none.mp absent, rfl⟩

theorem perform_del_ok {key : Key}
    (performed : (Op.del key).perform env choice world = some (.ok (), world')) :
    world' = world.withRedis (world.redis.delete key) := by
  have proceeded := proceed_of_ok performed
  cases proceeded
  rfl

theorem perform_query_ok {sql : Query} {value : sql.Reply}
    (performed : (Op.query sql).perform env choice world = some (.ok value, world')) :
    ∃ pick db', sql.exec pick world.db = .ok (value, db') ∧ world' = world.withDb db' := by
  have proceeded := proceed_of_ok performed
  simp only [Op.proceed] at proceeded
  split at proceeded
  · rename_i reply db' ran
    cases proceeded
    exact ⟨_, db', ran, rfl⟩
  · cases proceeded

theorem perform_transact_ok {transaction : Transaction} {value : transaction.Reply}
    (performed : (Op.transact transaction).perform env choice world = some (.ok value, world')) :
    ∃ db', transaction.run env world.db = (.ok value, db') ∧ world' = world.withDb db' := by
  have proceeded := proceed_of_ok performed
  simp only [Op.proceed, Option.some.injEq, Prod.mk.injEq] at proceeded
  exact ⟨_, Prod.ext proceeded.1 rfl, proceeded.2.symm⟩

/-! ### Frames -/

def Op.writes (key : Key) : Op → Bool
  | set key' _ _ => key' = key
  | setNx key' _ _ => key' = key
  | del key' => key' = key
  | _ => false

/-- The operation runs a transaction with a property. -/
def Op.commits (of : Transaction → Bool) : Op → Bool
  | transact transaction => of transaction
  | _ => false

theorem fork_of_mem {op : Op} {child : Handler} (forked : child ∈ op.forks) : op = .fork child := by
  cases op
  case fork handler =>
    obtain rfl := List.mem_singleton.mp forked
    rfl
  all_goals cases forked

/-- **What an operation can change**: Redis, the database, or the one part of the world it is about. -/
theorem perform_cases {op : Op} {reply : Except Err op.Reply}
    (performed : op.perform env choice world = some (reply, world')) :
    (∃ redis db, world' = { world with redis := redis, db := db }) ∨
      (∃ act, op = .memory act ∧ world' = { world with memory := (act.exec world.memory).2 }) ∨
      (∃ room event, op = .emit room event ∧
        world' = { world with sent := world.sent ++ [(room, event)] }) ∨
      (∃ user socket, op = .register user socket ∧
        world' = { world with registered := world.registered ++ [(user, socket)] }) := by
  cases reply with
  | error err => rw [perform_error performed]; exact .inl ⟨_, _, rfl⟩
  | ok value =>
    cases op
    case memory act =>
      cases proceed_of_ok performed
      exact .inr (.inl ⟨act, rfl, rfl⟩)
    case emit room event =>
      cases proceed_of_ok performed
      exact .inr (.inr (.inl ⟨room, event, rfl, rfl⟩))
    case register user socket =>
      cases proceed_of_ok performed
      exact .inr (.inr (.inr ⟨user, socket, rfl, rfl⟩))
    case transact transaction =>
      obtain ⟨db', _, rfl⟩ := perform_transact_ok performed
      exact .inl ⟨_, _, rfl⟩
    all_goals
      have proceeded := proceed_of_ok performed
      simp only [Op.proceed] at proceeded
      repeat' split at proceeded
      all_goals
        cases proceeded
        try exact .inl ⟨_, _, rfl⟩

theorem now_frame {op : Op} {reply : Except Err op.Reply}
    (performed : op.perform env choice world = some (reply, world')) : world'.now = world.now := by
  rcases perform_cases performed with ⟨_, _, rfl⟩ | ⟨_, _, rfl⟩ | ⟨_, _, _, rfl⟩ | ⟨_, _, _, rfl⟩
  all_goals rfl

theorem sent_frame {op : Op} {reply : Except Err op.Reply}
    (performed : op.perform env choice world = some (reply, world')) : world'.sent = world.sent ∨
      ∃ room event, op = .emit room event ∧ world'.sent = world.sent ++ [(room, event)] := by
  rcases perform_cases performed with ⟨_, _, rfl⟩ | ⟨_, _, rfl⟩ | ⟨room, event, rfl, rfl⟩ | ⟨_, _, _, rfl⟩
  · exact .inl rfl
  · exact .inl rfl
  · exact .inr ⟨room, event, rfl, rfl⟩
  · exact .inl rfl

/-- **An operation leaves the cell of every key it does not write.** -/
theorem redis_frame {op : Op} {reply : Except Err op.Reply} {key : Key}
    (performed : op.perform env choice world = some (reply, world')) (other : op.writes key = false) :
    world'.redis key = world.redis key := by
  cases reply with
  | error err => rw [perform_error performed]
  | ok value =>
    cases op
    case set key' value' seconds =>
      rw [perform_set_ok performed]
      exact Store.write_of_ne (fun same => by simp [Op.writes, same] at other) _ _
    case setNx key' value' seconds =>
      rcases perform_setNx_ok performed with ⟨_, _, rfl⟩ | ⟨_, _, rfl⟩
      · rfl
      · exact Store.write_of_ne (fun same => by simp [Op.writes, same] at other) _ _
    case del key' =>
      rw [perform_del_ok performed]
      exact Store.delete_of_ne fun same => by simp [Op.writes, same] at other
    case transact transaction =>
      obtain ⟨db', _, rfl⟩ := perform_transact_ok performed
      rfl
    all_goals
      have proceeded := proceed_of_ok performed
      simp only [Op.proceed] at proceeded
      repeat' split at proceeded
      all_goals
        cases proceeded
        try rfl

def Op.deletes (key : Key) : Op → Bool
  | del key' => key' = key
  | _ => false

/-- A key has not expired: it was never written, or it can still be read. -/
def World.current (world : World) (key : Key) : Bool :=
  (world.redis key).isNone || (world.redis.read world.now key).isSome

theorem read_of_current {key : Key} {cell : Cell key.Val} (current : world.current key = true)
    (stored : world.redis key = some cell) : world.redis.read world.now key = some cell.value := by
  unfold World.current at current
  rw [stored] at current
  obtain ⟨value, read⟩ := Option.isSome_iff_exists.mp (by simpa using current)
  obtain ⟨cell', stored', _, rfl⟩ := Store.read_eq_some.mp read
  rw [stored] at stored'
  cases stored'
  exact read

/-- A key that was written stays written until it is deleted. -/
theorem written_frame {op : Op} {reply : Except Err op.Reply} {key : Key}
    (performed : op.perform env choice world = some (reply, world')) (kept : op.deletes key = false)
    (written : world.redis key ≠ none) : world'.redis key ≠ none := by
  by_cases touches : op.writes key = true
  · cases reply with
    | error err =>
      rw [perform_error performed]
      exact written
    | ok value =>
      cases op
      case set key' value' seconds =>
        obtain rfl : key' = key := by simpa [Op.writes] using touches
        rw [perform_set_ok performed, withRedis_redis, Store.write_self]
        exact nofun
      case setNx key' value' seconds =>
        obtain rfl : key' = key := by simpa [Op.writes] using touches
        rcases perform_setNx_ok performed with ⟨_, _, rfl⟩ | ⟨_, _, rfl⟩
        · exact written
        · rw [withRedis_redis, Store.write_self]
          exact nofun
      case del key' =>
        obtain rfl : key' = key := by simpa [Op.writes] using touches
        simp [Op.deletes] at kept
      all_goals cases touches
  · rw [redis_frame performed (Bool.eq_false_iff.mpr touches)]
    exact written

theorem arrive_frame {event : Handler} (arrived : event.arrive world = some world') :
    world'.redis = world.redis ∧ world'.db = world.db := by
  unfold Handler.arrive at arrived
  split at arrived
  all_goals
    try split at arrived
    all_goals
      cases arrived
      try exact ⟨rfl, rfl⟩

theorem arrive_now {event : Handler} (arrived : event.arrive world = some world') : world'.now = world.now := by
  unfold Handler.arrive at arrived
  split at arrived
  all_goals
    try split at arrived
    all_goals
      cases arrived
      try rfl

theorem db_frame {op : Op} {reply : Except Err op.Reply}
    (performed : op.perform env choice world = some (reply, world')) :
    world'.db = world.db ∨ (∃ sql, op = .query sql) ∨ (∃ transaction, op = .transact transaction) := by
  cases reply with
  | error err => rw [perform_error performed]; exact .inl rfl
  | ok value =>
    cases op
    case query sql => exact .inr (.inl ⟨sql, rfl⟩)
    case transact transaction => exact .inr (.inr ⟨transaction, rfl⟩)
    all_goals
      have proceeded := proceed_of_ok performed
      simp only [Op.proceed] at proceeded
      repeat' split at proceeded
      all_goals
        cases proceeded
        try exact .inl rfl

def Op.rewrites (matchId : MatchId) : Op → Bool
  | query (.cancelMatch matchId') => matchId' = matchId
  | query (.completeMatch matchId' ..) => matchId' = matchId
  | transact (.createMatch matchId' ..) => matchId' = matchId
  | _ => false

@[simp] theorem updateMatch_self (db : Db) (matchId : MatchId) (change : MatchRow → MatchRow) :
    (db.updateMatch matchId change).matches_ matchId = (db.matches_ matchId).map change :=
  Function.update_self _ _ _

theorem query_matches {sql : Query} {pick : ℕ} {reply : sql.Reply} {matchId : MatchId}
    (ran : sql.exec pick db = .ok (reply, db')) (other : (Op.query sql).rewrites matchId = false) :
    db'.matches_ matchId = db.matches_ matchId := by
  cases sql
  case insertSubmission =>
    simp only [Query.exec] at ran
    repeat' split at ran
    all_goals first | cases ran; rfl | cases ran
  case completeMatch matchId' winner scoreA scoreB timeA timeB =>
    have different : matchId ≠ matchId' := fun same => by simp [Op.rewrites, same] at other
    simp only [Query.exec] at ran
    split at ran
    · cases ran
      exact Function.update_of_ne different _ _
    · cases ran
  case cancelMatch matchId' =>
    have different : matchId ≠ matchId' := fun same => by simp [Op.rewrites, same] at other
    cases ran
    exact Function.update_of_ne different _ _
  all_goals
    cases ran
    rfl

theorem run_matches {transaction : Transaction} {reply : transaction.Reply} {matchId : MatchId}
    (ran : transaction.run env db = (.ok reply, db'))
    (other : (Op.transact transaction).rewrites matchId = false) :
    db'.matches_ matchId = db.matches_ matchId := by
  rw [run_matchesAfter ran]
  cases transaction with
  | createMatch matchId' playerA playerB problemId fee =>
    exact Function.update_of_ne (fun same => by simp [Op.rewrites, same] at other) _ _
  | _ => rfl

/-- **An operation leaves the row of every match it does not rewrite.** -/
theorem matches_frame {op : Op} {reply : Except Err op.Reply} {matchId : MatchId}
    (performed : op.perform env choice world = some (reply, world'))
    (other : op.rewrites matchId = false) : world'.db.matches_ matchId = world.db.matches_ matchId := by
  cases reply with
  | error err => rw [perform_error performed]
  | ok value =>
    rcases db_frame performed with same | ⟨sql, rfl⟩ | ⟨transaction, rfl⟩
    · rw [same]
    · obtain ⟨pick, db', ran, rfl⟩ := perform_query_ok performed
      exact query_matches ran other
    · obtain ⟨db', ran, rfl⟩ := perform_transact_ok performed
      exact run_matches ran other

/-- What of a match row never changes: its players and its fee. -/
def MatchRow.terms (row : MatchRow) : UserId × UserId × ℚ := (row.playerAId, row.playerBId, row.entryFee)

/-- **The players and the fee of a match stay**, unless it is created. -/
theorem terms_frame {op : Op} {reply : Except Err op.Reply} {matchId : MatchId}
    (performed : op.perform env choice world = some (reply, world'))
    (other : ∀ playerA playerB problemId fee, op ≠ .transact (.createMatch matchId playerA playerB problemId fee)) :
    (world'.db.matches_ matchId).map MatchRow.terms = (world.db.matches_ matchId).map MatchRow.terms := by
  cases rewrites : op.rewrites matchId with
  | false => rw [matches_frame performed rewrites]
  | true =>
    cases reply with
    | error err => rw [perform_error performed]
    | ok value =>
      cases op
      case transact transaction =>
        cases transaction
        case createMatch matchId' playerA playerB problemId fee =>
          obtain rfl : matchId' = matchId := of_decide_eq_true rewrites
          exact absurd rfl (other playerA playerB problemId fee)
        all_goals cases rewrites
      case query sql =>
        obtain ⟨pick, db', ran, rfl⟩ := perform_query_ok performed
        cases sql
        case cancelMatch matchId' =>
          obtain rfl : matchId' = matchId := of_decide_eq_true rewrites
          cases ran
          rw [withDb_db, updateMatch_self, Option.map_map]
          rfl
        case completeMatch matchId' winner scoreA scoreB timeA timeB =>
          obtain rfl : matchId' = matchId := of_decide_eq_true rewrites
          simp only [Query.exec] at ran
          split at ran
          · cases ran
            rw [withDb_db, updateMatch_self, Option.map_map]
            rfl
          · cases ran
        all_goals cases rewrites
      all_goals cases rewrites

/-- What a query does to the row of a user. -/
def Query.treats : Query → Option (UserId × (UserRow → UserRow))
  | loseHeart user losses hearts resetAt => some (user, fun row =>
      { row with consecutiveLosses := some losses, hearts := some hearts,
                 heartsResetAt := if resetAt.isSome then resetAt else row.heartsResetAt })
  | regainHeart user => some (user, fun row =>
      { row with consecutiveLosses := some 0, hearts := some (min (row.hearts.getD 3 + 1) 3),
                 heartsResetAt := none })
  | restoreHearts user => some (user, fun row =>
      { row with hearts := some 3, heartsResetAt := none, consecutiveLosses := some 0 })
  | countWin user => some (user, fun row =>
      { row with matchesPlayed := row.matchesPlayed + 1, matchesWon := row.matchesWon + 1,
                 skillRating := row.skillRating + 25 })
  | countLoss user => some (user, fun row =>
      { row with matchesPlayed := row.matchesPlayed + 1, skillRating := max (row.skillRating - 15) 0 })
  | _ => none

theorem query_users {sql : Query} {pick : ℕ} {reply : sql.Reply} (ran : sql.exec pick db = .ok (reply, db')) :
    (sql.treats = none ∧ db'.users = db.users) ∨
      ∃ user change, sql.treats = some (user, change) ∧ db' = db.updateUser user change := by
  cases sql
  case insertSubmission =>
    simp only [Query.exec] at ran
    repeat' split at ran
    all_goals first | cases ran; exact .inl ⟨rfl, rfl⟩ | cases ran
  case completeMatch =>
    simp only [Query.exec] at ran
    split at ran
    · cases ran
      exact .inl ⟨rfl, rfl⟩
    · cases ran
  all_goals
    cases ran
    first | exact .inl ⟨rfl, rfl⟩ | exact .inr ⟨_, _, rfl, rfl⟩

/-- What an operation does to the row of a user. -/
def Op.treats : Op → Option (UserId × (UserRow → UserRow))
  | query sql => sql.treats
  | _ => none

/-- **What an operation that returned has done to the users.** -/
theorem perform_users {op : Op} {value : op.Reply}
    (performed : op.perform env choice world = some (.ok value, world')) :
    (op.treats = none ∧ world'.db.users = world.db.users) ∨ ∃ user change, op.treats = some (user, change) ∧
      world'.db.users = Function.update world.db.users user ((world.db.users user).map change) := by
  cases op
  case query sql =>
    obtain ⟨pick, db', ran, rfl⟩ := perform_query_ok performed
    rcases query_users ran with untreated | ⟨user, change, treats, rfl⟩
    · exact .inl untreated
    · exact .inr ⟨user, change, treats, rfl⟩
  case transact transaction =>
    obtain ⟨db', ran, rfl⟩ := perform_transact_ok performed
    exact .inl ⟨rfl, run_users ran⟩
  all_goals
    rcases db_frame performed with same | ⟨_, same⟩ | ⟨_, same⟩
    · exact .inl ⟨rfl, by rw [same]⟩
    · cases same
    · cases same

/-- **The users change only by a query that treats one of them.** -/
theorem users_frame {op : Op} {reply : Except Err op.Reply}
    (performed : op.perform env choice world = some (reply, world')) :
    world'.db.users = world.db.users ∨ ∃ user change, op.treats = some (user, change) ∧
      world'.db.users = Function.update world.db.users user ((world.db.users user).map change) := by
  cases reply with
  | error err =>
    rw [perform_error performed]
    exact .inl rfl
  | ok value => exact (perform_users performed).imp And.right id

/-- **The wallets and the ledger change only by a committed transaction.** -/
theorem money_frame {op : Op} {reply : Except Err op.Reply}
    (performed : op.perform env choice world = some (reply, world')) :
    (world'.db.wallets = world.db.wallets ∧ world'.db.ledger = world.db.ledger) ∨
      ∃ transaction value, op = .transact transaction ∧
        transaction.run env world.db = (.ok value, world'.db) := by
  cases reply with
  | error err => rw [perform_error performed]; exact .inl ⟨rfl, rfl⟩
  | ok value =>
    rcases db_frame performed with same | ⟨sql, rfl⟩ | ⟨transaction, rfl⟩
    · rw [same]
      exact .inl ⟨rfl, rfl⟩
    · obtain ⟨pick, db', ran, rfl⟩ := perform_query_ok performed
      exact .inl (query_frame ran)
    · obtain ⟨db', ran, rfl⟩ := perform_transact_ok performed
      exact .inr ⟨transaction, value, rfl, ran⟩

/-- **The counts of a match after an operation that returned.** -/
theorem perform_counts {op : Op} {value : op.Reply} (matchId : MatchId)
    (performed : op.perform env choice world = some (.ok value, world')) :
    world'.db.payouts matchId = world.db.payouts matchId +
      (if op.commits (·.paysOut matchId) then 1 else 0) ∧
    world'.db.refundRows matchId = world.db.refundRows matchId +
      (if op.commits (·.refunds matchId) then 2 else 0) := by
  cases op
  case transact transaction =>
    obtain ⟨db', ran, rfl⟩ := perform_transact_ok performed
    exact run_counts matchId ran
  all_goals
    rcases money_frame performed with ⟨_, ledger⟩ | ⟨transaction, value, same, _⟩
    · unfold Db.payouts Db.refundRows
      rw [ledger]
      exact ⟨rfl, rfl⟩
    · cases same

/-- The counts of a match move only when a transaction that settles it commits. -/
theorem counts_frame {op : Op} {reply : Except Err op.Reply} (matchId : MatchId)
    (performed : op.perform env choice world = some (reply, world')) :
    (op.commits (·.paysOut matchId) = false → world'.db.payouts matchId = world.db.payouts matchId) ∧
    (op.commits (·.refunds matchId) = false →
      world'.db.refundRows matchId = world.db.refundRows matchId) := by
  cases reply with
  | error err =>
    rw [perform_error performed]
    exact ⟨fun _ => rfl, fun _ => rfl⟩
  | ok value =>
    obtain ⟨payouts, refunds⟩ := perform_counts matchId performed
    refine ⟨fun other => ?_, fun other => ?_⟩
    · rw [payouts, other]
      rfl
    · rw [refunds, other]
      rfl

end SkillArena
