/-
**What the transactions do.**

One lemma a transaction: it commits exactly when the rows it reads are there and the rows it stores
satisfy their constraints, and then the database is the old one with these rows replaced and its ledger
rows appended (`deposit_ok`, `creditVerified_ok`, `creditWebhook_ok`, `createMatch_ok`, `release_ok`,
`refund_ok`, `withdraw_ok`). A transaction that does not commit leaves the database as it was (`run_error`).
What a committed transaction writes besides the wallets is said once for all of them (`run_writes`).
-/

import SkillArena.Model.Transactions

namespace SkillArena

open Async
open Sql (Numeric)

variable {N : Numeric} {env : Env} {db db' : Db}

/-! ### Statements -/

theorem interpret_query (statement : Statement) (db : Db) :
    statement.query.interpret (Statement.perform N) db = Statement.perform N statement db := rfl

theorem select_ok {user : UserId} {reply : Option Wallet} :
    (Statement.selectWallet user).query.interpret (Statement.perform N) db = (.ok reply, db') ↔
      db.wallets user = reply ∧ db = db' := by
  show ((Except.ok (db.wallets user), db) : Except Err (Option Wallet) × Db) = _ ↔ _
  simp only [Prod.mk.injEq, Except.ok.injEq]

/-- **An update stores a row exactly when the row satisfies the constraints**; the stored row carries
them. -/
theorem update_ok {wallet wallet' : Wallet} {set : WalletSet} :
    wallet.update N set = .ok wallet' ↔
      wallet'.balance = (set.balance.map N.store).getD wallet.balance ∧
      wallet'.lockedBalance = (set.lockedBalance.map N.store).getD wallet.lockedBalance ∧
      wallet'.totalDeposited = (set.addDeposited.map fun amount =>
        N.store (wallet.totalDeposited + amount)).getD wallet.totalDeposited ∧
      wallet'.totalWithdrawn = wallet.totalWithdrawn := by
  constructor
  · intro stored
    simp only [Wallet.update] at stored
    split at stored
    · split at stored
      · cases stored
        exact ⟨rfl, rfl, rfl, rfl⟩
      · cases stored
    · cases stored
  · rintro ⟨balance, locked, deposited, withdrawn⟩
    have balanceOk := wallet'.positive_balance
    have lockedOk := wallet'.positive_locked
    rw [balance] at balanceOk
    rw [locked] at lockedOk
    simp only [Wallet.update, balanceOk, lockedOk, dite_true, Except.ok.injEq]
    exact Wallet.ext balance.symm locked.symm deposited.symm withdrawn.symm

theorem updateWallet_ok {user : UserId} {set : WalletSet} {wallet : Wallet}
    (found : db.wallets user = some wallet) :
    (Statement.updateWallet user set).query.interpret (Statement.perform N) db = (.ok (), db') ↔
      ∃ wallet', wallet.update N set = .ok wallet' ∧ db' = db.setWallet user wallet' := by
  rw [interpret_query]
  simp only [Statement.perform, Statement.exec, found]
  cases wallet.update N set with
  | error err => simp
  | ok wallet' =>
    simp only [Prod.mk.injEq, true_and, Except.ok.injEq, exists_eq_left']
    exact eq_comm

theorem insertTransaction_ok {user : UserId} {type : TxType} {amount balance : ℚ}
    {reference : Option MatchId} {description : Description} :
    (Statement.insertTransaction user type amount (.value balance) reference
        description).query.interpret (Statement.perform N) db = (.ok (), db') ↔
      db' = db.addRow ⟨user, type, N.store amount, N.store balance, reference, description⟩ := by
  rw [interpret_query]
  show ((Except.ok (), db.addRow _) : Except Err Unit × Db) = _ ↔ _
  simp only [Prod.mk.injEq, true_and]
  exact eq_comm

theorem insertCurrent_ok {user : UserId} {type : TxType} {amount : ℚ} {reference : Option MatchId}
    {description : Description} {wallet : Wallet} (found : db.wallets user = some wallet) :
    (Statement.insertTransaction user type amount .currentBalance reference
        description).query.interpret (Statement.perform N) db = (.ok (), db') ↔
      db' = db.addRow ⟨user, type, N.store amount, wallet.balance, reference, description⟩ := by
  rw [interpret_query]
  simp only [Statement.perform, Statement.exec, found, Prod.mk.injEq, true_and]
  exact eq_comm

theorem update_exists {wallet : Wallet} {set : WalletSet}
    (balance : ∀ value, set.balance = some value → 0 ≤ value)
    (locked : ∀ value, set.lockedBalance = some value → 0 ≤ value) :
    ∃ wallet', wallet.update N set = .ok wallet' := by
  have balanceOk : 0 ≤ (set.balance.map N.store).getD wallet.balance := by
    cases assigned : set.balance with
    | none => exact wallet.positive_balance
    | some value => exact N.store_nonneg (balance value assigned)
  have lockedOk : 0 ≤ (set.lockedBalance.map N.store).getD wallet.lockedBalance := by
    cases assigned : set.lockedBalance with
    | none => exact wallet.positive_locked
    | some value => exact N.store_nonneg (locked value assigned)
  exact ⟨⟨_, _, _, _, balanceOk, lockedOk⟩, update_ok.mpr ⟨rfl, rfl, rfl, rfl⟩⟩

/-! ### Tables after an update -/

@[simp] theorem setWallet_wallets (db : Db) (user : UserId) (wallet : Wallet) :
    (db.setWallet user wallet).wallets = Function.update db.wallets user (some wallet) := rfl

@[simp] theorem setWallet_ledger (db : Db) (user : UserId) (wallet : Wallet) :
    (db.setWallet user wallet).ledger = db.ledger := rfl

@[simp] theorem setWallet_matches (db : Db) (user : UserId) (wallet : Wallet) :
    (db.setWallet user wallet).matches_ = db.matches_ := rfl

@[simp] theorem addRow_wallets (db : Db) (row : LedgerRow) : (db.addRow row).wallets = db.wallets := rfl

@[simp] theorem addRow_ledger (db : Db) (row : LedgerRow) :
    (db.addRow row).ledger = db.ledger ++ [row] := rfl

@[simp] theorem addRow_matches (db : Db) (row : LedgerRow) : (db.addRow row).matches_ = db.matches_ := rfl

/-! ### Commit and rollback -/

theorem run_ok {transaction : Transaction} {reply : transaction.Reply} :
    transaction.run env db = (.ok reply, db') ↔
      (transaction.body env).interpret (Statement.perform env.numeric) db = (.ok reply, db') := by
  unfold Transaction.run withTransaction
  rcases (transaction.body env).interpret (Statement.perform env.numeric) db with ⟨err | value, after⟩
  · simp
  · simp

theorem run_cases (env : Env) (transaction : Transaction) (db : Db) :
    (∃ reply db', transaction.run env db = (.ok reply, db')) ∨
      (∃ err, transaction.run env db = (.error err, db)) := by
  unfold Transaction.run withTransaction
  rcases (transaction.body env).interpret (Statement.perform env.numeric) db with ⟨err | value, after⟩
  · exact .inr ⟨err, rfl⟩
  · exact .inl ⟨value, after, rfl⟩

/-- **Rollback**: a transaction that throws leaves the database as it was. -/
theorem run_error {transaction : Transaction} {err : Err}
    (failed : (transaction.run env db).1 = .error err) : (transaction.run env db).2 = db := by
  rcases run_cases env transaction db with ⟨reply, db', ran⟩ | ⟨err', ran⟩
  · rw [ran] at failed
    cases failed
  · rw [ran]

/-! ### The transactions -/

theorem selectThen_ok {α : Type} {user : UserId} {err : Err} {rest : Wallet → SqlTask α} {value : α} :
    (do
      match ← (Statement.selectWallet user).query with
      | none => Task.throw err
      | some wallet => rest wallet : SqlTask α).interpret (Statement.perform N) db = (.ok value, db') ↔
      ∃ wallet, db.wallets user = some wallet ∧
        (rest wallet).interpret (Statement.perform N) db = (.ok value, db') := by
  constructor
  · intro ran
    obtain ⟨_, _, selected, ran⟩ := Task.interpret_bind_ok.mp ran
    obtain ⟨rfl, rfl⟩ := select_ok.mp selected
    cases found : db.wallets user with
    | none =>
      rw [found] at ran
      cases ran
    | some wallet =>
      rw [found] at ran
      exact ⟨wallet, rfl, ran⟩
  · rintro ⟨wallet, found, ran⟩
    refine Task.interpret_bind_ok.mpr ⟨_, _, select_ok.mpr ⟨rfl, rfl⟩, ?_⟩
    simp only [found]
    exact ran

theorem updateInsertThen_ok {α : Type} {user : UserId} {set : WalletSet} {type : TxType}
    {amount balance : ℚ} {reference : Option MatchId} {description : Description}
    {rest : SqlTask α} {value : α} {wallet : Wallet} (found : db.wallets user = some wallet) :
    (do
      (Statement.updateWallet user set).query
      (Statement.insertTransaction user type amount (.value balance) reference description).query
      rest : SqlTask α).interpret (Statement.perform N) db = (.ok value, db') ↔
      ∃ wallet', wallet.update N set = .ok wallet' ∧
        rest.interpret (Statement.perform N) ((db.setWallet user wallet').addRow
          ⟨user, type, N.store amount, N.store balance, reference, description⟩) = (.ok value, db') := by
  constructor
  · intro ran
    obtain ⟨_, _, updated, ran⟩ := Task.interpret_bind_ok.mp ran
    obtain ⟨wallet', stored, rfl⟩ := (updateWallet_ok found).mp updated
    obtain ⟨_, _, inserted, ran⟩ := Task.interpret_bind_ok.mp ran
    obtain rfl := insertTransaction_ok.mp inserted
    exact ⟨wallet', stored, ran⟩
  · rintro ⟨wallet', stored, ran⟩
    refine Task.interpret_bind_ok.mpr ⟨_, _, (updateWallet_ok found).mpr ⟨wallet', stored, rfl⟩, ?_⟩
    exact Task.interpret_bind_ok.mpr ⟨_, _, insertTransaction_ok.mpr rfl, ran⟩

theorem updateInsert_ok {user : UserId} {set : WalletSet} {type : TxType} {amount balance : ℚ}
    {reference : Option MatchId} {description : Description} {wallet : Wallet}
    (found : db.wallets user = some wallet) :
    (do
      (Statement.updateWallet user set).query
      (Statement.insertTransaction user type amount (.value balance) reference
        description).query : SqlTask Unit).interpret (Statement.perform N) db = (.ok (), db') ↔
      ∃ wallet', wallet.update N set = .ok wallet' ∧ db' = (db.setWallet user wallet').addRow
        ⟨user, type, N.store amount, N.store balance, reference, description⟩ := by
  constructor
  · intro ran
    obtain ⟨_, _, updated, inserted⟩ := Task.interpret_bind_ok.mp ran
    obtain ⟨wallet', stored, rfl⟩ := (updateWallet_ok found).mp updated
    exact ⟨wallet', stored, insertTransaction_ok.mp inserted⟩
  · rintro ⟨wallet', stored, rfl⟩
    exact Task.interpret_bind_ok.mpr ⟨_, _, (updateWallet_ok found).mpr ⟨wallet', stored, rfl⟩,
      insertTransaction_ok.mpr rfl⟩

def creditSet (wallet : Wallet) (amount : ℚ) : WalletSet :=
  { balance := some (wallet.balance + amount), addDeposited := some amount }

def depositRow (N : Numeric) (user : UserId) (wallet : Wallet) (amount : ℚ) (description : Description) :
    LedgerRow :=
  ⟨user, .deposit, N.store amount, N.store (wallet.balance + amount), none, description⟩

theorem deposit_ok {user : UserId} {amount reply : ℚ} :
    (Transaction.deposit user amount).run env db = (.ok reply, db') ↔ 0 < amount ∧
      ∃ W W', db.wallets user = some W ∧ W.update env.numeric (creditSet W amount) = .ok W' ∧
        reply = W.balance + amount ∧
        db' = (db.setWallet user W').addRow (depositRow env.numeric user W amount .walletTopUp) := by
  rw [run_ok]
  show (SkillArena.deposit user amount).interpret _ _ = _ ↔ _
  unfold SkillArena.deposit
  by_cases positive : amount ≤ 0
  · rw [if_pos positive]
    refine ⟨fun ran => (by cases ran), fun ran => absurd ran.1 (not_lt.mpr positive)⟩
  · rw [if_neg positive]
    constructor
    · intro ran
      obtain ⟨W, found, ran⟩ := selectThen_ok.mp ran
      obtain ⟨W', stored, ran⟩ := (updateInsertThen_ok found).mp ran
      cases ran
      exact ⟨not_le.mp positive, W, W', found, stored, rfl, rfl⟩
    · rintro ⟨_, W, W', found, stored, rfl, rfl⟩
      exact selectThen_ok.mpr ⟨W, found, (updateInsertThen_ok found).mpr ⟨W', stored, rfl⟩⟩

theorem creditVerified_ok {user : UserId} {order payment : Text} {amount reply : ℚ} :
    (Transaction.creditVerified user order payment amount).run env db = (.ok reply, db') ↔
      ∃ W W', db.wallets user = some W ∧ W.update env.numeric (creditSet W amount) = .ok W' ∧
        reply = W.balance + amount ∧ db' = (db.setWallet user W').addRow
          (depositRow env.numeric user W amount (.razorpayDeposit order payment)) := by
  rw [run_ok]
  constructor
  · intro ran
    obtain ⟨W, found, ran⟩ := selectThen_ok.mp ran
    obtain ⟨W', stored, ran⟩ := (updateInsertThen_ok found).mp ran
    cases ran
    exact ⟨W, W', found, stored, rfl, rfl⟩
  · rintro ⟨W, W', found, stored, rfl, rfl⟩
    exact selectThen_ok.mpr ⟨W, found, (updateInsertThen_ok found).mpr ⟨W', stored, rfl⟩⟩

/-- Without a wallet the webhook's transaction commits and changes nothing. -/
theorem creditWebhook_ok {user : UserId} {payment : Text} {amount : ℚ} :
    (Transaction.creditWebhook user payment amount).run env db = (.ok (), db') ↔
      db.wallets user = none ∧ db' = db ∨
      ∃ W W', db.wallets user = some W ∧ W.update env.numeric (creditSet W amount) = .ok W' ∧
        db' = (db.setWallet user W').addRow
          (depositRow env.numeric user W amount (.webhookDeposit payment)) := by
  rw [run_ok]
  constructor
  · intro ran
    obtain ⟨_, _, selected, ran⟩ := Task.interpret_bind_ok.mp ran
    obtain ⟨rfl, rfl⟩ := select_ok.mp selected
    cases found : db.wallets user with
    | none =>
      rw [found] at ran
      cases ran
      exact .inl ⟨rfl, rfl⟩
    | some W =>
      rw [found] at ran
      obtain ⟨W', stored, rfl⟩ := (updateInsert_ok found).mp ran
      exact .inr ⟨W, W', rfl, stored, rfl⟩
  · rintro (⟨missing, rfl⟩ | ⟨W, W', found, stored, rfl⟩)
    · refine Task.interpret_bind_ok.mpr ⟨_, _, select_ok.mpr ⟨rfl, rfl⟩, ?_⟩
      simp only [missing]
      rfl
    · refine Task.interpret_bind_ok.mpr ⟨_, _, select_ok.mpr ⟨rfl, rfl⟩, ?_⟩
      simp only [found]
      exact (updateInsert_ok found).mpr ⟨W', stored, rfl⟩

def lockSet (wallet : Wallet) (fee : ℚ) : WalletSet :=
  { balance := some (wallet.balance - fee), lockedBalance := some (wallet.lockedBalance + fee) }

def lockRow (N : Numeric) (user : UserId) (wallet : Wallet) (fee : ℚ) (matchId : MatchId) : LedgerRow :=
  ⟨user, .matchEntryDebit, N.store fee, N.store (wallet.balance - fee), some matchId, .entryFeeLocked⟩

theorem lockFunds_ok {user : UserId} {fee : ℚ} {matchId : MatchId} :
    (lockFundsForMatch user fee matchId).interpret (Statement.perform N) db = (.ok (), db') ↔
      ∃ W W', db.wallets user = some W ∧ fee ≤ W.balance ∧ W.update N (lockSet W fee) = .ok W' ∧
        db' = (db.setWallet user W').addRow (lockRow N user W fee matchId) := by
  constructor
  · intro ran
    obtain ⟨W, found, ran⟩ := selectThen_ok.mp ran
    by_cases poor : W.balance < fee
    · rw [if_pos poor] at ran
      cases ran
    · rw [if_neg poor] at ran
      obtain ⟨W', stored, rfl⟩ := (updateInsert_ok found).mp ran
      exact ⟨W, W', found, not_lt.mp poor, stored, rfl⟩
  · rintro ⟨W, W', found, rich, stored, rfl⟩
    refine selectThen_ok.mpr ⟨W, found, ?_⟩
    rw [if_neg (not_lt.mpr rich)]
    exact (updateInsert_ok found).mpr ⟨W', stored, rfl⟩

def newMatchRow (env : Env) (playerA playerB : UserId) (problemId : ProblemId) (fee : ℚ) : MatchRow :=
  { playerAId := playerA, playerBId := playerB, problemId := some problemId,
    entryFee := env.numeric.store fee,
    prizePool := env.numeric.store (fee * 2 * (1 - env.platformFeePercent / 100)),
    platformFee := env.numeric.store (fee * 2 * (env.platformFeePercent / 100)), status := .inProgress }

def Db.withMatch (db : Db) (matchId : MatchId) (row : MatchRow) : Db :=
  { db with matches_ := Function.update db.matches_ matchId (some row) }

@[simp] theorem withMatch_wallets (db : Db) (matchId : MatchId) (row : MatchRow) :
    (db.withMatch matchId row).wallets = db.wallets := rfl

@[simp] theorem withMatch_ledger (db : Db) (matchId : MatchId) (row : MatchRow) :
    (db.withMatch matchId row).ledger = db.ledger := rfl

@[simp] theorem withMatch_matches (db : Db) (matchId : MatchId) (row : MatchRow) :
    (db.withMatch matchId row).matches_ = Function.update db.matches_ matchId (some row) := rfl

/-- **Creation**: the row is new, both players can pay, and both fees go into escrow. -/
theorem createMatch_ok {matchId : MatchId} {playerA playerB : UserId} {problemId : ProblemId} {fee : ℚ} :
    (Transaction.createMatch matchId playerA playerB problemId fee).run env db = (.ok (), db') ↔
      db.matches_ matchId = none ∧ ∃ A A' B B',
        db.wallets playerA = some A ∧ fee ≤ A.balance ∧
        A.update env.numeric (lockSet A fee) = .ok A' ∧
        (db.setWallet playerA A').wallets playerB = some B ∧ fee ≤ B.balance ∧
        B.update env.numeric (lockSet B fee) = .ok B' ∧
        db' = (((((db.withMatch matchId (newMatchRow env playerA playerB problemId fee)).setWallet
          playerA A').addRow (lockRow env.numeric playerA A fee matchId)).setWallet playerB B').addRow
            (lockRow env.numeric playerB B fee matchId)) := by
  rw [run_ok]
  show (SkillArena.createMatch env matchId playerA playerB problemId fee).interpret _ _ = _ ↔ _
  unfold SkillArena.createMatch
  rw [Task.interpret_bind]
  by_cases fresh : db.matches_ matchId = none
  · have inserted : (Statement.insertMatch matchId
        { playerAId := playerA, playerBId := playerB, problemId := some problemId, entryFee := fee,
          prizePool := fee * 2 * (1 - env.platformFeePercent / 100),
          platformFee := fee * 2 * (env.platformFeePercent / 100),
          status := .inProgress }).query.interpret (Statement.perform env.numeric) db =
        (.ok (), db.withMatch matchId (newMatchRow env playerA playerB problemId fee)) := by
      rw [interpret_query]
      simp only [Statement.perform, Statement.exec, fresh]
      rfl
    rw [inserted]
    constructor
    · intro ran
      obtain ⟨_, _, lockedA, lockedB⟩ := Task.interpret_bind_ok.mp ran
      obtain ⟨A, A', foundA, richA, storedA, rfl⟩ := lockFunds_ok.mp lockedA
      obtain ⟨B, B', foundB, richB, storedB, rfl⟩ := lockFunds_ok.mp lockedB
      exact ⟨fresh, A, A', B, B', foundA, richA, storedA, foundB, richB, storedB, rfl⟩
    · rintro ⟨_, A, A', B, B', foundA, richA, storedA, foundB, richB, storedB, rfl⟩
      exact Task.interpret_bind_ok.mpr ⟨_, _, lockFunds_ok.mpr ⟨A, A', foundA, richA, storedA, rfl⟩,
        lockFunds_ok.mpr ⟨B, B', foundB, richB, storedB, rfl⟩⟩
  · have rejected : (Statement.insertMatch matchId
        { playerAId := playerA, playerBId := playerB, problemId := some problemId, entryFee := fee,
          prizePool := fee * 2 * (1 - env.platformFeePercent / 100),
          platformFee := fee * 2 * (env.platformFeePercent / 100),
          status := .inProgress }).query.interpret (Statement.perform env.numeric) db =
        (.error .duplicateKey, db) := by
      rw [interpret_query]
      simp only [Statement.perform, Statement.exec, Option.isSome_iff_ne_none.mpr fresh]
      rfl
    rw [rejected]
    exact ⟨fun ran => (by cases ran), fun ran => absurd ran.1 fresh⟩

def consumeSet (wallet : Wallet) (fee : ℚ) : WalletSet :=
  { lockedBalance := some (wallet.lockedBalance - fee) }

/-- The row of a winner: the escrow consumed, the prize credited. -/
def prizeSet (env : Env) (wallet : Wallet) (fee : ℚ) : WalletSet :=
  { balance := some (wallet.balance + netPrizeOf env fee),
    lockedBalance := some (wallet.lockedBalance - fee), addDeposited := some (netPrizeOf env fee) }

def winRow (env : Env) (winner : UserId) (wallet : Wallet) (fee : ℚ) (matchId : MatchId) : LedgerRow :=
  ⟨winner, .matchWinCredit, env.numeric.store (netPrizeOf env fee),
    env.numeric.store (wallet.balance + netPrizeOf env fee), some matchId, .matchWinnings⟩

/-- The loser's ledger row, with the balance the loser has by then. -/
def lossRow (env : Env) (loser : UserId) (wallet : Wallet) (fee : ℚ) (matchId : MatchId) : LedgerRow :=
  ⟨loser, .matchLossDebit, env.numeric.store fee, wallet.balance, some matchId, .matchLost⟩

/-- **The payout**: it commits exactly when both escrows can be consumed. -/
theorem release_ok {winner loser : UserId} {fee : ℚ} {matchId : MatchId} {reply : ℚ × ℚ} :
    (Transaction.releaseEscrowToWinner winner loser fee matchId).run env db = (.ok reply, db') ↔
      ∃ L L' W W' X, db.wallets loser = some L ∧ L.update env.numeric (consumeSet L fee) = .ok L' ∧
        (db.setWallet loser L').wallets winner = some W ∧
        W.update env.numeric (prizeSet env W fee) = .ok W' ∧
        ((db.setWallet loser L').setWallet winner W').wallets loser = some X ∧
        reply = (netPrizeOf env fee, platformFeeOf env fee) ∧
        db' = (((db.setWallet loser L').setWallet winner W').addRow (winRow env winner W fee matchId)).addRow
          (lossRow env loser X fee matchId) := by
  rw [run_ok]
  constructor
  · intro ran
    obtain ⟨L, foundL, ran⟩ := selectThen_ok.mp ran
    obtain ⟨_, _, updated, ran⟩ := Task.interpret_bind_ok.mp ran
    obtain ⟨L', storedL, rfl⟩ := (updateWallet_ok foundL).mp updated
    obtain ⟨W, foundW, ran⟩ := selectThen_ok.mp ran
    obtain ⟨W', storedW, ran⟩ := (updateInsertThen_ok foundW).mp ran
    obtain ⟨X, foundX⟩ : ∃ X, ((db.setWallet loser L').setWallet winner W').wallets loser = some X := by
      by_cases same : loser = winner
      · exact ⟨W', by simp [same]⟩
      · exact ⟨L', by simp [same]⟩
    obtain ⟨_, _, inserted, ran⟩ := Task.interpret_bind_ok.mp ran
    have current : (((db.setWallet loser L').setWallet winner W').addRow
        (winRow env winner W fee matchId)).wallets loser = some X := foundX
    obtain rfl := (insertCurrent_ok current).mp inserted
    cases ran
    exact ⟨L, L', W, W', X, foundL, storedL, foundW, storedW, foundX, rfl, rfl⟩
  · rintro ⟨L, L', W, W', X, foundL, storedL, foundW, storedW, foundX, rfl, rfl⟩
    refine selectThen_ok.mpr ⟨L, foundL, ?_⟩
    refine Task.interpret_bind_ok.mpr ⟨_, _, (updateWallet_ok foundL).mpr ⟨L', storedL, rfl⟩, ?_⟩
    refine selectThen_ok.mpr ⟨W, foundW, (updateInsertThen_ok foundW).mpr ⟨W', storedW, ?_⟩⟩
    have current : (((db.setWallet loser L').setWallet winner W').addRow
        (winRow env winner W fee matchId)).wallets loser = some X := foundX
    exact Task.interpret_bind_ok.mpr ⟨_, _, (insertCurrent_ok current).mpr rfl, rfl⟩

def refundSet (wallet : Wallet) (fee : ℚ) : WalletSet :=
  { balance := some (wallet.balance + fee), lockedBalance := some (wallet.lockedBalance - fee) }

def refundRow (N : Numeric) (user : UserId) (wallet : Wallet) (fee : ℚ) (matchId : MatchId) : LedgerRow :=
  ⟨user, .refund, N.store fee, N.store (wallet.balance + fee), some matchId, .matchCancelled⟩

theorem refundPlayers_cons_ok {user : UserId} {rest : List UserId} {fee : ℚ} {matchId : MatchId} :
    (refundPlayers fee matchId (user :: rest)).interpret (Statement.perform N) db = (.ok (), db') ↔
      ∃ W W', db.wallets user = some W ∧ W.update N (refundSet W fee) = .ok W' ∧
        (refundPlayers fee matchId rest).interpret (Statement.perform N)
          ((db.setWallet user W').addRow (refundRow N user W fee matchId)) = (.ok (), db') := by
  constructor
  · intro ran
    obtain ⟨W, found, ran⟩ := selectThen_ok.mp ran
    obtain ⟨W', stored, ran⟩ := (updateInsertThen_ok found).mp ran
    exact ⟨W, W', found, stored, ran⟩
  · rintro ⟨W, W', found, stored, ran⟩
    exact selectThen_ok.mpr ⟨W, found, (updateInsertThen_ok found).mpr ⟨W', stored, ran⟩⟩

/-- **The refund** of both players. -/
theorem refund_ok {playerA playerB : UserId} {fee : ℚ} {matchId : MatchId} :
    (Transaction.refundBothPlayers playerA playerB fee matchId).run env db = (.ok (), db') ↔
      ∃ A A' B B', db.wallets playerA = some A ∧ A.update env.numeric (refundSet A fee) = .ok A' ∧
        (db.setWallet playerA A').wallets playerB = some B ∧
        B.update env.numeric (refundSet B fee) = .ok B' ∧
        db' = ((((db.setWallet playerA A').addRow (refundRow env.numeric playerA A fee matchId)).setWallet
          playerB B').addRow (refundRow env.numeric playerB B fee matchId)) := by
  rw [run_ok]
  constructor
  · intro ran
    obtain ⟨A, A', foundA, storedA, ran⟩ := refundPlayers_cons_ok.mp ran
    obtain ⟨B, B', foundB, storedB, ran⟩ := refundPlayers_cons_ok.mp ran
    cases ran
    exact ⟨A, A', B, B', foundA, storedA, foundB, storedB, rfl⟩
  · rintro ⟨A, A', B, B', foundA, storedA, foundB, storedB, rfl⟩
    exact refundPlayers_cons_ok.mpr ⟨A, A', foundA, storedA,
      refundPlayers_cons_ok.mpr ⟨B, B', foundB, storedB, rfl⟩⟩

theorem netPrizeOf_nonneg {env : Env} (percent : 0 ≤ env.platformFeePercent ∧ env.platformFeePercent ≤ 100)
    {fee : ℚ} (positive : 0 ≤ fee) : 0 ≤ netPrizeOf env fee := by
  have share : 0 ≤ 1 - env.platformFeePercent / 100 := by linarith [percent.2]
  have factored : netPrizeOf env fee = fee * 2 * (1 - env.platformFeePercent / 100) := by
    unfold netPrizeOf platformFeeOf
    ring
  rw [factored]
  positivity

/-- **A payout between two users with enough escrow commits.** -/
theorem release_commits {winner loser : UserId} {fee : ℚ} (matchId : MatchId) {W L : Wallet}
    (different : winner ≠ loser) (foundW : db.wallets winner = some W) (foundL : db.wallets loser = some L)
    (coveredW : fee ≤ W.lockedBalance) (coveredL : fee ≤ L.lockedBalance) (prize : 0 ≤ netPrizeOf env fee) :
    ∃ reply db', (Transaction.releaseEscrowToWinner winner loser fee matchId).run env db =
      (.ok reply, db') := by
  obtain ⟨L', storedL⟩ : ∃ L', L.update env.numeric (consumeSet L fee) = .ok L' :=
    update_exists nofun (by rintro _ ⟨⟩; linarith)
  obtain ⟨W', storedW⟩ : ∃ W', W.update env.numeric (prizeSet env W fee) = .ok W' := by
    refine update_exists ?_ ?_
    · rintro _ ⟨⟩
      linarith [W.positive_balance]
    · rintro _ ⟨⟩
      linarith
  have foundW' : (db.setWallet loser L').wallets winner = some W := by
    rw [setWallet_wallets, Function.update_of_ne different, foundW]
  have foundX : ((db.setWallet loser L').setWallet winner W').wallets loser = some L' := by
    rw [setWallet_wallets, Function.update_of_ne different.symm, setWallet_wallets, Function.update_self]
  exact ⟨_, _, release_ok.mpr ⟨L, L', W, W', L', foundL, storedL, foundW', storedW, foundX, rfl, rfl⟩⟩

/-- **A refund of two users with enough escrow commits.** -/
theorem refund_commits {playerA playerB : UserId} {fee : ℚ} (matchId : MatchId) {A B : Wallet}
    (different : playerA ≠ playerB) (foundA : db.wallets playerA = some A)
    (foundB : db.wallets playerB = some B) (coveredA : fee ≤ A.lockedBalance)
    (coveredB : fee ≤ B.lockedBalance) (positive : 0 ≤ fee) :
    ∃ reply db', (Transaction.refundBothPlayers playerA playerB fee matchId).run env db =
      (.ok reply, db') := by
  have stores : ∀ W : Wallet, fee ≤ W.lockedBalance →
      ∃ W', W.update env.numeric (refundSet W fee) = .ok W' := fun W covered => by
    refine update_exists ?_ ?_
    · rintro _ ⟨⟩
      linarith [W.positive_balance]
    · rintro _ ⟨⟩
      linarith
  obtain ⟨A', storedA⟩ := stores A coveredA
  obtain ⟨B', storedB⟩ := stores B coveredB
  have foundB' : (db.setWallet playerA A').wallets playerB = some B := by
    rw [setWallet_wallets, Function.update_of_ne different.symm, foundB]
  exact ⟨_, _, refund_ok.mpr ⟨A, A', B, B', foundA, storedA, foundB', storedB, rfl⟩⟩

/-- **What a committed payout does to the escrow** of the winner and of the loser. -/
theorem release_escrow {winner loser : UserId} {fee : ℚ} {matchId : MatchId} {reply : ℚ × ℚ}
    (different : winner ≠ loser)
    (ran : (Transaction.releaseEscrowToWinner winner loser fee matchId).run env db = (.ok reply, db')) :
    ∃ W W' L L', db.wallets winner = some W ∧ db.wallets loser = some L ∧
      db'.wallets = Function.update (Function.update db.wallets loser (some L')) winner (some W') ∧
      W'.lockedBalance = env.numeric.store (W.lockedBalance - fee) ∧
      L'.lockedBalance = env.numeric.store (L.lockedBalance - fee) := by
  obtain ⟨L, L', W, W', X, foundL, storedL, foundW, storedW, _, _, rfl⟩ := release_ok.mp ran
  rw [setWallet_wallets, Function.update_of_ne different] at foundW
  exact ⟨W, W', L, L', foundW, foundL, rfl, (update_ok.mp storedW).2.1, (update_ok.mp storedL).2.1⟩

/-- **What a committed refund does to the escrow** of both players. -/
theorem refund_escrow {playerA playerB : UserId} {fee : ℚ} {matchId : MatchId}
    (different : playerA ≠ playerB)
    (ran : (Transaction.refundBothPlayers playerA playerB fee matchId).run env db = (.ok (), db')) :
    ∃ A A' B B', db.wallets playerA = some A ∧ db.wallets playerB = some B ∧
      db'.wallets = Function.update (Function.update db.wallets playerA (some A')) playerB (some B') ∧
      A'.lockedBalance = env.numeric.store (A.lockedBalance - fee) ∧
      B'.lockedBalance = env.numeric.store (B.lockedBalance - fee) := by
  obtain ⟨A, A', B, B', foundA, storedA, foundB, storedB, rfl⟩ := refund_ok.mp ran
  rw [setWallet_wallets, Function.update_of_ne different.symm] at foundB
  exact ⟨A, A', B, B', foundA, foundB, rfl, (update_ok.mp storedA).2.1, (update_ok.mp storedB).2.1⟩

def Db.withWithdrawal (db : Db) (withdrawal : Withdrawal) : Db :=
  { db with withdrawals := db.withdrawals ++ [withdrawal] }

@[simp] theorem withWithdrawal_wallets (db : Db) (withdrawal : Withdrawal) :
    (db.withWithdrawal withdrawal).wallets = db.wallets := rfl

@[simp] theorem withWithdrawal_ledger (db : Db) (withdrawal : Withdrawal) :
    (db.withWithdrawal withdrawal).ledger = db.ledger := rfl

@[simp] theorem withWithdrawal_matches (db : Db) (withdrawal : Withdrawal) :
    (db.withWithdrawal withdrawal).matches_ = db.matches_ := rfl

def withdrawalRow (N : Numeric) (user : UserId) (wallet : Wallet) (amount : ℚ) (upiId : Text) (ref : ℕ) :
    LedgerRow :=
  ⟨user, .withdrawal, N.store amount, N.store (wallet.balance - amount), none, .withdrawalTo upiId ref⟩

theorem withdraw_ok {user : UserId} {amount : ℚ} {reply : ℕ × ℚ} {upiId : Text} :
    (Transaction.withdraw user amount upiId).run env db = (.ok reply, db') ↔
      ∃ W W', db.wallets user = some W ∧ amount ≤ W.balance ∧
        W.update env.numeric { balance := some (W.balance - amount) } = .ok W' ∧
        reply = (db.withdrawals.length, W.balance - amount) ∧
        db' = (((db.setWallet user W').withWithdrawal ⟨user, env.numeric.store amount, upiId, true⟩).addRow
          (withdrawalRow env.numeric user W amount upiId db.withdrawals.length)) := by
  rw [run_ok]
  constructor
  · intro ran
    obtain ⟨W, found, ran⟩ := selectThen_ok.mp ran
    by_cases poor : W.balance < amount
    · rw [if_pos poor] at ran
      cases ran
    · rw [if_neg poor] at ran
      obtain ⟨_, _, updated, ran⟩ := Task.interpret_bind_ok.mp ran
      obtain ⟨W', stored, rfl⟩ := (updateWallet_ok found).mp updated
      cases ran
      exact ⟨W, W', found, not_lt.mp poor, stored, rfl, rfl⟩
  · rintro ⟨W, W', found, rich, stored, rfl, rfl⟩
    refine selectThen_ok.mpr ⟨W, found, ?_⟩
    rw [if_neg (not_lt.mpr rich)]
    exact Task.interpret_bind_ok.mpr ⟨_, _, (updateWallet_ok found).mpr ⟨W', stored, rfl⟩, rfl⟩

/-! ### All transactions -/

/-- What a ledger row says, the balance apart. -/
structure Posting where
  userId : UserId
  type : TxType
  amount : ℚ
  referenceId : Option MatchId
  description : Description
  deriving DecidableEq

def LedgerRow.posting (row : LedgerRow) : Posting :=
  ⟨row.userId, row.type, row.amount, row.referenceId, row.description⟩

namespace Transaction

/-- The ledger rows a transaction appends when it commits. -/
def postings (env : Env) (db : Db) : Transaction → List Posting
  | deposit user amount => [⟨user, .deposit, env.numeric.store amount, none, .walletTopUp⟩]
  | createMatch matchId playerA playerB _ fee =>
    [⟨playerA, .matchEntryDebit, env.numeric.store fee, some matchId, .entryFeeLocked⟩,
      ⟨playerB, .matchEntryDebit, env.numeric.store fee, some matchId, .entryFeeLocked⟩]
  | releaseEscrowToWinner winner loser fee matchId =>
    [⟨winner, .matchWinCredit, env.numeric.store (netPrizeOf env fee), some matchId, .matchWinnings⟩,
      ⟨loser, .matchLossDebit, env.numeric.store fee, some matchId, .matchLost⟩]
  | refundBothPlayers playerA playerB fee matchId =>
    [⟨playerA, .refund, env.numeric.store fee, some matchId, .matchCancelled⟩,
      ⟨playerB, .refund, env.numeric.store fee, some matchId, .matchCancelled⟩]
  | creditVerified user order payment amount =>
    [⟨user, .deposit, env.numeric.store amount, none, .razorpayDeposit order payment⟩]
  | creditWebhook user payment amount =>
    if (db.wallets user).isSome then [⟨user, .deposit, env.numeric.store amount, none, .webhookDeposit payment⟩]
    else []
  | withdraw user amount upiId =>
    [⟨user, .withdrawal, env.numeric.store amount, none, .withdrawalTo upiId db.withdrawals.length⟩]

def matchesAfter (env : Env) (db : Db) : Transaction → MatchId → Option MatchRow
  | createMatch matchId playerA playerB problemId fee =>
    Function.update db.matches_ matchId (some (newMatchRow env playerA playerB problemId fee))
  | _ => db.matches_

def requests (env : Env) : Transaction → List Withdrawal
  | withdraw user amount upiId => [⟨user, env.numeric.store amount, upiId, true⟩]
  | _ => []

end Transaction

section Writes

variable {transaction : Transaction} {reply : transaction.Reply}

/-- **What a committed transaction writes**, the wallets apart. -/
theorem run_writes (ran : transaction.run env db = (.ok reply, db')) :
    ∃ rows, rows.map LedgerRow.posting = transaction.postings env db ∧
      db' = { db with wallets := db'.wallets, ledger := db.ledger ++ rows,
                      matches_ := transaction.matchesAfter env db,
                      withdrawals := db.withdrawals ++ transaction.requests env } := by
  cases transaction with
  | deposit user amount =>
    obtain ⟨_, W, W', _, _, _, rfl⟩ := deposit_ok.mp ran
    refine ⟨[depositRow env.numeric user W amount .walletTopUp], rfl, ?_⟩
    simp only [Transaction.requests, List.append_nil]
    rfl
  | createMatch matchId playerA playerB problemId fee =>
    obtain ⟨_, A, A', B, B', _, _, _, _, _, _, rfl⟩ := createMatch_ok.mp ran
    refine ⟨[lockRow env.numeric playerA A fee matchId, lockRow env.numeric playerB B fee matchId], rfl, ?_⟩
    rw [List.append_cons]
    simp only [Transaction.requests, List.append_nil]
    rfl
  | releaseEscrowToWinner winner loser fee matchId =>
    obtain ⟨L, L', W, W', X, _, _, _, _, _, _, rfl⟩ := release_ok.mp ran
    refine ⟨[winRow env winner W fee matchId, lossRow env loser X fee matchId], rfl, ?_⟩
    rw [List.append_cons]
    simp only [Transaction.requests, List.append_nil]
    rfl
  | refundBothPlayers playerA playerB fee matchId =>
    obtain ⟨A, A', B, B', _, _, _, _, rfl⟩ := refund_ok.mp ran
    refine ⟨[refundRow env.numeric playerA A fee matchId, refundRow env.numeric playerB B fee matchId], rfl, ?_⟩
    rw [List.append_cons]
    simp only [Transaction.requests, List.append_nil]
    rfl
  | creditVerified user order payment amount =>
    obtain ⟨W, W', _, _, _, rfl⟩ := creditVerified_ok.mp ran
    refine ⟨[depositRow env.numeric user W amount (.razorpayDeposit order payment)], rfl, ?_⟩
    simp only [Transaction.requests, List.append_nil]
    rfl
  | creditWebhook user payment amount =>
    rcases creditWebhook_ok.mp ran with ⟨missing, rfl⟩ | ⟨W, W', found, _, rfl⟩
    · refine ⟨[], ?_, ?_⟩
      · simp [Transaction.postings, missing]
      · simp only [Transaction.requests, List.append_nil]
        rfl
    · refine ⟨[depositRow env.numeric user W amount (.webhookDeposit payment)], ?_, ?_⟩
      · simp [Transaction.postings, found, LedgerRow.posting, depositRow]
      · simp only [Transaction.requests, List.append_nil]
        rfl
  | withdraw user amount upiId =>
    obtain ⟨W, W', _, _, _, _, rfl⟩ := withdraw_ok.mp ran
    exact ⟨[withdrawalRow env.numeric user W amount upiId db.withdrawals.length], rfl, rfl⟩

theorem run_ledger (ran : transaction.run env db = (.ok reply, db')) :
    ∃ rows, rows.map LedgerRow.posting = transaction.postings env db ∧ db'.ledger = db.ledger ++ rows := by
  obtain ⟨rows, posted, written⟩ := run_writes ran
  exact ⟨rows, posted, congrArg Db.ledger written⟩

theorem run_countP (ran : transaction.run env db = (.ok reply, db')) (p : Posting → Bool) :
    db'.ledger.countP (fun row => p row.posting) =
      db.ledger.countP (fun row => p row.posting) + (transaction.postings env db).countP p := by
  obtain ⟨rows, posted, ledger⟩ := run_ledger ran
  rw [ledger, List.countP_append, ← posted, List.countP_map]
  rfl

theorem run_users (ran : transaction.run env db = (.ok reply, db')) : db'.users = db.users := by
  obtain ⟨_, _, written⟩ := run_writes ran
  rw [written]

theorem run_submissions (ran : transaction.run env db = (.ok reply, db')) : db'.submissions = db.submissions := by
  obtain ⟨_, _, written⟩ := run_writes ran
  rw [written]

theorem run_matchesAfter (ran : transaction.run env db = (.ok reply, db')) :
    db'.matches_ = transaction.matchesAfter env db := by
  obtain ⟨_, _, written⟩ := run_writes ran
  exact congrArg Db.matches_ written

theorem run_withdrawals (ran : transaction.run env db = (.ok reply, db')) :
    db'.withdrawals = db.withdrawals ++ transaction.requests env := by
  obtain ⟨_, _, written⟩ := run_writes ran
  exact congrArg Db.withdrawals written

end Writes

end SkillArena
