/-
**The database: tables, constraints, statements.**

The tables of `schema.sql` with the columns the code reads or writes, and the columns `hearts`,
`hearts_reset_at`, `consecutive_losses`, `is_premium` and `category` that its queries name. A wallet row
carries the two `CHECK` constraints, so an update that would break one has no row to store and fails.

* `Statement` — what the transactions run on their client, one constructor a statement.
* `Query` — what is sent to the pool outside a transaction.
-/

import SkillArena.Async.Prog
import SkillArena.Sql.Like
import SkillArena.Sql.Numeric
import SkillArena.Model.Types

namespace SkillArena

open Sql (Numeric like)

/-! ### Rows -/

/-- **A row of `wallets`**, with its constraints `positive_balance` and `positive_locked`. -/
@[ext] structure Wallet where
  balance : ℚ
  lockedBalance : ℚ
  totalDeposited : ℚ := 0
  totalWithdrawn : ℚ := 0
  positive_balance : 0 ≤ balance
  positive_locked : 0 ≤ lockedBalance

/-- The columns an `UPDATE wallets SET …` assigns, and what it adds to `total_deposited`. -/
structure WalletSet where
  balance : Option ℚ := none
  lockedBalance : Option ℚ := none
  addDeposited : Option ℚ := none
  deriving DecidableEq

/-- The row an update stores, or the constraint it breaks. -/
def Wallet.update (N : Numeric) (wallet : Wallet) (set : WalletSet) : Except Err Wallet :=
  let balance := (set.balance.map N.store).getD wallet.balance
  let locked := (set.lockedBalance.map N.store).getD wallet.lockedBalance
  if balanceOk : 0 ≤ balance then
    if lockedOk : 0 ≤ locked then
      .ok ⟨balance, locked,
        (set.addDeposited.map fun amount => N.store (wallet.totalDeposited + amount)).getD
          wallet.totalDeposited,
        wallet.totalWithdrawn, balanceOk, lockedOk⟩
    else .error (.check "positive_locked")
  else .error (.check "positive_balance")

inductive TxType
  | deposit
  | matchEntryDebit
  | matchWinCredit
  | matchLossDebit
  | refund
  | withdrawal
  deriving DecidableEq, Repr

/-- The descriptions the code writes to `transactions`. -/
inductive Description
  | walletTopUp
  | entryFeeLocked
  | matchWinnings
  | matchLost
  | matchCancelled
  | razorpayDeposit (order payment : Text)
  | webhookDeposit (payment : Text)
  | withdrawalTo (upiId : Text) (ref : ℕ)
  deriving DecidableEq

/-- The text of a description, as stored. -/
def Description.text : Description → Text
  | walletTopUp => "Wallet top-up".toList
  | entryFeeLocked => "Entry fee locked for match".toList
  | matchWinnings => "Match winnings".toList
  | matchLost => "Match lost".toList
  | matchCancelled => "Match cancelled - refund".toList
  | razorpayDeposit order payment =>
    "Razorpay deposit | order:".toList ++ order ++ " | payment:".toList ++ payment
  | webhookDeposit payment => "Webhook deposit | payment:".toList ++ payment
  | withdrawalTo upiId ref =>
    "Withdrawal to UPI: ".toList ++ upiId ++ " | ref: ".toList ++ (toString ref).toList

/-- **A row of `transactions`**, the ledger. -/
structure LedgerRow where
  userId : UserId
  type : TxType
  amount : ℚ
  balanceAfter : ℚ
  referenceId : Option MatchId := none
  description : Description
  deriving DecidableEq

/-- **A row of `matches`.** -/
structure MatchRow where
  playerAId : UserId
  playerBId : UserId
  problemId : Option ProblemId
  entryFee : ℚ
  prizePool : ℚ
  platformFee : ℚ
  status : MatchStatus
  winnerId : Option UserId := none
  playerAScore : JsNum := .int 0
  playerBScore : JsNum := .int 0
  playerATimeMs : Option ℤ := none
  playerBTimeMs : Option ℤ := none
  deriving DecidableEq

/-- A row of `users`. -/
structure UserRow where
  username : String := ""
  skillRating : ℤ := 1000
  matchesPlayed : ℕ := 0
  matchesWon : ℕ := 0
  consecutiveLosses : Option ℕ := none
  hearts : Option ℤ := none
  heartsResetAt : Option ℕ := none
  isPremium : Bool := false
  deriving DecidableEq

/-- A row of `submissions`; the status is `none` while it is `PENDING`. -/
structure Submission where
  language : Text
  code : Text
  status : Option EvalStatus := none
  testCasesPassed : ℕ := 0
  testCasesTotal : ℕ := 0
  executionTimeMs : Option ℕ := none
  deriving DecidableEq

/-- A row of `withdrawals`; every row the code writes is `PENDING`. -/
structure Withdrawal where
  userId : UserId
  amount : ℚ
  upiId : Text
  pending : Bool := true
  deriving DecidableEq

/-- **The database.** The ledger and the withdrawals are in the order they were committed. -/
structure Db where
  wallets : UserId → Option Wallet := fun _ => none
  ledger : List LedgerRow := []
  matches_ : MatchId → Option MatchRow := fun _ => none
  users : UserId → Option UserRow := fun _ => none
  submissions : MatchId → UserId → Option Submission := fun _ _ => none
  problems : List Problem := []
  withdrawals : List Withdrawal := []

namespace Db

/-- Store a wallet row. -/
def setWallet (db : Db) (user : UserId) (wallet : Wallet) : Db :=
  { db with wallets := Function.update db.wallets user (some wallet) }

/-- Append a ledger row. -/
def addRow (db : Db) (row : LedgerRow) : Db := { db with ledger := db.ledger ++ [row] }

/-- `UPDATE matches SET … WHERE id`: nothing happens when there is no such row. -/
def updateMatch (db : Db) (matchId : MatchId) (change : MatchRow → MatchRow) : Db :=
  { db with matches_ := Function.update db.matches_ matchId ((db.matches_ matchId).map change) }

/-- Store what a match's submission row of a user has become. -/
def setSubmission (db : Db) (matchId : MatchId) (user : UserId) (row : Option Submission) : Db :=
  let ofMatch := Function.update (db.submissions matchId) user row
  { db with submissions := Function.update db.submissions matchId ofMatch }

/-- `UPDATE users SET … WHERE id`. -/
def updateUser (db : Db) (user : UserId) (change : UserRow → UserRow) : Db :=
  { db with users := Function.update db.users user ((db.users user).map change) }

end Db

/-! ### Statements of the transactions -/

/-- What `balance_after` is given as. -/
inductive BalanceAfter
  | value (amount : ℚ)
  | currentBalance
  deriving DecidableEq

/-- **A statement of a transaction.** -/
inductive Statement
  | selectWallet (user : UserId)
  | updateWallet (user : UserId) (set : WalletSet)
  | insertTransaction (user : UserId) (type : TxType) (amount : ℚ) (balanceAfter : BalanceAfter)
      (reference : Option MatchId) (description : Description)
  | insertMatch (matchId : MatchId) (row : MatchRow)
  | insertWithdrawal (user : UserId) (amount : ℚ) (upiId : Text)
  deriving DecidableEq

/-- What a statement returns: the locked row of a `SELECT … FOR UPDATE`, the id of a withdrawal. -/
@[reducible] def Statement.Reply : Statement → Type
  | selectWallet _ => Option Wallet
  | insertWithdrawal .. => ℕ
  | _ => Unit

/-- The effect of a statement, or the error that aborts its transaction. -/
def Statement.exec (N : Numeric) : (statement : Statement) → Db → Except Err (statement.Reply × Db)
  | selectWallet user, db => .ok (db.wallets user, db)
  | updateWallet user set, db =>
    match db.wallets user with
    | none => .ok ((), db)
    | some wallet =>
      match wallet.update N set with
      | .ok wallet' => .ok ((), db.setWallet user wallet')
      | .error err => .error err
  | insertTransaction user type amount (.value balance) reference description, db =>
    .ok ((), db.addRow ⟨user, type, N.store amount, N.store balance, reference, description⟩)
  | insertTransaction user type amount .currentBalance reference description, db =>
    match db.wallets user with
    | none => .error .notNull
    | some wallet =>
      .ok ((), db.addRow ⟨user, type, N.store amount, wallet.balance, reference, description⟩)
  | insertMatch matchId row, db =>
    if (db.matches_ matchId).isSome then .error .duplicateKey
    else
      let stored := { row with entryFee := N.store row.entryFee, prizePool := N.store row.prizePool,
                               platformFee := N.store row.platformFee }
      .ok ((), { db with matches_ := Function.update db.matches_ matchId (some stored) })
  | insertWithdrawal user amount upiId, db =>
    .ok (db.withdrawals.length,
      { db with withdrawals := db.withdrawals ++ [⟨user, N.store amount, upiId, true⟩] })

/-- The statements as operations that may reject. -/
abbrev sqlSignature : Async.Signature := ⟨Statement, fun statement => Except Err statement.Reply⟩

/-- The body of a transaction. -/
abbrev SqlTask := Async.Task sqlSignature Err

namespace Statement

/-- `await client.query(…)`. -/
def query (statement : Statement) : SqlTask statement.Reply :=
  ⟨.await (S := sqlSignature) statement .done⟩

/-- A statement of a transaction run on its own copy of the database. -/
def perform (N : Numeric) (statement : sqlSignature.Op) (db : Db) : sqlSignature.Reply statement × Db :=
  match exec N statement db with
  | .ok (reply, db') => (.ok reply, db')
  | .error err => (.error err, db)

end Statement

/-- **`withTransaction`**: the body runs on a copy that is kept exactly when the body returns. -/
def withTransaction {α : Type} (N : Numeric) (body : SqlTask α) (db : Db) : Except Err α × Db :=
  match body.interpret (Statement.perform N) db with
  | (.ok value, db') => (.ok value, db')
  | (.error err, _) => (.error err, db)

/-! ### Statements sent to the pool -/

/-- `SELECT consecutive_losses, hearts, is_premium`. -/
structure HeartsView where
  consecutiveLosses : Option ℕ
  hearts : Option ℤ
  heartsResetAt : Option ℕ
  isPremium : Bool
  deriving DecidableEq

/-- **A statement outside a transaction**, each committed on its own. -/
inductive Query
  | insertSubmission (matchId : MatchId) (user : UserId) (language code : JsVal)
  | problemIdOf (matchId : MatchId)
  | testCasesOfMatch (matchId : MatchId)
  | cancelMatch (matchId : MatchId)
  | recordVerdict (matchId : MatchId) (user : UserId) (status : EvalStatus) (result : EvalResult)
  | completeMatch (matchId : MatchId) (winner : UserId) (scoreA scoreB timeA timeB : JsNum)
  | selectHearts (user : UserId)
  | loseHeart (user : UserId) (consecutiveLosses : ℕ) (hearts : ℤ) (resetAt : Option ℕ)
  | regainHeart (user : UserId)
  | restoreHearts (user : UserId)
  | countWin (user : UserId)
  | countLoss (user : UserId)
  | selectBalance (user : UserId)
  | pickProblem (difficulty : String) (category : Option String)
  | depositsLike (pattern : Text)
  | transactionsLike (pattern : Text)
  | pendingWithdrawals (user : UserId)
  deriving DecidableEq

/-- The rows a query returns, as the code uses them. -/
@[reducible] def Query.Reply : Query → Type
  | problemIdOf _ => Option ProblemId
  | testCasesOfMatch _ => Option (List TestCase)
  | selectHearts _ => Option HeartsView
  | selectBalance _ => Option ℚ
  | pickProblem .. => Option Problem
  | depositsLike _ => ℕ
  | transactionsLike _ => ℕ
  | pendingWithdrawals _ => ℕ
  | _ => Unit

/-- A payload field as a text parameter of a query; `undefined` and `null` become `NULL`. -/
def JsVal.toSql : JsVal → Option Text
  | undefined => none
  | null => none
  | bool value => some (toString value).toList
  | num value => some (toString value).toList
  | str value => some value
  | object => some "\x7b\x7d".toList

/-- The problems a `SELECT … WHERE difficulty … AND is_active` ranges over. -/
def Db.candidates (db : Db) (difficulty : String) (category : Option String) : List Problem :=
  db.problems.filter fun problem => problem.isActive && problem.difficulty == difficulty &&
    category.all (problem.category == ·)

/-- **The effect of a query.** `pick` decides `ORDER BY RANDOM() LIMIT 1`. -/
def Query.exec (pick : ℕ) : (query : Query) → Db → Except Err (query.Reply × Db)
  | insertSubmission matchId user language code, db =>
    match language.toSql, code.toSql with
    | some language, some code =>
      if 30 < language.length then .error .invalidInput
      else if (db.submissions matchId user).isSome then .ok ((), db)
      else if (db.matches_ matchId).isNone then .error .foreignKey
      else .ok ((), db.setSubmission matchId user (some { language, code }))
    | _, _ => .error .notNull
  | problemIdOf matchId, db => .ok ((db.matches_ matchId).bind (·.problemId), db)
  | testCasesOfMatch matchId, db =>
    .ok (((db.matches_ matchId).bind (·.problemId)).bind fun id =>
      (db.problems.find? (·.id == id)).map (·.testCases), db)
  | cancelMatch matchId, db => .ok ((), db.updateMatch matchId fun row => { row with status := .cancelled })
  | recordVerdict matchId user status result, db =>
    .ok ((), db.setSubmission matchId user ((db.submissions matchId user).map fun row =>
      { row with status := some status, testCasesPassed := result.passed,
                 testCasesTotal := result.total, executionTimeMs := result.avgTimeMs }))
  | completeMatch matchId winner scoreA scoreB timeA timeB, db =>
    match timeA, timeB with
    | .int timeA, .int timeB => .ok ((), db.updateMatch matchId fun row =>
        { row with status := .completed, winnerId := some winner, playerAScore := scoreA,
                   playerBScore := scoreB, playerATimeMs := some timeA, playerBTimeMs := some timeB })
    | _, _ => .error .invalidInput
  | selectHearts user, db =>
    .ok ((db.users user).map fun row =>
      ⟨row.consecutiveLosses, row.hearts, row.heartsResetAt, row.isPremium⟩, db)
  | loseHeart user losses hearts resetAt, db => .ok ((), db.updateUser user fun row =>
      { row with consecutiveLosses := some losses, hearts := some hearts,
                 heartsResetAt := if resetAt.isSome then resetAt else row.heartsResetAt })
  | regainHeart user, db => .ok ((), db.updateUser user fun row =>
      { row with consecutiveLosses := some 0, hearts := some (min (row.hearts.getD 3 + 1) 3),
                 heartsResetAt := none })
  | restoreHearts user, db => .ok ((), db.updateUser user fun row =>
      { row with hearts := some 3, heartsResetAt := none, consecutiveLosses := some 0 })
  | countWin user, db => .ok ((), db.updateUser user fun row =>
      { row with matchesPlayed := row.matchesPlayed + 1, matchesWon := row.matchesWon + 1,
                 skillRating := row.skillRating + 25 })
  | countLoss user, db => .ok ((), db.updateUser user fun row =>
      { row with matchesPlayed := row.matchesPlayed + 1, skillRating := max (row.skillRating - 15) 0 })
  | selectBalance user, db => .ok ((db.wallets user).map (·.balance), db)
  | pickProblem difficulty category, db =>
    let candidates := db.candidates difficulty category
    .ok (candidates[pick % candidates.length]?, db)
  | depositsLike pattern, db =>
    .ok ((db.ledger.filter fun row => row.type == .deposit && like pattern row.description.text).length, db)
  | transactionsLike pattern, db =>
    .ok ((db.ledger.filter fun row => like pattern row.description.text).length, db)
  | pendingWithdrawals user, db =>
    .ok ((db.withdrawals.filter fun row => row.userId == user && row.pending).length, db)

end SkillArena
