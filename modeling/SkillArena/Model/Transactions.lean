/-
**The transactions on the wallets.**

`walletService.js` (`deposit`, `lockFundsForMatch`, `releaseEscrowToWinner`, `refundBothPlayers`), the
crediting transactions of `paymentService.js`, the match creation of `matchmakingHandler.js` and the
withdrawal of `routes/wallet.js`, statement by statement. `Transaction` names them with their
arguments; `Transaction.run` is its outcome and the database after it.
-/

import SkillArena.Model.Database

namespace SkillArena

open Async
open Sql (Numeric)

/-- **The environment of the process**: the column rounding, `PLATFORM_FEE_PERCENT`, the Razorpay
secrets, `crypto.createHmac('sha256', secret)` and `JSON.parse` of a webhook body. -/
structure Env where
  numeric : Numeric
  platformFeePercent : ℚ := 10
  razorpayKeySecret : Text := []
  razorpayWebhookSecret : Text := []
  hmacSha256 : Text → Text → Text
  parseWebhook : Text → Except Err WebhookEvent

/-- An environment with the columns of `schema.sql`, `NUMERIC(12, 2)`, and the default fee. -/
def Env.standard (hmacSha256 : Text → Text → Text) (parseWebhook : Text → Except Err WebhookEvent) : Env :=
  { numeric := .scale 2, hmacSha256, parseWebhook }

/-! ### `walletService.js` -/

def deposit (userId : UserId) (amount : ℚ) : SqlTask ℚ := do
  if amount ≤ 0 then
    Task.throw (.thrown 400 "Amount must be positive")
  else
    match ← (Statement.selectWallet userId).query with
    | none => Task.throw (.thrown 404 "Wallet not found")
    | some wallet =>
      let newBalance := wallet.balance + amount
      (Statement.updateWallet userId { balance := some newBalance, addDeposited := some amount }).query
      (Statement.insertTransaction userId .deposit amount (.value newBalance) none .walletTopUp).query
      return newBalance

/-- Move the entry fee of one player into escrow. -/
def lockFundsForMatch (userId : UserId) (amount : ℚ) (matchId : MatchId) : SqlTask Unit := do
  match ← (Statement.selectWallet userId).query with
  | none => Task.throw (.thrown 404 "Wallet not found")
  | some wallet =>
    if wallet.balance < amount then
      Task.throw (.thrown 400 "Insufficient balance")
    else
      let newBalance := wallet.balance - amount
      let newLocked := wallet.lockedBalance + amount
      (Statement.updateWallet userId { balance := some newBalance, lockedBalance := some newLocked }).query
      (Statement.insertTransaction userId .matchEntryDebit amount (.value newBalance) (some matchId)
        .entryFeeLocked).query

/-- The platform's share of a match with the given entry fee. -/
def platformFeeOf (env : Env) (entryFee : ℚ) : ℚ := entryFee * 2 * (env.platformFeePercent / 100)

/-- The winner's share. -/
def netPrizeOf (env : Env) (entryFee : ℚ) : ℚ := entryFee * 2 - platformFeeOf env entryFee

/-- **The payout**: both escrows are consumed, the loser's first, and the winner is credited. A
missing wallet row makes `rows[0].locked_balance` throw. -/
def releaseEscrowToWinner (env : Env) (winnerId loserId : UserId) (entryFee : ℚ) (matchId : MatchId) :
    SqlTask (ℚ × ℚ) := do
  let platformFee := platformFeeOf env entryFee
  let netPrize := netPrizeOf env entryFee
  match ← (Statement.selectWallet loserId).query with
  | none => Task.throw .typeError
  | some loserWallet =>
    let newLoserLocked := loserWallet.lockedBalance - entryFee
    (Statement.updateWallet loserId { lockedBalance := some newLoserLocked }).query
    match ← (Statement.selectWallet winnerId).query with
    | none => Task.throw .typeError
    | some winnerWallet =>
      let newWinnerLocked := winnerWallet.lockedBalance - entryFee
      let newWinnerBalance := winnerWallet.balance + netPrize
      (Statement.updateWallet winnerId
        { balance := some newWinnerBalance, lockedBalance := some newWinnerLocked,
          addDeposited := some netPrize }).query
      (Statement.insertTransaction winnerId .matchWinCredit netPrize (.value newWinnerBalance)
        (some matchId) .matchWinnings).query
      (Statement.insertTransaction loserId .matchLossDebit entryFee .currentBalance (some matchId)
        .matchLost).query
      return (netPrize, platformFee)

/-- The loop of `refundBothPlayers`. -/
def refundPlayers (entryFee : ℚ) (matchId : MatchId) : List UserId → SqlTask Unit
  | [] => return ()
  | userId :: rest => do
    match ← (Statement.selectWallet userId).query with
    | none => Task.throw .typeError
    | some wallet =>
      let newBalance := wallet.balance + entryFee
      let newLocked := wallet.lockedBalance - entryFee
      (Statement.updateWallet userId { balance := some newBalance, lockedBalance := some newLocked }).query
      (Statement.insertTransaction userId .refund entryFee (.value newBalance) (some matchId)
        .matchCancelled).query
      refundPlayers entryFee matchId rest

def refundBothPlayers (playerAId playerBId : UserId) (entryFee : ℚ) (matchId : MatchId) : SqlTask Unit :=
  refundPlayers entryFee matchId [playerAId, playerBId]

/-! ### `paymentService.js` -/

/-- The crediting transaction of `verifyAndCreditWallet`. -/
def creditVerified (userId : UserId) (orderId paymentId : Text) (amountInRupees : ℚ) : SqlTask ℚ := do
  match ← (Statement.selectWallet userId).query with
  | none => Task.throw (.thrown 404 "Wallet not found")
  | some wallet =>
    let newBalance := wallet.balance + amountInRupees
    (Statement.updateWallet userId
      { balance := some newBalance, addDeposited := some amountInRupees }).query
    (Statement.insertTransaction userId .deposit amountInRupees (.value newBalance) none
      (.razorpayDeposit orderId paymentId)).query
    return newBalance

/-- The crediting transaction of `handleWebhook`; without a wallet it commits nothing. -/
def creditWebhook (userId : UserId) (paymentId : Text) (amountInRupees : ℚ) : SqlTask Unit := do
  match ← (Statement.selectWallet userId).query with
  | none => return ()
  | some wallet =>
    let newBalance := wallet.balance + amountInRupees
    (Statement.updateWallet userId
      { balance := some newBalance, addDeposited := some amountInRupees }).query
    (Statement.insertTransaction userId .deposit amountInRupees (.value newBalance) none
      (.webhookDeposit paymentId)).query

/-! ### `tryCreateMatch` and `POST /withdraw` -/

/-- The creating transaction of `tryCreateMatch`. -/
def createMatch (env : Env) (matchId : MatchId) (playerA playerB : UserId) (problemId : ProblemId)
    (fee : ℚ) : SqlTask Unit := do
  (Statement.insertMatch matchId
    { playerAId := playerA, playerBId := playerB, problemId := some problemId, entryFee := fee,
      prizePool := fee * 2 * (1 - env.platformFeePercent / 100),
      platformFee := fee * 2 * (env.platformFeePercent / 100), status := .inProgress }).query
  lockFundsForMatch playerA fee matchId
  lockFundsForMatch playerB fee matchId

/-- `x.toFixed(2)` of a number that is not negative. -/
def toFixed2 (x : ℚ) : String :=
  let cents := Sql.roundHalfAway (x * 100)
  toString (cents / 100) ++ "." ++ (if cents % 100 < 10 then "0" else "") ++ toString (cents % 100)

/-- The transaction of `POST /withdraw`: the id of the withdrawal and the new balance. -/
def withdraw (userId : UserId) (withdrawAmount : ℚ) (upiId : Text) : SqlTask (ℕ × ℚ) := do
  match ← (Statement.selectWallet userId).query with
  | none => Task.throw (.thrown 404 "Wallet not found")
  | some wallet =>
    let currentBalance := wallet.balance
    if currentBalance < withdrawAmount then
      Task.throw (.thrown 400 ("Insufficient balance. Available: ₹" ++ toFixed2 currentBalance))
    else
      let newBalance := currentBalance - withdrawAmount
      (Statement.updateWallet userId { balance := some newBalance }).query
      let withdrawalId ← (Statement.insertWithdrawal userId withdrawAmount upiId).query
      (Statement.insertTransaction userId .withdrawal withdrawAmount (.value newBalance) none
        (.withdrawalTo upiId withdrawalId)).query
      return (withdrawalId, newBalance)

/-! ### All transactions -/

/-- **The transactions of the program**, with their arguments. -/
inductive Transaction
  | deposit (userId : UserId) (amount : ℚ)
  | createMatch (matchId : MatchId) (playerA playerB : UserId) (problemId : ProblemId) (fee : ℚ)
  | releaseEscrowToWinner (winnerId loserId : UserId) (entryFee : ℚ) (matchId : MatchId)
  | refundBothPlayers (playerAId playerBId : UserId) (entryFee : ℚ) (matchId : MatchId)
  | creditVerified (userId : UserId) (orderId paymentId : Text) (amountInRupees : ℚ)
  | creditWebhook (userId : UserId) (paymentId : Text) (amountInRupees : ℚ)
  | withdraw (userId : UserId) (amount : ℚ) (upiId : Text)
  deriving DecidableEq

namespace Transaction

@[reducible] def Reply : Transaction → Type
  | deposit .. => ℚ
  | releaseEscrowToWinner .. => ℚ × ℚ
  | creditVerified .. => ℚ
  | withdraw .. => ℕ × ℚ
  | _ => Unit

/-- The statements of a transaction. -/
def body (env : Env) : (transaction : Transaction) → SqlTask transaction.Reply
  | deposit userId amount => SkillArena.deposit userId amount
  | createMatch matchId playerA playerB problemId fee =>
    SkillArena.createMatch env matchId playerA playerB problemId fee
  | releaseEscrowToWinner winnerId loserId entryFee matchId =>
    SkillArena.releaseEscrowToWinner env winnerId loserId entryFee matchId
  | refundBothPlayers playerAId playerBId entryFee matchId =>
    SkillArena.refundBothPlayers playerAId playerBId entryFee matchId
  | creditVerified userId orderId paymentId amount =>
    SkillArena.creditVerified userId orderId paymentId amount
  | creditWebhook userId paymentId amount => SkillArena.creditWebhook userId paymentId amount
  | withdraw userId amount upiId => SkillArena.withdraw userId amount upiId

/-- **One transaction, as one step**: its outcome and the database after it. -/
def run (env : Env) (transaction : Transaction) (db : Db) : Except Err transaction.Reply × Db :=
  withTransaction env.numeric (transaction.body env) db

end Transaction

end SkillArena
