/-
**`POST /wallet/withdraw`.**

The route of `routes/wallet.js`: the checks of the request in their order, the look for a pending withdrawal, the
transaction, and the look for whom to write to. Every statement sent to the pool and every transaction is one
operation, so that requests may overtake one another between any two of them; other transactions commit beside
them. The confirmation by mail, whose errors are caught, is left out.
-/

import SkillArena.Async.Pool
import SkillArena.Model.Routes
import SkillArena.Model.Transactions

namespace SkillArena

open Async

/-! ### The request -/

/-- `/[\w.\-_]/`. -/
def upiNameChar (c : Char) : Bool := c.isAlphanum || c = '_' || c = '.' || c = '-'

/-- `/^[\w.\-_]{3,}@[a-zA-Z]{3,}$/.test(text)`; neither side of the `@` may have another one. -/
def upiRegex (text : Text) : Bool :=
  match text.span (· ≠ '@') with
  | (name, '@' :: bank) => 3 ≤ name.length && name.all upiNameChar && 3 ≤ bank.length && bank.all Char.isAlpha
  | _ => false

structure WithdrawRequest where
  userId : UserId
  amount : AmountField
  upiId : JsVal
  deriving DecidableEq

/-- What the route sends of a withdrawal, always `PENDING`. -/
structure WithdrawReply where
  withdrawalId : ℕ
  amount : ℚ
  upiId : Text
  newBalance : ℚ
  deriving DecidableEq

/-! ### The route -/

/-- **What the route awaits.** -/
inductive WithdrawOp
  | pendingCheck (userId : UserId)
  | withdraw (userId : UserId) (amount : ℚ) (upiId : Text)
  | selectContact (userId : UserId)
  | respond (userId : UserId) (response : Response WithdrawReply)
  deriving DecidableEq

@[reducible] def WithdrawOp.Reply : WithdrawOp → Type
  | pendingCheck _ => ℕ
  | withdraw .. => ℕ × ℚ
  | selectContact _ => Option String
  | respond .. => Unit

abbrev withdrawSignature : Signature := ⟨WithdrawOp, fun op => Except Err op.Reply⟩

/-- `await` one of them. -/
def WithdrawOp.call (op : WithdrawOp) : Task withdrawSignature Err op.Reply :=
  ⟨.await (S := withdrawSignature) op .done⟩

/-- The route once the request is checked. -/
def requestWithdrawal (userId : UserId) (withdrawAmount : ℚ) (upiId : Text) :
    Task withdrawSignature Err (Response WithdrawReply) := do
  let pendingCheck ← (WithdrawOp.pendingCheck userId).call
  if 0 < pendingCheck then
    return .error "You already have a pending withdrawal. Wait for it to process." 400
  else
    let result ← (WithdrawOp.withdraw userId withdrawAmount upiId).call
    let _ ← (WithdrawOp.selectContact userId).call
    return .success ⟨result.1, withdrawAmount, upiId, result.2⟩

/-- The `try` block of the route. `upiId?.trim()` throws for a value that has no `trim`. -/
def withdrawBody (request : WithdrawRequest) : Task withdrawSignature Err (Response WithdrawReply) :=
  match request.upiId with
  | .undefined | .null => return .error "UPI ID is required" 400
  | .str upiId => do
    if trim upiId = [] then return .error "UPI ID is required" 400
    else if !request.amount.truthy || request.amount.parsed = .nan then return .error "Valid amount required" 400
    else if request.amount.parsed.lt 50 then return .error "Minimum withdrawal is ₹50" 400
    else if request.amount.parsed.gt 50000 then return .error "Maximum withdrawal is ₹50,000 per request" 400
    else if !upiRegex (trim upiId) then
      return .error "Invalid UPI ID format (example: yourname@upi)" 400
    else
      match request.amount.parsed with
      -- the others are turned away above
      | .finite withdrawAmount => requestWithdrawal request.userId withdrawAmount (trim upiId)
      | _ => return .error "Valid amount required" 400
  | _ => Task.throw .typeError

/-- **`POST /wallet/withdraw`.** -/
def withdrawRoute (request : WithdrawRequest) : Task withdrawSignature Err Unit := do
  let response ← Task.attempt (withdrawBody request) fun err => pure (.next err)
  (WithdrawOp.respond request.userId response).call

/-! ### Requests of all users -/

/-- The database, and what was answered. -/
structure WithdrawState where
  db : Db
  responses : List (UserId × Response WithdrawReply) := []

/-- The operation sends to the database, which can fail. -/
def WithdrawOp.fallible : WithdrawOp → Bool
  | respond .. => false
  | _ => true

/-- The effect of an operation. -/
def WithdrawOp.proceed (env : Env) : (op : WithdrawOp) → WithdrawState → Except Err op.Reply × WithdrawState
  | pendingCheck userId, state =>
    match (Query.pendingWithdrawals userId).exec 0 state.db with
    | .ok (rows, db) => (.ok rows, { state with db })
    | .error err => (.error err, state)
  | withdraw userId amount upiId, state =>
    let outcome := (Transaction.withdraw userId amount upiId).run env state.db
    (outcome.1, { state with db := outcome.2 })
  | selectContact userId, state => (.ok ((state.db.users userId).map (·.username)), state)
  | respond userId response, state => (.ok (), { state with responses := state.responses ++ [(userId, response)] })

/-- One operation; a failed one has no effect. -/
def WithdrawOp.perform (env : Env) (fails : Bool) (op : WithdrawOp) (state : WithdrawState) :
    Option (Except Err op.Reply × WithdrawState) :=
  if fails then
    if op.fallible then some (.error .unavailable, state) else none
  else some (op.proceed env state)

/-- A transaction that is no withdrawal. -/
def otherTransaction (env : Env) (transaction : Transaction) (state : WithdrawState) : Option WithdrawState :=
  match transaction with
  | .withdraw .. => none
  | other => some { state with db := (other.run env state.db).2 }

/-- **Withdrawals**: requests arrive at any time and are served in turns, beside all other transactions. -/
def withdrawServer (env : Env) : Machine withdrawSignature WithdrawState WithdrawRequest Bool Transaction where
  perform fails op state := WithdrawOp.perform env fails op state
  forks _ := []
  arrive _ state := some state
  program request := (withdrawRoute request).run
  outside := otherTransaction env

end SkillArena
