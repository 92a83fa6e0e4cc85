/-
**Razorpay orders.**

`createOrder` of `paymentService.js` with `POST /payments/create-order`, and what Razorpay keeps of it: each order
has the amount and the notes it was created with, and each payment pays one order. What the crediting paths are told
about a payment, a Razorpay that is honest answers from these (`Razorpay.honest`). The `receipt` of an order is not
read again and is left out.
-/

import SkillArena.Model.Connection
import SkillArena.Model.Routes

namespace SkillArena

open Async

namespace JsFloat

/-- `x * 100`. -/
def times100 : JsFloat → JsFloat
  | finite value => finite (value * 100)
  | other => other

/-- `Math.round(x)`. -/
def round : JsFloat → JsFloat
  | finite value => finite ⌊value + 1 / 2⌋
  | other => other

end JsFloat

/-! ### Creating orders -/

/-- What is sent to `razorpay.orders.create`, with the user in its notes. -/
structure OrderRequest where
  amount : JsFloat
  currency : String
  userId : UserId
  platform : String
  deriving DecidableEq

/-- **`createOrder`**: the order it asks for. -/
def createOrder (userId : UserId) (amount : JsFloat) : Except Err OrderRequest := do
  if amount.lt 10 then throw (.thrown 400 "Minimum deposit is ₹10")
  else if amount.gt 10000 then throw (.thrown 400 "Maximum deposit is ₹10,000")
  else
    let amountInPaise := amount.times100.round
    return { amount := amountInPaise, currency := "INR", userId, platform := "SkillArena" }

/-- An order at Razorpay. -/
structure Order where
  amount : ℤ
  userId : UserId
  deriving DecidableEq

/-- The order Razorpay makes of a request; it takes a whole number of paise only. -/
def OrderRequest.accepted (request : OrderRequest) : Option Order :=
  match request.amount with
  | .finite amount => if amount.den = 1 then some ⟨amount.num, request.userId⟩ else none
  | _ => none

/-- What `POST /payments/create-order` sends. -/
structure OrderReply where
  orderId : Text
  amount : ℤ
  currency : String
  deriving DecidableEq

/-- **`POST /payments/create-order`**, with the identifier and what Razorpay rejects the call with. -/
def createOrderRoute (userId : UserId) (amount : AmountField) (rejected : Option Err) (orderId : Text) :
    Response OrderReply :=
  .catching do
    if !amount.truthy || amount.number = .nan || !amount.number.gt 0 then
      return .error "Valid amount required" 400
    else
      let request ← createOrder userId amount.parsed
      let order ← answered rejected request.accepted
      match order with
      | some order => return .success ⟨orderId, order.amount, request.currency⟩
      | none => throw .invalidInput

/-! ### Orders and payments -/

/-- The payment a transaction credits, with the user and the amount. -/
def Transaction.creditOf : Transaction → Option (Text × UserId × ℚ)
  | creditVerified userId _ paymentId amount => some (paymentId, userId, amount)
  | creditWebhook userId paymentId amount => some (paymentId, userId, amount)
  | _ => none

/-- **Razorpay**: for whom and for what amount `createOrder` was called to create an order, and the order a payment
pays. -/
structure Razorpay where
  created : Text → Option (UserId × JsFloat)
  pays : Text → Option Text

namespace Razorpay

variable (razorpay : Razorpay)

/-- An order, as `createOrder` requested it. -/
def order (orderId : Text) : Option Order :=
  (razorpay.created orderId).bind fun (userId, amount) =>
    match createOrder userId amount with
    | .ok request => request.accepted
    | .error _ => none

/-- The order of a payment. -/
def orderOf (paymentId : Text) : Option Order := (razorpay.pays paymentId).bind razorpay.order

/-- **Whom a payment is due to**, the user for whom its order was created, and what in rupees. -/
def due (paymentId : Text) : Option (UserId × ℚ) := do
  let orderId ← razorpay.pays paymentId
  let (userId, _) ← razorpay.created orderId
  let order ← razorpay.order orderId
  return (userId, order.amount / 100)

/-- What Razorpay says of a captured payment: its order has been paid in full, with the notes of the order. -/
def reports (event : WebhookEvent) : Bool :=
  (razorpay.orderOf event.paymentId).any fun order =>
    event.userId = some order.userId && event.amount = order.amount

/-- **Razorpay is honest**: a payment is signed with its order only, a webhook reports a payment, and `orders.fetch`
returns the order; what happens beside the handlers credits no payment. -/
def honest (env : Env) (c : BackendConfig) : BackendMove → Bool
  | .start (.verifyPayment _ orderId paymentId signature) =>
    env.hmacSha256 env.razorpayKeySecret (orderId ++ ['|'] ++ paymentId) ≠ signature ||
      (razorpay.pays paymentId = some orderId && (razorpay.order orderId).isSome)
  | .start (.webhook body signature) =>
    env.hmacSha256 env.razorpayWebhookSecret body ≠ signature ||
      match env.parseWebhook body with
      | .ok event => !event.isPaymentCaptured || razorpay.reports event
      | .error _ => true
  | .step index (.order amount) =>
    match c.threads[index]?.bind (·.2.head) with
    | some (.fetchOrder orderId) => (razorpay.order orderId).all fun order => amount = order.amount
    | _ => true
  | .outside (.act _ (.transact transaction)) => transaction.creditOf.isNone
  | _ => true

end Razorpay

end SkillArena
