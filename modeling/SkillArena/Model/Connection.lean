/-
**Sockets and payments, and the machine of all handlers.**

The `connection` and `disconnect` handlers of `socket/index.js` with the delayed forfeit check, the
payment handlers of `paymentService.js`, and `backend`, the machine whose pool runs every handler of
the program.
-/

import SkillArena.Model.Matchmaking

namespace SkillArena

open Async

/-! ### `socket/index.js` -/

/-- The `connection` handler: the listeners are registered after the presence key is written. -/
def connection (userId : UserId) (socket : SocketId) : Promise Unit := do
  redisSet (.presence userId) socket 3600
  (Op.register userId socket).call

/-- The 15 seconds of `handleDisconnectForfeit`. -/
def forfeitDelayMs : ℕ := 15000

/-- The second deletion of the presence key, when it holds the socket that went away. -/
def dropOwnPresence (userId : UserId) (socket : SocketId) : Promise Unit := do
  let currentSocketId ← redisGet (.presence userId)
  if currentSocketId = some socket then redisDel (.presence userId) else return ()

/-- The forfeit check of a user in a match; it is not awaited. -/
def scheduleForfeit (userId : UserId) (position : ℕ) : Promise Unit := do
  match ← redisGet (.activeMatch userId) with
  | none => return ()
  | some activeMatchId =>
    let now ← Op.dateNow.call
    (Op.fork (.disconnectForfeit userId activeMatchId position (now + forfeitDelayMs))).call

/-- The queue keys of a user who goes away. -/
def clearQueueKeys (userId : UserId) : Promise Unit := do
  match ← redisGet (.queue userId) with
  | none => return ()
  | some queueFee =>
    (Op.zrem queueFee userId).call
    redisDel (.queue userId)
    redisDel (.category userId)

/-- **The `disconnect` handler.** -/
def disconnect (userId : UserId) (socket : SocketId) (position : ℕ) : Promise Unit := do
  redisDel (.presence userId)
  inMemory (.removeFromMemoryQueue userId)
  dropOwnPresence userId socket
  scheduleForfeit userId position
  clearQueueKeys userId

/-- **`handleDisconnectForfeit`.** -/
def handleDisconnectForfeit (disconnectedUserId : UserId) (matchId : MatchId) (dueAt : ℕ) :
    Promise Unit :=
  Task.attempt
    (do
      (Op.sleepUntil dueAt).call
      match ← redisGet (.presence disconnectedUserId) with
      | some _ => return ()
      | none =>
        match ← redisGet (.state matchId) with
        | none => return ()
        | some matchState =>
          if matchState.status ≠ .inProgress then return ()
          else
            let winnerId := if matchState.playerAId = disconnectedUserId then matchState.playerBId
              else matchState.playerAId
            emit (.matchRoom matchId)
              (.forfeit matchId disconnectedUserId winnerId "opponent_disconnected")
            resolveMatch matchId winnerId disconnectedUserId .forfeit)
    fun _ => pure ()

/-! ### `paymentService.js` -/

/-- The pattern of the already-credited checks. -/
def containing (paymentId : Text) : Text := '%' :: (paymentId ++ ['%'])

/-- **`verifyAndCreditWallet`**: the new balance and the credited amount. -/
def verifyAndCreditWallet (env : Env) (userId : UserId) (orderId paymentId signature : Text) :
    Promise (ℚ × ℚ) := do
  let expectedSignature := env.hmacSha256 env.razorpayKeySecret (orderId ++ ['|'] ++ paymentId)
  if expectedSignature ≠ signature then
    Task.throw (.thrown 400 "Invalid payment signature")
  else
    let orderAmount ← (Op.fetchOrder orderId).call
    let amountInRupees := orderAmount / 100
    let existing ← poolQuery (.depositsLike (containing paymentId))
    if 0 < existing then
      Task.throw (.thrown 409 "Payment already processed")
    else
      let balance ← transact (.creditVerified userId orderId paymentId amountInRupees)
      return (balance, amountInRupees)

/-- `POST /payments/verify`. -/
def verifyPayment (env : Env) (userId : UserId) (orderId paymentId signature : Text) : Promise Unit := do
  if orderId = [] ∨ paymentId = [] ∨ signature = [] then
    Task.throw (.thrown 400 "Missing payment details")
  else
    let _ ← verifyAndCreditWallet env userId orderId paymentId signature
    return ()

/-- **`handleWebhook`.** -/
def handleWebhook (env : Env) (rawBody signature : Text) : Promise Unit := do
  let expectedSignature := env.hmacSha256 env.razorpayWebhookSecret rawBody
  if expectedSignature ≠ signature then
    Task.throw (.thrown 400 "Invalid webhook signature")
  else
    match env.parseWebhook rawBody with
    | .error err => Task.throw err
    | .ok event =>
      if event.isPaymentCaptured then
        match event.userId with
        | none => return ()
        | some userId =>
          let existing ← poolQuery (.transactionsLike (containing event.paymentId))
          if 0 < existing then return ()
          else
            let amountInRupees := event.amount / 100
            transact (.creditWebhook userId event.paymentId amountInRupees)
      else return ()

/-! ### The machine -/

/-- The program a handler runs. -/
def Handler.task (env : Env) : Handler → Promise Unit
  | matchJoin user matchId => SkillArena.matchJoin user matchId
  | timerRequest user matchId => SkillArena.timerRequest user matchId
  | codeRun user matchId language code => SkillArena.codeRun user matchId language code
  | codeSubmit user matchId language code => SkillArena.codeSubmit user matchId language code
  | forfeitRequest user matchId reason => SkillArena.forfeitRequest user matchId reason
  | matchLeave user matchId => SkillArena.matchLeave user matchId
  | timerExpiry matchId dueAt => handleTimerExpiry matchId dueAt
  | connection user socket => SkillArena.connection user socket
  | dropped _ _ => pure ()
  | disconnect user socket position => SkillArena.disconnect user socket position
  | disconnectForfeit user matchId _ dueAt => handleDisconnectForfeit user matchId dueAt
  | queueJoin user username fee category => SkillArena.queueJoin env user username fee category
  | queueLeave user => SkillArena.queueLeave user
  | worker fee => SkillArena.worker env fee
  | verifyPayment user orderId paymentId signature =>
    SkillArena.verifyPayment env user orderId paymentId signature
  | webhook body signature => handleWebhook env body signature

/-- **The backend**: every handler of the program over one world. -/
def backend (env : Env) : Machine signature World Handler Choice Outside where
  perform choice op world := Op.perform env choice op world
  forks := Op.forks
  arrive := Handler.arrive
  program handler := (handler.task env).run
  outside act world := act.run env world

/-- A configuration of the backend. -/
abbrev BackendConfig := Config signature World Handler

/-- A move of the backend. -/
abbrev BackendMove := Move Handler Choice Outside

end SkillArena
