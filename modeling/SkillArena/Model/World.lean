/-
**The world the handlers run in.**

Redis with its keys and expiry times, the database, the in-memory queues, the sockets and the clock;
the operations a handler awaits, and what each does to the world. Every Redis command, every SQL
statement outside a transaction and every transaction is one operation; a synchronous block on the
in-memory queues is one operation too, since nothing can run in the middle of it.

`Choice` decides what the world does not: whether a command fails, what the judge says, which problem
a random query returns, the next identifier, the amount of an order at Razorpay.
-/

import SkillArena.Async.Pool
import SkillArena.Store.Expiring
import SkillArena.Model.Transactions

namespace SkillArena

open Async Expiring

/-! ### Redis -/

/-- **The Redis keys** of the program. -/
inductive Key
  | state (matchId : MatchId)
  | resolved (matchId : MatchId)
  | startTs (matchId : MatchId)
  | endTs (matchId : MatchId)
  | submitted (matchId : MatchId) (user : UserId)
  | score (matchId : MatchId) (user : UserId)
  | time (matchId : MatchId) (user : UserId)
  | presence (user : UserId)
  | activeMatch (user : UserId)
  | queue (user : UserId)
  | username (user : UserId)
  | category (user : UserId)
  deriving DecidableEq, Repr

/-- What is stored under a key. -/
@[reducible] def Key.Val : Key → Type
  | state _ => MatchState
  | resolved _ => Unit
  | startTs _ => ℕ
  | endTs _ => ℕ
  | submitted .. => Unit
  | score .. => JsNum
  | time .. => JsNum
  | presence _ => SocketId
  | activeMatch _ => MatchId
  | queue _ => ℕ
  | username _ => String
  | category _ => String

/-! ### The in-memory queues -/

/-- An object pushed to a queue; `ticket` is its identity, given in the order of the pushes. -/
structure QueueEntry where
  userId : UserId
  username : String
  category : String
  ticket : ℕ
  deriving DecidableEq

def validFees : List ℕ := [10, 25, 50, 100, 200, 500]

/-- **The process memory**: arrays by reference, and which array each `memoryQueues[fee]` is. -/
structure Memory where
  arrays : ℕ → List QueueEntry := fun _ => []
  memoryQueues : ℕ → ℕ := fun fee => fee
  nextArray : ℕ := 501
  nextTicket : ℕ := 0

namespace Memory

/-- The live queue of a fee. -/
def live (memory : Memory) (fee : ℕ) : List QueueEntry := memory.arrays (memory.memoryQueues fee)

/-- Overwrite an array in place. -/
def setArray (memory : Memory) (ref : ℕ) (entries : List QueueEntry) : Memory :=
  { memory with arrays := Function.update memory.arrays ref entries }

/-- `memoryQueues[fee] = memoryQueues[fee].filter(p => p.userId !== userId)`, a new array. -/
def dropUser (memory : Memory) (fee : ℕ) (userId : UserId) : Memory :=
  { memory with
    arrays := Function.update memory.arrays memory.nextArray
      ((memory.live fee).filter (·.userId != userId))
    memoryQueues := Function.update memory.memoryQueues fee memory.nextArray
    nextArray := memory.nextArray + 1 }

end Memory

/-- What `tryCreateMatch` holds across its awaits: the fee, the array it took the first two players
from, and the two players. -/
structure Taken where
  fee : ℕ
  queue : ℕ
  playerA : QueueEntry
  playerB : QueueEntry
  deriving DecidableEq

/-- **The synchronous blocks** on the queues. -/
inductive MemoryOp
  | dropStale (fee : ℕ) (userId : UserId)
  | push (fee : ℕ) (userId : UserId) (username category : String)
  | length (fee : ℕ)
  | removeFromMemoryQueue (userId : UserId)
  | takeTwo (fee : ℕ)
  | putBack (taken : Taken)
  deriving DecidableEq

@[reducible] def MemoryOp.Reply : MemoryOp → Type
  | takeTwo _ => Option Taken
  | length _ => ℕ
  | _ => Unit

/-- The effect of a synchronous block. -/
def MemoryOp.exec : (op : MemoryOp) → Memory → op.Reply × Memory
  | dropStale fee userId, memory =>
    if (memory.live fee).any (·.userId == userId) then ((), memory.dropUser fee userId)
    else ((), memory)
  | push fee userId username category, memory =>
    ((), { memory.setArray (memory.memoryQueues fee)
            (memory.live fee ++ [⟨userId, username, category, memory.nextTicket⟩]) with
           nextTicket := memory.nextTicket + 1 })
  | length fee, memory => ((memory.live fee).length, memory)
  | removeFromMemoryQueue userId, memory =>
    ((), validFees.foldl (fun memory fee => memory.dropUser fee userId) memory)
  | takeTwo fee, memory =>
    if fee ∈ validFees then
      match memory.live fee with
      | playerA :: playerB :: rest =>
        if playerA.userId = playerB.userId then
          (none, memory.setArray (memory.memoryQueues fee) (playerB :: rest))
        else
          (some ⟨fee, memory.memoryQueues fee, playerA, playerB⟩,
            memory.setArray (memory.memoryQueues fee) rest)
      | _ => (none, memory)
    else (none, memory)
  | putBack taken, memory =>
    ((), memory.setArray taken.queue (taken.playerA :: taken.playerB :: memory.arrays taken.queue))

/-! ### Events -/

/-- **What starts a handler**: an event of a client, a request, a timer. A timer carries the time it
is due; a disconnect carries its position in the connection history. `dropped` is the loss of a socket
whose `disconnect` listener is not registered yet, so that no handler runs. -/
inductive Handler
  | matchJoin (user : UserId) (matchId : MatchId)
  | timerRequest (user : UserId) (matchId : MatchId)
  | codeRun (user : UserId) (matchId : MatchId) (language code : JsVal)
  | codeSubmit (user : UserId) (matchId : MatchId) (language code : JsVal)
  | forfeitRequest (user : UserId) (matchId : MatchId) (reason : String)
  | matchLeave (user : UserId) (matchId : MatchId)
  | timerExpiry (matchId : MatchId) (dueAt : ℕ)
  | connection (user : UserId) (socket : SocketId)
  | dropped (user : UserId) (socket : SocketId)
  | disconnect (user : UserId) (socket : SocketId) (position : ℕ)
  | disconnectForfeit (user : UserId) (matchId : MatchId) (position : ℕ) (dueAt : ℕ)
  | queueJoin (user : UserId) (username : String) (fee : ℕ) (category : String)
  | queueLeave (user : UserId)
  | worker (fee : ℕ)
  | verifyPayment (user : UserId) (orderId paymentId signature : Text)
  | webhook (body : Text) (signature : Text)
  deriving DecidableEq

/-- A connection event of a socket. -/
inductive SocketEvent
  | connected (user : UserId) (socket : SocketId)
  | disconnected (user : UserId) (socket : SocketId)
  deriving DecidableEq

/-- How a connection event changes the connected sockets of a user. -/
def SocketEvent.apply (user : UserId) (sockets : List SocketId) : SocketEvent → List SocketId
  | connected user' socket => if user' = user then sockets ++ [socket] else sockets
  | disconnected user' socket => if user' = user then sockets.filter (· != socket) else sockets

/-- The sockets of a user that are connected after a history. -/
def connectedSockets (user : UserId) (history : List SocketEvent) : List SocketId :=
  history.foldl (SocketEvent.apply user) []

/-! ### Operations -/

/-- **The operations** a handler awaits. -/
inductive Op
  | get (key : Key)
  | set (key : Key) (value : key.Val) (seconds : ℕ)
  | setNx (key : Key) (value : key.Val) (seconds : ℕ)
  | del (key : Key)
  | zrem (fee : ℕ) (user : UserId)
  | query (sql : Query)
  | transact (transaction : Transaction)
  | evaluateCode (matchId : MatchId) (user : UserId) (language code : JsVal) (problemId : ProblemId)
  | executeCode (language code : JsVal) (stdin : Text)
  | fetchOrder (orderId : Text)
  | uuid
  | dateNow
  | sleepUntil (instant : ℕ)
  | memory (op : MemoryOp)
  | emit (room : Room) (event : Event)
  | register (user : UserId) (socket : SocketId)
  | fork (handler : Handler)

@[reducible] def Op.Reply : Op → Type
  | get key => Option key.Val
  | setNx .. => Bool
  | query sql => sql.Reply
  | transact transaction => transaction.Reply
  | evaluateCode .. => EvalResult
  | executeCode .. => Execution
  | fetchOrder _ => ℚ
  | uuid => MatchId
  | dateNow => ℕ
  | memory op => op.Reply
  | _ => Unit

/-- The operations as questions whose answer may be a rejection. -/
abbrev signature : Signature := ⟨Op, fun op => Except Err op.Reply⟩

/-- What an `async` function returns. -/
abbrev Promise := Task signature Err

/-- `await` one operation. -/
def Op.call (op : Op) : Promise op.Reply := ⟨.await (S := signature) op .done⟩

/-! ### The world -/

/-- **The world.** -/
structure World where
  now : ℕ
  redis : Store Key.Val := fun _ => none
  db : Db
  memory : Memory := {}
  history : List SocketEvent := []
  registered : List (UserId × SocketId) := []
  sent : List (Room × Event) := []

/-- **What the world leaves open.** -/
inductive Choice
  | proceed
  | fail
  | verdict (result : EvalResult)
  | executed (execution : Execution)
  | order (amount : ℚ)
  | fresh (matchId : MatchId)
  | pick (index : ℕ)
  deriving DecidableEq

/-- The instant at which a key written now with `EX seconds` is last readable. -/
def World.expiry (world : World) (seconds : ℕ) : ℕ := world.now + seconds * 1000

/-- What a Redis command leaves of the world. -/
def World.withRedis (world : World) (redis : Store Key.Val) : World := { world with redis := redis }

/-- What a transaction or a query leaves of the world. -/
def World.withDb (world : World) (db : Db) : World := { world with db := db }

section Fields

variable (world : World) (redis : Store Key.Val) (db : Db)

@[simp] theorem withRedis_redis : (world.withRedis redis).redis = redis := rfl

@[simp] theorem withRedis_db : (world.withRedis redis).db = world.db := rfl

@[simp] theorem withRedis_now : (world.withRedis redis).now = world.now := rfl

@[simp] theorem withDb_redis : (world.withDb db).redis = world.redis := rfl

@[simp] theorem withDb_db : (world.withDb db).db = db := rfl

@[simp] theorem withDb_now : (world.withDb db).now = world.now := rfl

end Fields

namespace Op

/-- The outcome of an operation that does not fail of itself. -/
def proceed (env : Env) (choice : Choice) : (op : Op) → World → Option (Except Err op.Reply × World)
  | get key, world => some (.ok (world.redis.read world.now key), world)
  | set key value seconds, world =>
    some (.ok (), world.withRedis (world.redis.write key value (world.expiry seconds)))
  | setNx key value seconds, world =>
    if (world.redis.read world.now key).isSome then some (.ok false, world)
    else some (.ok true, world.withRedis (world.redis.write key value (world.expiry seconds)))
  | del key, world => some (.ok (), world.withRedis (world.redis.delete key))
  | zrem _ _, world => some (.ok (), world)
  | query sql, world =>
    let index := match choice with
      | .pick index => index
      | _ => 0
    match sql.exec index world.db with
    | .ok (reply, db) => some (.ok reply, world.withDb db)
    | .error err => some (.error err, world)
  | transact transaction, world =>
    some ((transaction.run env world.db).1, world.withDb (transaction.run env world.db).2)
  | evaluateCode .., world => match choice with
    | .verdict result => some (.ok result, world)
    | _ => none
  | executeCode .., world => match choice with
    | .executed execution => some (.ok execution, world)
    | _ => none
  | fetchOrder _, world => match choice with
    | .order amount => some (.ok amount, world)
    | _ => none
  | uuid, world => match choice with
    | .fresh matchId => some (.ok matchId, world)
    | _ => none
  | dateNow, world => some (.ok world.now, world)
  | sleepUntil instant, world => if instant ≤ world.now then some (.ok (), world) else none
  | memory op, world => some (.ok (op.exec world.memory).1, { world with memory := (op.exec world.memory).2 })
  | emit room event, world => some (.ok (), { world with sent := world.sent ++ [(room, event)] })
  | register user socket, world =>
    some (.ok (), { world with registered := world.registered ++ [(user, socket)] })
  | fork _, world => some (.ok (), world)

/-- The operations that reach outside the process and can fail there. `evaluateCode` catches every
exception of its own. -/
def fallible : Op → Bool
  | get _ | set .. | setNx .. | del _ | zrem .. | query _ | transact _ | executeCode .. | fetchOrder _ =>
    true
  | _ => false

/-- **One operation.** A failed one has no effect. -/
def perform (env : Env) (choice : Choice) (op : Op) (world : World) :
    Option (Except Err op.Reply × World) :=
  if choice = .fail then
    if op.fallible then some (.error .unavailable, world) else none
  else op.proceed env choice world

/-- The handlers an operation starts beside the one that awaits it. -/
def forks : Op → List Handler
  | fork handler => [handler]
  | _ => []

end Op

/-! ### Events from outside -/

/-- What happens beside the handlers of the pool: time passes, or another part of the system performs
an operation. -/
inductive Outside
  | tick (ms : ℕ)
  | act (choice : Choice) (op : Op)

def Outside.run (env : Env) : Outside → World → Option World
  | tick ms, world => some { world with now := world.now + ms }
  | act choice op, world => (op.perform env choice world).map (·.2)

/-- The connection history moves when a socket connects or disconnects. -/
def Handler.arrive : Handler → World → Option World
  | connection user socket, world =>
    if world.history.any (fun event => event = .connected user socket) then none
    else some { world with history := world.history ++ [.connected user socket] }
  | dropped user socket, world =>
    if socket ∈ connectedSockets user world.history ∧ (user, socket) ∉ world.registered then
      some { world with history := world.history ++ [.disconnected user socket] }
    else none
  | disconnect user socket position, world =>
    if socket ∈ connectedSockets user world.history ∧ (user, socket) ∈ world.registered ∧
        position = world.history.length then
      some { world with history := world.history ++ [.disconnected user socket] }
    else none
  | _, world => some world

end SkillArena
