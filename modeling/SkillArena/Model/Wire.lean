/-
**The connections to the database.**

`withTransaction` takes a connection of the pool, sends `BEGIN`, the statements of its callback and `COMMIT` over
it, or `ROLLBACK` when something throws, and gives the connection back. Here these are commands on a wire: each
one is a step of its own, the connection may break at any time, and a command whose answer is lost may have been
carried out or not. The pool makes at most twenty connections, hands out the one that was given back last, and
drops those that have broken.
-/

import SkillArena.Model.Sessions

namespace SkillArena

open Async
open Sql (Numeric)

/-! ### Commands -/

/-- **What is sent over a connection.** -/
inductive Command
  | begin
  | statement (sql : Statement)
  | commit
  | rollback
  deriving DecidableEq

@[reducible] def Command.Reply : Command → Type
  | statement sql => sql.Reply
  | begin | commit | rollback => Unit

/-- **What `withTransaction` awaits**, and that its caller is told the result. -/
inductive WireOp
  | connect
  | query (client : ℕ) (command : Command)
  | release (client : ℕ)
  | settle (call : ℕ) (transaction : Transaction) (result : Except Err transaction.Reply)

@[reducible] def WireOp.Reply : WireOp → Type
  | connect => ℕ
  | query _ command => command.Reply
  | release _ | settle .. => Unit

abbrev wireSignature : Signature := ⟨WireOp, fun op => Except Err op.Reply⟩

abbrev WireTask := Task wireSignature Err

def WireOp.call (op : WireOp) : WireTask op.Reply := ⟨.await (S := wireSignature) op .done⟩

/-- `client.query(…)`. -/
def clientQuery (client : ℕ) (command : Command) : WireTask command.Reply := (WireOp.query client command).call

/-- **`withTransaction`**, connection and all. -/
def withTransactionOn {α : Type} (callback : ℕ → WireTask α) : WireTask α := do
  let client ← WireOp.connect.call
  Task.lastly
    (.attempt
      (do
        clientQuery client .begin
        let result ← callback client
        clientQuery client .commit
        return result)
      fun err => do
        clientQuery client .rollback
        Task.throw err)
    (WireOp.release client).call

/-- The statements of a body, sent over a connection. -/
def sending {α : Type} (client : ℕ) : Prog sqlSignature (Except Err α) → Prog wireSignature (Except Err α)
  | .done result => .done result
  | .await sql next => .await (.query client (.statement sql)) fun reply => sending client (next reply)

/-- A transaction of the program as the callback of `withTransaction`. -/
def Transaction.callback (env : Env) (transaction : Transaction) (client : ℕ) : WireTask transaction.Reply :=
  ⟨sending client (transaction.body env).prog⟩

/-- A call of `withTransaction`, whose caller is told how it ended. -/
def calling (env : Env) (call : ℕ) (transaction : Transaction) : Prog wireSignature Unit :=
  (withTransactionOn (transaction.callback env)).prog.bind fun result =>
    .await (.settle call transaction result) fun _ => .done ()

/-! ### The pool and the server -/

/-- The state of a connection at the server: no transaction, one under way, one that has failed. -/
inductive TxStatus
  | idle
  | underway
  | failed
  deriving DecidableEq, Repr

/-- `max` of the pool. -/
def poolMax : ℕ := 20

/-- How a call ended. -/
structure SettledCall where
  call : ℕ
  transaction : Transaction
  result : Except Err transaction.Reply

/-- **The server with its connections, and the pool of them.** -/
structure Wire where
  sessions : Sessions
  status : ℕ → TxStatus := fun _ => .idle
  broken : ℕ → Bool := fun _ => false
  idle : List ℕ := []
  leased : List ℕ := []
  made : ℕ := 0
  calls : List ℕ := []
  settled : List SettledCall := []

namespace Wire

/-- The transaction of a connection ends, and its rows are given back. -/
def finish (N : Numeric) (client : ℕ) (committed : Bool) (wire : Wire) : Wire :=
  { wire with
    sessions := { wire.sessions with
      db := if committed then wire.sessions.view N client else wire.sessions.db
      locks := wire.sessions.locks.release client
      sent := Function.update wire.sessions.sent client [] }
    status := Function.update wire.status client .idle }

/-- **A connection breaks.** The server undoes its transaction, and an idle connection leaves the pool. -/
def disconnect (N : Numeric) (client : ℕ) (wire : Wire) : Wire :=
  { wire.finish N client false with
    broken := Function.update wire.broken client true
    idle := wire.idle.erase client }

/-- **A statement at the server.** In a transaction it waits for its row, and an error makes the transaction fail; a
transaction that has failed takes no more statements; without one the statement is a transaction by itself. -/
def execute (N : Numeric) (client : ℕ) (sql : Statement) (wire : Wire) : Option (Except Err sql.Reply × Wire) :=
  match wire.status client with
  | .failed => some (.error .unavailable, wire)
  | .underway =>
    if wire.sessions.blocked N client sql then none
    else
      let reply := (sql.perform N (wire.sessions.view N client)).1
      some (reply, { wire with
        sessions := { wire.sessions with
          locks := wire.sessions.lockFor N client sql
          sent := Function.update wire.sessions.sent client (wire.sessions.sent client ++ [sql]) }
        status := if reply.toBool then wire.status else Function.update wire.status client .failed })
  | .idle =>
    if wire.sessions.blocked N client sql then none
    else
      let (reply, db) := sql.perform N wire.sessions.db
      some (reply, { wire with sessions := { wire.sessions with db := db } })

/-- **A command at the server.** `COMMIT` ends a transaction that has failed without an error, and without effect.
-/
def carryOut (N : Numeric) (client : ℕ) : (command : Command) → Wire → Option (Except Err command.Reply × Wire)
  | .begin, wire =>
    match wire.status client with
    | .failed => some (.error .unavailable, wire)
    | _ => some (.ok (), { wire with status := Function.update wire.status client .underway })
  | .statement sql, wire => wire.execute N client sql
  | .commit, wire => some (.ok (), wire.finish N client (wire.status client = .underway))
  | .rollback, wire => some (.ok (), wire.finish N client false)

end Wire

/-- How an operation goes: as it should, refused (no connection in time, or a statement that the server cancels), or
with a connection that breaks before or after the command is carried out. -/
inductive WireChoice
  | proceed
  | refuse
  | lose (carriedOut : Bool)
  deriving DecidableEq, Repr

/-- The command of an operation whose connection breaks meanwhile. -/
def Wire.lose (N : Numeric) (client : ℕ) (command : Command) (carriedOut : Bool) (wire : Wire) : Wire :=
  match carriedOut, wire.carryOut N client command with
  | true, some (_, wire') => wire'.disconnect N client
  | _, _ => wire.disconnect N client

/-- **One operation.** -/
def WireOp.perform (N : Numeric) (choice : WireChoice) :
    (op : WireOp) → Wire → Option (Except Err op.Reply × Wire)
  | connect, wire =>
    match choice, wire.idle with
    | .proceed, client :: rest => some (.ok client, { wire with idle := rest, leased := client :: wire.leased })
    | .proceed, [] =>
      if wire.leased.length < poolMax then
        some (.ok wire.made, { wire with leased := wire.made :: wire.leased, made := wire.made + 1 })
      else none
    | .refuse, _ => some (.error .unavailable, wire)
    | .lose _, _ => none
  | query client command, wire =>
    if wire.broken client then some (.error .unavailable, wire)
    else
      match choice, command with
      | .proceed, command => wire.carryOut N client command
      | .refuse, .statement _ =>
        some (.error .unavailable, { wire with status := Function.update wire.status client .failed })
      | .refuse, _ => none
      | .lose carriedOut, command => some (.error .unavailable, wire.lose N client command carriedOut)
  | release client, wire =>
    some (.ok (), { wire with
      leased := wire.leased.erase client
      idle := if wire.broken client then wire.idle else client :: wire.idle })
  | settle call transaction result, wire =>
    some (.ok (), { wire with settled := wire.settled ++ [⟨call, transaction, result⟩] })

/-- **The calls of `withTransaction`**, of any number of transactions at once. From outside, a connection that no
command is using may break, and an idle one is closed after thirty seconds. -/
def wireServer (env : Env) : Machine wireSignature Wire (ℕ × Transaction) WireChoice ℕ where
  perform choice op wire := op.perform env.numeric choice wire
  forks _ := []
  arrive event wire :=
    if event.1 ∈ wire.calls then none else some { wire with calls := wire.calls ++ [event.1] }
  program event := calling env event.1 event.2
  outside client wire := if client < wire.made then some (wire.disconnect env.numeric client) else none

abbrev WireConfig := Config wireSignature Wire (ℕ × Transaction)

end SkillArena
