/-
**The transactions, statement by statement.**

Several clients run their transactions at once. A transaction sees what is committed and its own statements;
`SELECT … FOR UPDATE` and `UPDATE` lock the wallet row they find and wait while another transaction has it; the
commit or the rollback gives all rows back. A session carries the number of its client, and its program is the
body of the transaction followed by its end.
-/

import SkillArena.Async.Pool
import SkillArena.Store.Locks
import SkillArena.Model.Transactions

namespace SkillArena

open Async
open Sql (Numeric)

/-- The wallet row a statement locks. -/
def Statement.row : Statement → Option UserId
  | selectWallet user => some user
  | updateWallet user _ => some user
  | _ => none

/-- **The steps of a session.** -/
inductive SessionOp
  | statement (client : ℕ) (sql : Statement)
  | finish (client : ℕ) (committed : Bool)
  deriving DecidableEq

@[reducible] def SessionOp.Reply : SessionOp → Type
  | statement _ sql => Except Err sql.Reply
  | finish .. => Unit

abbrev sessionSignature : Signature := ⟨SessionOp, SessionOp.Reply⟩

/-- **The committed database, the row locks and the open transactions**: the statements each has sent. -/
structure Sessions where
  db : Db
  locks : Locks.Table UserId ℕ := fun _ => none
  sent : ℕ → List Statement := fun _ => []
  clients : List ℕ := []

namespace Sessions

/-- What a client sees: the committed rows and its own changes. -/
def view (N : Numeric) (sessions : Sessions) (client : ℕ) : Db :=
  (sessions.sent client).foldl (fun db sql => (sql.perform N db).2) sessions.db

/-- The row a statement of a client has to lock: the one it finds. -/
def rowOf (N : Numeric) (sessions : Sessions) (client : ℕ) (sql : Statement) : Option UserId :=
  sql.row.filter fun user => ((sessions.view N client).wallets user).isSome

/-- The locks with the row of a statement. -/
def lockFor (N : Numeric) (sessions : Sessions) (client : ℕ) (sql : Statement) : Locks.Table UserId ℕ :=
  match sessions.rowOf N client sql with
  | some user => sessions.locks.take user client
  | none => sessions.locks

/-- Another client has the row a statement has to lock. -/
def blocked (N : Numeric) (sessions : Sessions) (client : ℕ) (sql : Statement) : Bool :=
  match sessions.rowOf N client sql with
  | some user => (sessions.locks user).any (· != client)
  | none => false

end Sessions

/-- **One step of a session.** A statement that waits is not enabled; it may also fail. -/
def SessionOp.perform (N : Numeric) (fails : Bool) : (op : SessionOp) → Sessions → Option (op.Reply × Sessions)
  | statement client sql, sessions =>
    if fails then some (.error .unavailable, sessions)
    else if sessions.blocked N client sql then none
    else some ((sql.perform N (sessions.view N client)).1,
      { sessions with
        locks := sessions.lockFor N client sql
        sent := Function.update sessions.sent client (sessions.sent client ++ [sql]) })
  | finish client committed, sessions =>
    some ((),
      { sessions with
        db := if committed then sessions.view N client else sessions.db
        locks := sessions.locks.release client
        sent := Function.update sessions.sent client [] })

/-- `withTransaction`: the statements of the body, then `COMMIT` or `ROLLBACK`. -/
def session {α : Type} (client : ℕ) : Prog sqlSignature (Except Err α) → Prog sessionSignature Unit
  | .done (.ok _) => .await (.finish client true) fun _ => .done ()
  | .done (.error _) => .await (.finish client false) fun _ => .done ()
  | .await sql next => .await (.statement client sql) fun reply => session client (next reply)

/-- **The database server**: clients begin transactions of the program at any time, each client once. -/
def server (env : Env) : Machine sessionSignature Sessions (ℕ × Transaction) Bool Empty where
  perform fails op sessions := op.perform env.numeric fails sessions
  forks _ := []
  arrive event sessions :=
    if event.1 ∈ sessions.clients then none
    else some { sessions with clients := sessions.clients ++ [event.1] }
  program event := session event.1 (event.2.body env).prog
  outside act := act.elim

end SkillArena
