/-
**When the ledger rows were created.**

`transactions.created_at` is `TIMESTAMPTZ DEFAULT NOW()`, and no statement of the program assigns it. `NOW()` is
the time at which the transaction began, so a row is created at the `BEGIN` of the transaction that inserts it,
however long the transaction then waits for a wallet. The database server is the one of `Model/Sessions`, with a
clock.

`GET /wallet/transactions` of `routes/wallet.js` lists the rows of a user by `created_at`, the newest first.
-/

import SkillArena.Model.Sessions

namespace SkillArena

open Async
open Sql (Numeric)

/-- The client that takes a step. -/
def SessionOp.client : SessionOp → ℕ
  | statement client _ => client
  | finish client _ => client

/-- **The sessions and the clock**: the time at which each client began its transaction, and `created_at` of the
committed ledger rows, in the order of the ledger. -/
structure Clocked where
  sessions : Sessions
  now : ℕ
  began : ℕ → ℕ := fun _ => 0
  createdAt : List ℕ := []

namespace Clocked

/-- One step of a session; the rows it commits were created when its transaction began. -/
def perform (N : Numeric) (fails : Bool) (op : SessionOp) (clocked : Clocked) : Option (op.Reply × Clocked) :=
  (op.perform N fails clocked.sessions).map fun (reply, sessions) =>
    let rows := sessions.db.ledger.length - clocked.sessions.db.ledger.length
    (reply, { clocked with
      sessions := sessions, createdAt := clocked.createdAt ++ List.replicate rows (clocked.began op.client) })

/-- The rows of a user, each with its `created_at`, in the order they were committed. -/
def rowsOf (clocked : Clocked) (user : UserId) : List (LedgerRow × ℕ) :=
  (clocked.sessions.db.ledger.zip clocked.createdAt).filter fun row => row.1.userId = user

end Clocked

/-- **The database server with its clock.** Time passes at any moment. -/
def clockedServer (env : Env) : Machine sessionSignature Clocked (ℕ × Transaction) Bool ℕ where
  perform fails op clocked := clocked.perform env.numeric fails op
  forks := (server env).forks
  arrive event clocked := ((server env).arrive event clocked.sessions).map fun sessions =>
    { clocked with sessions := sessions, began := Function.update clocked.began event.1 clocked.now }
  program := (server env).program
  outside ms clocked := some { clocked with now := clocked.now + ms }

/-- `Math.min(parseInt(req.query.limit || '30'), 100)`, where `limit` is a number if it is given. -/
def transactionsLimit (limit : Option ℕ) : ℕ := min (limit.getD 30) 100

/-- **`GET /wallet/transactions`**: `ORDER BY created_at DESC LIMIT …`. Rows created at the same time come in
any order. -/
def Clocked.Lists (clocked : Clocked) (user : UserId) (limit : Option ℕ) (page : List LedgerRow) : Prop :=
  ∃ rows : List (LedgerRow × ℕ), rows.Perm (clocked.rowsOf user) ∧
    rows.Pairwise (fun newer older => older.2 ≤ newer.2) ∧ page = (rows.take (transactionsLimit limit)).map Prod.fst

end SkillArena
