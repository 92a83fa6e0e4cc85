/-
**The way of a call of `withTransaction`.**

A call stands at a `Leg` of its way, and what is left of its program can be read off it (`Leg.prog`). `CallStep`
says once what a step of a call can do: it gets a connection, a command goes over its connection and leaves the
other connections alone (`Wire.Apart`), or it gives the connection back. `callStep` derives it from the program and
from what the server and the network do, lost answers included.
-/

import SkillArena.Model.Wire
import SkillArena.Proof.Serial

namespace SkillArena

open Async
open Sql (Numeric)

/-! ### The legs of a call -/

/-- **Where a call stands.** -/
inductive Leg (transaction : Transaction) : Type
  | connecting
  | beginning (client : ℕ)
  | body (client : ℕ) (rest : Prog sqlSignature (Except Err transaction.Reply))
  | releasing (client : ℕ) (result : Except Err transaction.Reply)
  | reporting (result : Except Err transaction.Reply)
  | ended (result : Except Err transaction.Reply)

/-- What follows the body of `withTransaction`: the commit, or the rollback, and the release. -/
def closing {α : Type} (client : ℕ) (body : WireTask α) : WireTask α :=
  Task.lastly
    (.attempt body fun err => do
      clientQuery client .rollback
      Task.throw err)
    (WireOp.release client).call

/-- The end of a body. -/
def committing {α : Type} (client : ℕ) (body : WireTask α) : WireTask α := do
  let result ← body
  clientQuery client .commit
  return result

namespace Leg

variable {transaction : Transaction}

def report (call : ℕ) (result : Except Err transaction.Reply) : Prog wireSignature Unit :=
  .await (.settle call transaction result) fun _ => .done ()

/-- **What is left of the program** of a call. -/
def prog (env : Env) (call : ℕ) : Leg transaction → Prog wireSignature Unit
  | connecting => calling env call transaction
  | beginning client =>
    (closing client do
      clientQuery client .begin
      committing client (transaction.callback env client)).prog.bind (report call)
  | body client rest => (closing client (committing client ⟨sending client rest⟩)).prog.bind (report call)
  | releasing client result => (Task.lastly ⟨.done result⟩ (WireOp.release client).call).prog.bind (report call)
  | reporting result => report call result
  | ended _ => .done ()

def client : Leg transaction → Option ℕ
  | beginning client | body client _ | releasing client _ => some client
  | connecting | reporting _ | ended _ => none

/-- Whether the call is going to resolve or to reject, once this is settled. -/
def fate : Leg transaction → Option Bool
  | body _ (.done (.error _)) => some false
  | releasing _ result | reporting result | ended result => some result.toBool
  | connecting | beginning _ | body .. => none

theorem body_fate (client : ℕ) (rest : Prog sqlSignature (Except Err transaction.Reply)) :
    (body client rest).fate ≠ some true := by
  intro resolves
  cases rest with
  | await sql next => cases resolves
  | done result =>
    cases result with
    | ok | error => cases resolves

end Leg

/-! ### What a command leaves to the other connections -/

namespace Wire

/-- A connection without a transaction. -/
def Clean (wire : Wire) (client : ℕ) : Prop :=
  wire.sessions.sent client = [] ∧ (∀ user, wire.sessions.locks user ≠ some client) ∧ wire.status client = .idle

/-- The connections of the pool and the calls. -/
def pool (wire : Wire) : List ℕ × List ℕ × ℕ × List ℕ × List SettledCall :=
  (wire.idle, wire.leased, wire.made, wire.calls, wire.settled)

/-- **What a command over one connection leaves as it is**: everything of the other connections. -/
structure Apart (client : ℕ) (wire wire' : Wire) : Prop where
  broken : ∀ other, other ≠ client → wire'.broken other = wire.broken other
  status : ∀ other, other ≠ client → wire'.status other = wire.status other
  sent : ∀ other, other ≠ client → wire'.sessions.sent other = wire.sessions.sent other
  locks : ∀ user other, other ≠ client →
    (wire'.sessions.locks user = some other ↔ wire.sessions.locks user = some other)

variable {N : Numeric} {wire wire' wire'' : Wire} {client other : ℕ}

theorem Apart.refl (client : ℕ) (wire : Wire) : Apart client wire wire :=
  ⟨fun _ _ => rfl, fun _ _ => rfl, fun _ _ => rfl, fun _ _ _ => Iff.rfl⟩

theorem Apart.trans (first : Apart client wire wire') (second : Apart client wire' wire'') :
    Apart client wire wire'' where
  broken other ne := (second.broken other ne).trans (first.broken other ne)
  status other ne := (second.status other ne).trans (first.status other ne)
  sent other ne := (second.sent other ne).trans (first.sent other ne)
  locks user other ne := (second.locks user other ne).trans (first.locks user other ne)

theorem Clean.apart (clean : wire.Clean other) (apart : Apart client wire wire') (ne : other ≠ client) :
    wire'.Clean other :=
  ⟨(apart.sent other ne).trans clean.1, fun user owned => clean.2.1 user ((apart.locks user other ne).mp owned),
    (apart.status other ne).trans clean.2.2⟩

theorem finish_apart (N : Numeric) (wire : Wire) (client : ℕ) (committed : Bool) :
    Apart client wire (wire.finish N client committed) where
  broken _ _ := rfl
  status _ ne := Function.update_of_ne ne _ _
  sent _ ne := Function.update_of_ne ne _ _
  locks _ _ ne := Locks.Table.release_iff.trans (and_iff_left ne)

theorem finish_clean (N : Numeric) (wire : Wire) (client : ℕ) (committed : Bool) :
    (wire.finish N client committed).Clean client :=
  ⟨Function.update_self _ _ _, fun _ owned => (Locks.Table.release_iff.mp owned).2 rfl, Function.update_self _ _ _⟩

theorem disconnect_apart (N : Numeric) (wire : Wire) (client : ℕ) :
    Apart client wire (wire.disconnect N client) :=
  { (finish_apart N wire client false) with broken := fun _ ne => Function.update_of_ne ne _ _ }

theorem disconnect_clean : (wire.disconnect N client).Clean client := finish_clean N wire client false

theorem disconnect_broken : (wire.disconnect N client).broken client = true := Function.update_self _ _ _

theorem disconnect_pool (held : client ∉ wire.idle) : (wire.disconnect N client).pool = wire.pool := by
  show (wire.idle.erase client, _) = _
  rw [List.erase_of_not_mem held]
  rfl

/-- **A command the server carries out**: only a commit changes the committed rows. -/
theorem carryOut_spec {command : Command} {reply : Except Err command.Reply}
    (begun : ∀ sql, command = .statement sql → wire.status client ≠ .idle)
    (done : wire.carryOut N client command = some (reply, wire')) :
    wire'.pool = wire.pool ∧ Apart client wire wire' ∧ (wire'.sessions.db = wire.sessions.db ∨
      (command = .commit ∧ wire'.sessions.db = wire.sessions.view N client)) := by
  cases command with
  | begin =>
    simp only [carryOut] at done
    split at done
    · cases done
      exact ⟨rfl, .refl _ _, .inl rfl⟩
    · cases done
      exact ⟨rfl, { Apart.refl client wire with status := fun _ ne => Function.update_of_ne ne _ _ }, .inl rfl⟩
  | statement sql =>
    simp only [carryOut, execute] at done
    split at done
    · cases done
      exact ⟨rfl, .refl _ _, .inl rfl⟩
    · split at done
      · cases done
      · rename_i unblocked
        cases done
        refine ⟨rfl, { Apart.refl client wire with status := ?_, sent := ?_, locks := ?_ }, .inl rfl⟩
        · intro other ne
          dsimp only
          split
          · rfl
          · exact Function.update_of_ne ne _ _
        · exact fun other ne => Function.update_of_ne ne _ _
        · refine fun user other ne => ⟨fun owned => ?_, lockFor_keeps unblocked⟩
          unfold Sessions.lockFor at owned
          cases row : wire.sessions.rowOf N client sql with
          | none =>
            rw [row] at owned
            exact owned
          | some taken =>
            rw [row] at owned
            exact ((Locks.Table.take_iff.mp owned).resolve_left fun mine => ne mine.2).2
    · rename_i idle
      exact absurd idle (begun sql rfl)
  | commit =>
    cases done
    refine ⟨rfl, finish_apart _ _ _ _, ?_⟩
    by_cases underway : wire.status client = .underway
    · exact .inr ⟨rfl, by simp [finish, underway]⟩
    · exact .inl (by simp [finish, underway])
  | rollback =>
    cases done
    exact ⟨rfl, finish_apart _ _ _ _, .inl rfl⟩

end Wire

/-! ### What a call can do -/

/-- **The transaction of a body**: it is under way, it has failed, or its connection has broken. -/
def Underway (env : Env) (wire : Wire) {transaction : Transaction} (client : ℕ)
    (rest : Prog sqlSignature (Except Err transaction.Reply)) : Prop :=
  (wire.broken client = false ∧ wire.status client = .underway ∧
    Open env wire.sessions (client, transaction) rest) ∨
  (wire.broken client = false ∧ wire.status client = .failed ∧ ∃ err, rest = .done (.error err)) ∨
  (wire.broken client = true ∧ wire.Clean client)

/-- What holds of the connection of a call. -/
def Leg.Fits {transaction : Transaction} (env : Env) (wire : Wire) : Leg transaction → Prop
  | connecting | reporting _ | ended _ => True
  | beginning client | releasing client _ => wire.Clean client
  | body client rest => rest.Aborts rejected ∧ Underway env wire client rest

/-- **What a command does to the rows.** Nothing, and then it settles no success; or it commits the transaction, and
then the call resolves, unless the answer is lost. -/
inductive RowsAfter (env : Env) (lossless : Prop) (wire wire' : Wire) {transaction : Transaction} (client : ℕ)
    (leg leg' : Leg transaction) : Prop
  | kept (rows : wire'.sessions.db = wire.sessions.db) (success : leg'.fate = some true ↔ leg.fate = some true)
      (pending : leg'.fate = none → leg.fate = none)
  | committed (value : transaction.Reply) (here : leg.fate = none)
      (opened : Open env wire.sessions (client, transaction) (.done (.ok value)))
      (rows : wire'.sessions.db = wire.sessions.view env.numeric client)
      (told : leg'.fate = some true ∨ (¬ lossless ∧ leg'.fate = some false))

section Step

variable (env : Env) (lossless : Prop) (call : ℕ) (transaction : Transaction) (wire wire' : Wire)

/-- **One step of a call**: what it does to the wire, and where the call stands then. -/
inductive CallStep : Leg transaction → Leg transaction → Prop
  | refused (err : Err) (same : wire' = wire) :
      CallStep .connecting (.reporting (.error err))
  | reused (client : ℕ) (rest : List ℕ) (idle : wire.idle = client :: rest)
      (new : wire' = { wire with idle := rest, leased := client :: wire.leased }) :
      CallStep .connecting (.beginning client)
  | made (none : wire.idle = []) (room : wire.leased.length < poolMax)
      (new : wire' = { wire with leased := wire.made :: wire.leased, made := wire.made + 1 }) :
      CallStep .connecting (.beginning wire.made)
  | command {leg leg' : Leg transaction} (client : ℕ) (here : leg.client = some client)
      (there : leg'.client = some client) (pool : wire'.pool = wire.pool) (apart : wire.Apart client wire')
      (fits : leg'.Fits env wire') (rows : RowsAfter env lossless wire wire' client leg leg') :
      CallStep leg leg'
  | releases (client : ℕ) (result : Except Err transaction.Reply)
      (new : wire' = { wire with leased := wire.leased.erase client
                                 idle := if wire.broken client then wire.idle else client :: wire.idle }) :
      CallStep (.releasing client result) (.reporting result)
  | settles (result : Except Err transaction.Reply)
      (new : wire' = { wire with settled := wire.settled ++ [⟨call, transaction, result⟩] }) :
      CallStep (.reporting result) (.ended result)

end Step

section Steps

variable {env : Env} {N : Numeric} {lossless : Prop} {wire wire' : Wire} {transaction : Transaction}
  {client call : ℕ} {choice : WireChoice} {command : Command}

/-- A step over the connection of a call that settles no success. -/
theorem CallStep.quiet {leg leg' : Leg transaction} (here : leg.client = some client)
    (there : leg'.client = some client) (pool : wire'.pool = wire.pool) (apart : wire.Apart client wire')
    (rows : wire'.sessions.db = wire.sessions.db) (fits : leg'.Fits env wire') (before : leg.fate ≠ some true)
    (after : leg'.fate ≠ some true) (pending : leg'.fate = none → leg.fate = none) :
    CallStep env lossless call transaction wire wire' leg leg' :=
  .command client here there pool apart fits (.kept rows (iff_of_false after before) pending)

/-- **A command whose connection has broken, or breaks meanwhile.** -/
structure Cut (N : Numeric) (choice : WireChoice) (command : Command) (client : ℕ) (wire wire' : Wire) : Prop where
  pool : wire'.pool = wire.pool
  apart : wire.Apart client wire'
  broken : wire'.broken client = true
  clean : wire'.Clean client
  rows : wire'.sessions.db = wire.sessions.db ∨
    (wire.broken client = false ∧ choice = .lose true ∧ command = .commit ∧
      wire'.sessions.db = wire.sessions.view N client)

theorem Cut.lose (carriedOut : Bool) (held : client ∉ wire.idle) (whole : wire.broken client = false)
    (begun : ∀ sql, command = .statement sql → wire.status client ≠ .idle) :
    Cut N (.lose carriedOut) command client wire (wire.lose N client command carriedOut) := by
  unfold Wire.lose
  split
  · rename_i reply wire' done
    obtain ⟨pool, apart, rows⟩ := Wire.carryOut_spec begun done
    have same : wire'.idle = wire.idle := congrArg Prod.fst pool
    exact ⟨(Wire.disconnect_pool (same ▸ held)).trans pool, apart.trans (Wire.disconnect_apart ..),
      Wire.disconnect_broken, Wire.disconnect_clean, rows.imp_right fun committed => ⟨whole, rfl, committed⟩⟩
  · exact ⟨Wire.disconnect_pool held, Wire.disconnect_apart .., Wire.disconnect_broken, Wire.disconnect_clean,
      .inl rfl⟩

theorem query_cases {reply : Except Err command.Reply} (held : client ∉ wire.idle)
    (begun : wire.broken client = false → ∀ sql, command = .statement sql → wire.status client ≠ .idle)
    (clean : wire.broken client = true → wire.Clean client)
    (performed : WireOp.perform N choice (.query client command) wire = some (reply, wire')) :
    (wire.broken client = false ∧ wire.carryOut N client command = some (reply, wire')) ∨
    (wire.broken client = false ∧ (∃ sql, command = .statement sql) ∧ reply = .error .unavailable ∧
      wire' = { wire with status := Function.update wire.status client .failed }) ∨
    (reply = .error .unavailable ∧ Cut N choice command client wire wire') := by
  simp only [WireOp.perform] at performed
  split at performed
  · rename_i broken
    cases performed
    exact .inr (.inr ⟨rfl, rfl, .refl _ _, broken, clean broken, .inl rfl⟩)
  · rename_i whole
    have whole := Bool.eq_false_iff.mpr whole
    cases choice with
    | proceed => exact .inl ⟨whole, performed⟩
    | refuse =>
      cases command with
      | statement sql =>
        cases performed
        exact .inr (.inl ⟨whole, ⟨sql, rfl⟩, rfl, rfl⟩)
      | begin | commit | rollback => cases performed
    | lose carriedOut =>
      cases performed
      exact .inr (.inr ⟨rfl, .lose carriedOut held whole (begun whole)⟩)

theorem Underway.clean {rest : Prog sqlSignature (Except Err transaction.Reply)}
    (underway : Underway env wire client rest) (broken : wire.broken client = true) : wire.Clean client := by
  rcases underway with ⟨whole, _⟩ | ⟨whole, _⟩ | ⟨_, clean⟩
  · cases whole.symm.trans broken
  · cases whole.symm.trans broken
  · exact clean

/-- A body without an error has its transaction under way. -/
theorem Underway.opened {rest : Prog sqlSignature (Except Err transaction.Reply)}
    (underway : Underway env wire client rest) (whole : wire.broken client = false)
    (going : ∀ err, rest ≠ .done (.error err)) :
    wire.status client = .underway ∧ Open env wire.sessions (client, transaction) rest := by
  rcases underway with ⟨_, opened⟩ | ⟨_, _, err, ended⟩ | ⟨broken, _⟩
  · exact opened
  · exact absurd ended (going err)
  · cases whole.symm.trans broken

theorem callStep_begin {reply : Except Err Unit} (clean : wire.Clean client) (held : client ∉ wire.idle)
    (performed : WireOp.perform env.numeric choice (.query client .begin) wire = some (reply, wire')) :
    (reply = .ok () ∧ CallStep env lossless call transaction wire wire' (.beginning client)
      (.body client (transaction.body env).prog)) ∨
    ∃ err, reply = .error err ∧ CallStep env lossless call transaction wire wire' (.beginning client)
      (.body client (.done (.error err))) := by
  have unsure : (Leg.beginning client : Leg transaction).fate ≠ some true := by rintro ⟨⟩
  rcases query_cases held (fun _ _ => by rintro ⟨⟩) (fun _ => clean) performed with ⟨whole, done⟩ |
    ⟨_, ⟨sql, same⟩, _⟩ | ⟨rfl, cut⟩
  · obtain ⟨pool, apart, _⟩ := Wire.carryOut_spec (fun _ => by rintro ⟨⟩) done
    simp only [Wire.carryOut, clean.2.2] at done
    cases done
    refine .inl ⟨rfl, .quiet rfl rfl pool apart rfl ⟨body_aborts env transaction, .inl ⟨whole, ?_, ?_⟩⟩ unsure
      (Leg.body_fate _ _) fun _ => rfl⟩
    · exact Function.update_self _ _ _
    · refine ⟨body_aborts env transaction, .inl ?_, ?_⟩
      · show (transaction.body env).prog.Path _ (wire.sessions.sent client) _ _
        rw [clean.1]
        rfl
      · show ∀ sql ∈ wire.sessions.sent client, _
        rw [clean.1]
        exact fun _ member => absurd member List.not_mem_nil
  · cases same
  · refine .inr ⟨_, rfl, .quiet rfl rfl cut.pool cut.apart (cut.rows.resolve_right ?_)
      ⟨trivial, .inr (.inr ⟨cut.broken, cut.clean⟩)⟩ unsure (Leg.body_fate _ _) fun _ => rfl⟩
    rintro ⟨_, _, ⟨⟩, _⟩

theorem callStep_statement {sql : Statement} {reply : Except Err sql.Reply}
    {next : Except Err sql.Reply → Prog sqlSignature (Except Err transaction.Reply)}
    (fits : (Leg.body client (.await sql next)).Fits env wire) (held : client ∉ wire.idle)
    (performed : WireOp.perform env.numeric choice (.query client (.statement sql)) wire = some (reply, wire')) :
    CallStep env lossless call transaction wire wire' (.body client (.await sql next))
      (.body client (next reply)) := by
  obtain ⟨aborts, underway⟩ := fits
  have opened := fun whole => underway.opened whole fun _ => by rintro ⟨⟩
  have begun : wire.broken client = false → ∀ sql', Command.statement sql = .statement sql' →
      wire.status client ≠ .idle := fun whole _ _ idle => by cases (opened whole).1.symm.trans idle
  have step : wire'.pool = wire.pool → wire.Apart client wire' → wire'.sessions.db = wire.sessions.db →
      Underway env wire' client (next reply) → CallStep env lossless call transaction wire wire'
        (.body client (.await sql next)) (.body client (next reply)) := fun pool apart rows underway =>
    .quiet rfl rfl pool apart rows ⟨aborts.2 reply, underway⟩ (Leg.body_fate _ _) (Leg.body_fate _ _) fun _ => rfl
  have throws : ∀ err, reply = .error err → ∃ err', next reply = .done (.error err') :=
    fun err same => aborts.1 reply ⟨err, same⟩
  rcases query_cases held begun underway.clean performed with ⟨whole, done⟩ | ⟨whole, _, rfl, rfl⟩ | ⟨rfl, cut⟩
  · obtain ⟨pool, apart, _⟩ := Wire.carryOut_spec (begun whole) done
    obtain ⟨status, opened⟩ := opened whole
    simp only [Wire.carryOut, Wire.execute, status] at done
    split at done
    · cases done
    · rename_i unblocked
      cases done
      refine step pool apart rfl ?_
      cases outcome : (Statement.perform env.numeric sql (wire.sessions.view env.numeric client)).1 with
      | ok value =>
        have answered := opened.answered unblocked
        rw [outcome] at answered
        exact .inl ⟨whole, status, answered⟩
      | error err =>
        obtain ⟨err', ended⟩ := throws err outcome
        rw [outcome] at ended
        exact .inr (.inl ⟨whole, Function.update_self _ _ _, err', ended⟩)
  · have ended := throws _ rfl
    exact step rfl { Wire.Apart.refl client wire with status := fun _ ne => Function.update_of_ne ne _ _ } rfl
      (.inr (.inl ⟨whole, Function.update_self _ _ _, ended⟩))
  · refine step cut.pool cut.apart (cut.rows.resolve_right ?_) (.inr (.inr ⟨cut.broken, cut.clean⟩))
    rintro ⟨_, _, ⟨⟩, _⟩

theorem callStep_commit {value : transaction.Reply} {reply : Except Err Unit}
    (fits : (Leg.body client (.done (.ok value))).Fits env wire) (held : client ∉ wire.idle)
    (answers : lossless → choice ≠ .lose true)
    (performed : WireOp.perform env.numeric choice (.query client .commit) wire = some (reply, wire')) :
    (reply = .ok () ∧ CallStep env lossless call transaction wire wire' (.body client (.done (.ok value)))
      (.releasing client (.ok value))) ∨
    ∃ err, reply = .error err ∧ CallStep env lossless call transaction wire wire'
      (.body client (.done (.ok value))) (.body client (.done (.error err))) := by
  have opened := fun whole => fits.2.opened whole fun _ => by rintro ⟨⟩
  rcases query_cases held (fun _ _ => by rintro ⟨⟩) fits.2.clean performed with ⟨whole, done⟩ |
    ⟨_, ⟨sql, same⟩, _⟩ | ⟨rfl, cut⟩
  · obtain ⟨status, opened⟩ := opened whole
    cases done
    refine .inl ⟨rfl, .command client rfl rfl rfl (Wire.finish_apart _ _ _ _) (Wire.finish_clean _ _ _ _)
      (.committed value rfl opened ?_ (.inl rfl))⟩
    simp [Wire.finish, status]
  · cases same
  · refine .inr ⟨_, rfl, .command client rfl rfl cut.pool cut.apart
      ⟨trivial, .inr (.inr ⟨cut.broken, cut.clean⟩)⟩ ?_⟩
    rcases cut.rows with rows | ⟨whole, lost, _, rows⟩
    · exact .kept rows (iff_of_false (Leg.body_fate _ _) (Leg.body_fate _ _)) fun _ => rfl
    · -- the server has committed, and the answer is lost
      exact .committed value rfl (opened whole).2 rows (.inr ⟨fun sure => answers sure lost, rfl⟩)

theorem callStep_rollback {err : Err} {reply : Except Err Unit}
    (fits : (.body client (.done (.error err)) : Leg transaction).Fits env wire) (held : client ∉ wire.idle)
    (performed : WireOp.perform env.numeric choice (.query client .rollback) wire = some (reply, wire')) :
    ∃ err', (reply = .ok () ∧ err' = err ∨ reply = .error err') ∧ CallStep env lossless call
      transaction wire wire' (.body client (.done (.error err))) (.releasing client (.error err')) := by
  have step : ∀ {err'}, wire'.pool = wire.pool → wire.Apart client wire' →
      wire'.sessions.db = wire.sessions.db → wire'.Clean client → CallStep env lossless call transaction wire wire'
        (.body client (.done (.error err))) (.releasing client (.error err')) := fun pool apart rows clean =>
    .quiet rfl rfl pool apart rows clean (Leg.body_fate _ _) (by rintro ⟨⟩) (by rintro ⟨⟩)
  rcases query_cases held (fun _ _ => by rintro ⟨⟩) fits.2.clean performed with ⟨_, done⟩ | ⟨_, ⟨sql, same⟩, _⟩ |
    ⟨rfl, cut⟩
  · cases done
    exact ⟨err, .inl ⟨rfl, rfl⟩, step rfl (Wire.finish_apart _ _ _ _) rfl (Wire.finish_clean _ _ _ _)⟩
  · cases same
  · refine ⟨_, .inr rfl, step cut.pool cut.apart (cut.rows.resolve_right ?_) cut.clean⟩
    rintro ⟨_, _, ⟨⟩, _⟩

/-- **Every step of a call is one of these.** -/
theorem callStep {leg : Leg transaction} {op : WireOp} {reply : Except Err op.Reply}
    {next : Except Err op.Reply → Prog wireSignature Unit} (fits : leg.Fits env wire)
    (held : ∀ client, leg.client = some client → client ∉ wire.idle) (answers : lossless → choice ≠ .lose true)
    (awaits : leg.prog env call = .await op next)
    (performed : op.perform env.numeric choice wire = some (reply, wire')) :
    ∃ leg' : Leg transaction, next reply = leg'.prog env call ∧
      CallStep env lossless call transaction wire wire' leg leg' := by
  cases leg with
  | connecting =>
    cases awaits
    simp only [WireOp.perform] at performed
    split at performed
    · rename_i client rest idle
      cases performed
      exact ⟨.beginning client, rfl, .reused client rest idle rfl⟩
    · rename_i none
      split at performed
      · rename_i room
        cases performed
        exact ⟨.beginning wire.made, rfl, .made none room rfl⟩
      · cases performed
    · cases performed
      exact ⟨.reporting (.error .unavailable), rfl, .refused _ rfl⟩
    · cases performed
  | beginning client =>
    cases awaits
    rcases callStep_begin fits (held client rfl) performed with ⟨rfl, step⟩ | ⟨err, rfl, step⟩
    · exact ⟨_, rfl, step⟩
    · exact ⟨_, rfl, step⟩
  | body client rest =>
    cases rest with
    | await sql rest =>
      cases awaits
      exact ⟨_, rfl, callStep_statement fits (held client rfl) performed⟩
    | done result =>
      cases result with
      | ok value =>
        cases awaits
        rcases callStep_commit fits (held client rfl) answers performed with ⟨rfl, step⟩ | ⟨err, rfl, step⟩
        · exact ⟨_, rfl, step⟩
        · exact ⟨_, rfl, step⟩
      | error err =>
        cases awaits
        obtain ⟨err', ⟨rfl, rfl⟩ | rfl, step⟩ := callStep_rollback fits (held client rfl) performed
        · exact ⟨_, rfl, step⟩
        · exact ⟨_, rfl, step⟩
  | releasing client result =>
    cases awaits
    cases performed
    exact ⟨.reporting result, rfl, .releases client result rfl⟩
  | reporting result =>
    cases awaits
    cases performed
    exact ⟨.ended result, rfl, .settles result rfl⟩
  | ended result => cases awaits

end Steps

end SkillArena
