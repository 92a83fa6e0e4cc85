/-
**`withTransaction` over connections that break.**

Any number of calls share the pool, their commands interleave, connections break at any time and answers are lost.

* `transactions_atomic` — the wallets and the ledger are those of the committed calls one after the other; a call
  that resolves has been committed, once; a call that rejects has had no effect, unless the answer to its `COMMIT`
  was lost.
* `pool_sound` — there are at most twenty connections, each held by one call or idle; an idle one is clean, and no
  call that has ended holds one.
* `waits_for_others` — a call can go on unless all connections are held, or another call holds the wallet it needs.

The invariants of the connections (`Connected`) and of the history (`Logged`) are kept by every step of a call. They
do not depend on the order of the calls, so a step is one of the first call in the list.
-/

import SkillArena.Proof.Calls

namespace SkillArena

open Async
open Sql (Numeric)

/-! ### The connections of all calls -/

/-- A call, and where it stands. -/
structure Caller where
  call : ℕ
  transaction : Transaction
  leg : Leg transaction

namespace Caller

def key (caller : Caller) : ℕ × Transaction := (caller.call, caller.transaction)

def thread (env : Env) (caller : Caller) : (ℕ × Transaction) × Prog wireSignature Unit :=
  (caller.key, caller.leg.prog env caller.call)

def clients (caller : Caller) : List ℕ := caller.leg.client.toList

theorem mem_clients {caller : Caller} {client : ℕ} :
    client ∈ caller.clients ↔ caller.leg.client = some client := Option.mem_toList

end Caller

/-- **The pool in order**: at most twenty connections, held or idle, and none but the held ones in a transaction. -/
structure Wire.Pooled (wire : Wire) : Prop where
  apart : (wire.leased ++ wire.idle).Nodup
  bound : (wire.leased ++ wire.idle).length ≤ poolMax
  made : ∀ client ∈ wire.leased ++ wire.idle, client < wire.made
  whole : ∀ client ∈ wire.idle, wire.broken client = false
  clean : ∀ client, client ∉ wire.leased → wire.Clean client

namespace Wire.Pooled

variable {N : Numeric} {wire wire' : Wire} {client : ℕ}

/-- A connection that changed hands: what the pool has in all is the same. -/
theorem moved (pooled : wire.Pooled) (all : (wire'.leased ++ wire'.idle).Perm (wire.leased ++ wire.idle))
    (made : wire'.made = wire.made) (whole : ∀ client ∈ wire'.idle, wire'.broken client = false)
    (clean : ∀ client, client ∉ wire'.leased → wire'.Clean client) : wire'.Pooled where
  apart := all.nodup_iff.mpr pooled.apart
  bound := all.length_eq.trans_le pooled.bound
  made client member := by
    rw [made]
    exact pooled.made client (all.mem_iff.mp member)
  whole := whole
  clean := clean

theorem held_not_idle (pooled : wire.Pooled) (held : client ∈ wire.leased) : client ∉ wire.idle :=
  List.disjoint_of_nodup_append pooled.apart held

theorem command (pooled : wire.Pooled) (held : client ∈ wire.leased) (pool : wire'.pool = wire.pool)
    (apart : wire.Apart client wire') : wire'.Pooled := by
  obtain ⟨idle, leased, made, _⟩ : wire'.idle = wire.idle ∧ wire'.leased = wire.leased ∧
      wire'.made = wire.made ∧ _ := by simpa only [Wire.pool, Prod.mk.injEq] using pool
  refine pooled.moved (by rw [leased, idle]) made ?_ ?_
  · intro other member
    rw [idle] at member
    have ne : other ≠ client := fun same => pooled.held_not_idle held (same ▸ member)
    exact (apart.broken other ne).trans (pooled.whole other member)
  · intro other free
    rw [leased] at free
    have ne : other ≠ client := fun same => free (same ▸ held)
    exact (pooled.clean other free).apart apart ne

theorem reuse (pooled : wire.Pooled) {rest : List ℕ} (idle : wire.idle = client :: rest) :
    Wire.Pooled { wire with idle := rest, leased := client :: wire.leased } := by
  refine pooled.moved ?_ rfl (fun other member => pooled.whole other (idle ▸ .tail _ member))
    fun other free => pooled.clean other fun held => free (.tail _ held)
  rw [idle]
  exact List.perm_middle.symm

theorem make (pooled : wire.Pooled) (none : wire.idle = []) (room : wire.leased.length < poolMax) :
    Wire.Pooled { wire with leased := wire.made :: wire.leased, made := wire.made + 1 } where
  apart := List.nodup_cons.mpr ⟨fun member => lt_irrefl _ (pooled.made _ member), pooled.apart⟩
  bound := by
    show (wire.made :: (wire.leased ++ wire.idle)).length ≤ poolMax
    rw [none, List.append_nil]
    exact room
  made other member := by
    rcases List.mem_cons.mp member with rfl | old
    · exact Nat.lt_succ_self _
    · exact Nat.lt_succ_of_lt (pooled.made other old)
  whole := pooled.whole
  clean other free := pooled.clean other fun held => free (.tail _ held)

/-- A broken connection leaves the pool, a whole one is idle. -/
theorem release (pooled : wire.Pooled) (held : client ∈ wire.leased) (clean : wire.Clean client) :
    Wire.Pooled { wire with leased := wire.leased.erase client
                            idle := if wire.broken client then wire.idle else client :: wire.idle } := by
  have split : (client :: (wire.leased.erase client ++ wire.idle)).Perm (wire.leased ++ wire.idle) :=
    (List.perm_cons_erase held).symm.append_right wire.idle
  have clean : ∀ other, other ∉ wire.leased.erase client → wire.Clean other := by
    intro other free
    by_cases same : other = client
    · exact same ▸ clean
    · exact pooled.clean other fun held => free ((List.mem_erase_of_ne same).mpr held)
  by_cases broken : wire.broken client = true
  · rw [if_pos broken]
    refine ⟨(split.nodup_iff.mpr pooled.apart).of_cons, ?_, fun other member => ?_, pooled.whole, clean⟩
    · have fewer := split.length_eq
      have bound := pooled.bound
      rw [List.length_cons] at fewer
      show (wire.leased.erase client ++ wire.idle).length ≤ poolMax
      omega
    · exact pooled.made other (split.mem_iff.mp (.tail _ member))
  · rw [if_neg broken]
    refine pooled.moved (List.perm_middle.trans split) rfl (fun other member => ?_) clean
    rcases List.mem_cons.mp member with rfl | old
    · exact Bool.eq_false_iff.mpr broken
    · exact pooled.whole other old

/-- A connection breaks, whoever holds it. -/
theorem disconnect (pooled : wire.Pooled) (client : ℕ) : (wire.disconnect N client).Pooled := by
  have fewer : (wire.leased ++ wire.idle.erase client).Sublist (wire.leased ++ wire.idle) :=
    List.Sublist.append_left List.erase_sublist _
  refine ⟨fewer.nodup pooled.apart, fewer.length_le.trans pooled.bound,
    fun other member => pooled.made other (fewer.subset member), fun other member => ?_, fun other free => ?_⟩
  · obtain ⟨ne, idle⟩ := (List.Nodup.mem_erase_iff pooled.apart.of_append_right).mp member
    exact (Function.update_of_ne ne _ _).trans (pooled.whole other idle)
  · by_cases same : other = client
    · exact same ▸ Wire.disconnect_clean
    · exact (pooled.clean other free).apart (Wire.disconnect_apart ..) same

end Wire.Pooled

namespace Leg

variable {env : Env} {wire wire' : Wire} {transaction : Transaction} {leg : Leg transaction} {client : ℕ}

/-- **A command over another connection**, even a commit. -/
theorem Fits.apart (fits : leg.Fits env wire) (other : leg.client ≠ some client) (apart : wire.Apart client wire')
    (rows : wire'.sessions.db = wire.sessions.db ∨ (wire'.sessions.db = wire.sessions.view env.numeric client ∧
      ∀ sql ∈ wire.sessions.sent client, ∀ user, sql.row = some user →
        (wire.sessions.db.wallets user).isSome = true → wire.sessions.locks user = some client)) :
    leg.Fits env wire' := by
  have ne : ∀ {own}, leg.client = some own → own ≠ client := fun here same => other (same ▸ here)
  cases leg with
  | connecting | reporting | ended => trivial
  | beginning | releasing => exact Wire.Clean.apart fits apart (ne rfl)
  | body own rest =>
    have ne : own ≠ client := ne rfl
    have broken := apart.broken own ne
    have status := apart.status own ne
    refine ⟨fits.1, ?_⟩
    rcases fits.2 with ⟨whole, underway, opened⟩ | ⟨whole, failed, ended⟩ | ⟨cut, clean⟩
    · refine .inl ⟨broken.trans whole, status.trans underway, ?_⟩
      have locks := fun user => (apart.locks user own ne).mpr
      rcases rows with rows | ⟨rows, theirs⟩
      · exact opened.stay (apart.sent own ne) rows locks
      · exact opened.after_commit (Ne.symm ne) theirs (apart.sent own ne) rows locks
    · exact .inr (.inl ⟨broken.trans whole, status.trans failed, ended⟩)
    · exact .inr (.inr ⟨broken.trans cut, clean.apart apart ne⟩)

/-- A connection breaks, this one or another. -/
theorem Fits.disconnect (fits : leg.Fits env wire) (client : ℕ) :
    leg.Fits env (wire.disconnect env.numeric client) := by
  by_cases mine : leg.client = some client
  · cases leg with
    | connecting | reporting | ended => cases mine
    | beginning | releasing =>
      cases mine
      exact Wire.disconnect_clean
    | body own rest =>
      cases mine
      exact ⟨fits.1, .inr (.inr ⟨Wire.disconnect_broken, Wire.disconnect_clean⟩)⟩
  · exact fits.apart mine (Wire.disconnect_apart ..) (.inl rfl)

end Leg

/-- **The connections in order**: the pool, who holds its connections, and what is going on over them. -/
structure Connected (env : Env) (wire : Wire) (callers : List Caller) : Prop where
  pooled : wire.Pooled
  calls : (callers.map (·.call)).Perm wire.calls
  one : wire.calls.Nodup
  held : (callers.flatMap Caller.clients).Perm wire.leased
  fits : ∀ caller ∈ callers, caller.leg.Fits env wire
  settled : ∀ told ∈ wire.settled, ⟨told.call, told.transaction, .ended told.result⟩ ∈ callers

namespace Connected

variable {env : Env} {lossless : Prop} {wire wire' : Wire} {callers callers' others : List Caller} {caller : Caller}
  {call : ℕ} {transaction : Transaction} {leg leg' : Leg transaction}

theorem perm (connected : Connected env wire callers) (same : callers.Perm callers') :
    Connected env wire callers' where
  pooled := connected.pooled
  calls := (same.symm.map _).trans connected.calls
  one := connected.one
  held := (same.symm.flatMap_right _).trans connected.held
  fits caller member := connected.fits caller (same.mem_iff.mpr member)
  settled told member := same.mem_iff.mp (connected.settled told member)

theorem leased (connected : Connected env wire callers) (member : caller ∈ callers) (client : ℕ)
    (holds : caller.leg.client = some client) : client ∈ wire.leased :=
  connected.held.mem_iff.mp (List.mem_flatMap.mpr ⟨caller, member, Caller.mem_clients.mpr holds⟩)

/-- One call takes a step: what it does to itself, and what it leaves to the others. -/
theorem replace (connected : Connected env wire (⟨call, transaction, leg⟩ :: others)) (pooled : wire'.Pooled)
    (calls : wire'.calls = wire.calls)
    (held : ∀ rest, (leg.client.toList ++ rest).Perm wire.leased → (leg'.client.toList ++ rest).Perm wire'.leased)
    (stay : ∀ other : Caller, (∀ client, leg.client = some client → other.leg.client ≠ some client) →
      other.leg.Fits env wire → other.leg.Fits env wire')
    (self : leg'.Fits env wire') (running : ∀ result, leg ≠ .ended result)
    (settled : ∀ told ∈ wire'.settled, told ∈ wire.settled ∨
      (⟨told.call, told.transaction, .ended told.result⟩ : Caller) = ⟨call, transaction, leg'⟩) :
    Connected env wire' (⟨call, transaction, leg'⟩ :: others) := by
  have before : (leg.client.toList ++ others.flatMap Caller.clients).Perm wire.leased := connected.held
  refine ⟨pooled, calls ▸ connected.calls, calls ▸ connected.one, held _ before, fun other member => ?_,
    fun told member => ?_⟩
  · rcases List.mem_cons.mp member with rfl | there
    · exact self
    · refine stay other (fun client mine theirs => ?_) (connected.fits other (.tail _ there))
      have nodup := before.nodup_iff.mpr connected.pooled.apart.of_append_left
      exact List.disjoint_of_nodup_append nodup (Option.mem_toList.mpr mine)
        (List.mem_flatMap.mpr ⟨other, there, Caller.mem_clients.mpr theirs⟩)
  · rcases settled told member with old | new
    · rcases List.mem_cons.mp (connected.settled told old) with same | there
      · cases same
        exact absurd rfl (running _)
      · exact .tail _ there
    · exact new ▸ .head _

/-- **Every step keeps the connections in order.** -/
theorem step (connected : Connected env wire (⟨call, transaction, leg⟩ :: others))
    (step : CallStep env lossless call transaction wire wire' leg leg') :
    Connected env wire' (⟨call, transaction, leg'⟩ :: others) := by
  have pooled := connected.pooled
  have fits := connected.fits _ (.head _)
  cases step with
  | refused err same =>
    subst same
    exact connected.replace pooled rfl (fun _ before => before) (fun _ _ fits => fits) trivial
      (fun _ => by rintro ⟨⟩) fun told member => .inl member
  | reused client rest idle new =>
    subst new
    have free : client ∉ wire.leased := fun held => pooled.held_not_idle held (idle ▸ .head _)
    exact connected.replace (pooled.reuse idle) rfl (fun _ before => before.cons _) (fun _ _ fits => fits)
      (pooled.clean client free) (fun _ => by rintro ⟨⟩) fun told member => .inl member
  | made none room new =>
    subst new
    have free : wire.made ∉ wire.leased := fun held =>
      lt_irrefl _ (pooled.made _ (List.mem_append_left _ held))
    exact connected.replace (pooled.make none room) rfl (fun _ before => before.cons _) (fun _ _ fits => fits)
      (pooled.clean wire.made free) (fun _ => by rintro ⟨⟩) fun told member => .inl member
  | command client mine still pool apart self rows =>
    have changed : wire'.sessions.db = wire.sessions.db ∨
        (wire'.sessions.db = wire.sessions.view env.numeric client ∧ ∀ sql ∈ wire.sessions.sent client, ∀ user,
          sql.row = some user → (wire.sessions.db.wallets user).isSome = true →
            wire.sessions.locks user = some client) := by
      cases rows with
      | kept rows => exact .inl rows
      | committed value here opened rows => exact .inr ⟨rows, opened.locked⟩
    have held := connected.leased (.head _) client mine
    obtain ⟨_, leased, _, calls, settled⟩ : _ ∧ wire'.leased = wire.leased ∧ _ ∧ wire'.calls = wire.calls ∧
        wire'.settled = wire.settled := by simpa only [Wire.pool, Prod.mk.injEq] using pool
    refine connected.replace (pooled.command held pool apart) calls ?_
      (fun other ne fits => fits.apart (ne client mine) apart changed) self ?_ ?_
    · rw [leased, mine, still]
      exact fun _ before => before
    · rintro result rfl
      cases mine
    · rw [settled]
      exact fun told member => .inl member
  | releases client result new =>
    subst new
    have held := connected.leased (.head _) client rfl
    refine connected.replace (pooled.release held fits) rfl (fun rest before => ?_) (fun _ _ fits => fits) trivial
      (fun _ => by rintro ⟨⟩) fun told member => .inl member
    have before : (client :: rest).Perm wire.leased := before
    exact (before.trans (List.perm_cons_erase held)).cons_inv
  | settles result new =>
    subst new
    refine connected.replace ⟨pooled.apart, pooled.bound, pooled.made, pooled.whole, pooled.clean⟩ rfl
      (fun _ before => before) (fun _ _ fits => fits) trivial (fun _ => by rintro ⟨⟩) fun told member => ?_
    rcases List.mem_append.mp member with old | new
    · exact .inl old
    · cases List.mem_singleton.mp new
      exact .inr rfl

/-- A call begins. -/
theorem start (connected : Connected env wire callers) (call : ℕ) (transaction : Transaction)
    (fresh : call ∉ wire.calls) :
    Connected env { wire with calls := wire.calls ++ [call] } (callers ++ [⟨call, transaction, .connecting⟩]) where
  pooled := ⟨connected.pooled.apart, connected.pooled.bound, connected.pooled.made, connected.pooled.whole,
    connected.pooled.clean⟩
  calls := by
    rw [List.map_append]
    exact connected.calls.append_right _
  one := List.nodup_append.mpr ⟨connected.one, List.nodup_singleton _, by
    rintro old before _ new rfl
    exact fresh (List.mem_singleton.mp new ▸ before)⟩
  held := by
    rw [List.flatMap_append]
    exact (List.append_nil _).symm ▸ connected.held
  fits caller member := by
    rcases List.mem_append.mp member with before | new
    · exact connected.fits caller before
    · cases List.mem_singleton.mp new
      trivial
  settled told member := List.mem_append_left _ (connected.settled told member)

theorem disconnect (connected : Connected env wire callers) (client : ℕ) :
    Connected env (wire.disconnect env.numeric client) callers :=
  ⟨connected.pooled.disconnect client, connected.calls, connected.one, connected.held,
    fun caller member => (connected.fits caller member).disconnect client, connected.settled⟩

theorem idle (env : Env) (db : Db) : Connected env { sessions := { db } } [] where
  pooled := ⟨.nil, Nat.zero_le _, fun _ member => absurd member List.not_mem_nil,
    fun _ member => absurd member List.not_mem_nil, fun _ _ => ⟨rfl, fun _ => by rintro ⟨⟩, rfl⟩⟩
  calls := .refl _
  one := .nil
  held := .refl _
  fits _ member := absurd member List.not_mem_nil
  settled _ member := absurd member List.not_mem_nil

end Connected

/-! ### The history -/

/-- **The committed calls one after the other**, each transaction in one step on the wallets and the ledger of the
one before. -/
inductive Serially (env : Env) (start : Db) : List (ℕ × Transaction) → Db → Prop
  | nil : Serially env start [] start
  | commit {log : List (ℕ × Transaction)} {db before after db' : Db} {call : ℕ} {transaction : Transaction}
      {reply : transaction.Reply} (earlier : Serially env start log db) (found : SameMoney before db)
      (ran : transaction.run env before = (.ok reply, after)) (left : SameMoney after db') :
      Serially env start (log ++ [(call, transaction)]) db'

/-- **What a call knows of its commit**: a call that is to resolve is in the history; one about which nothing is
settled is not, and one that is to reject neither, if no answer is lost. -/
structure Caller.Told (lossless : Prop) (log : List (ℕ × Transaction)) (caller : Caller) : Prop where
  ok : caller.leg.fate = some true → caller.key ∈ log
  not : caller.leg.fate ≠ some true → caller.leg.fate = none ∨ lossless → ∀ commit ∈ log, commit.1 ≠ caller.call

/-- **The history in order.** -/
structure Logged (env : Env) (lossless : Prop) (start : Db) (wire : Wire) (callers : List Caller)
    (log : List (ℕ × Transaction)) : Prop where
  serial : Serially env start log wire.sessions.db
  one : (log.map Prod.fst).Nodup
  known : ∀ commit ∈ log, commit ∈ callers.map Caller.key
  told : ∀ caller ∈ callers, caller.Told lossless log

namespace Logged

variable {env : Env} {lossless : Prop} {start : Db} {wire wire' : Wire} {callers callers' others : List Caller}
  {log : List (ℕ × Transaction)} {call : ℕ} {transaction : Transaction} {leg leg' : Leg transaction}

theorem perm (logged : Logged env lossless start wire callers log) (same : callers.Perm callers') :
    Logged env lossless start wire callers' log where
  serial := logged.serial
  one := logged.one
  known commit member := (same.map _).mem_iff.mp (logged.known commit member)
  told caller member := logged.told caller (same.mem_iff.mpr member)

/-- **A step without a commit.** -/
theorem quiet (logged : Logged env lossless start wire (⟨call, transaction, leg⟩ :: others) log)
    (rows : wire'.sessions.db = wire.sessions.db) (success : leg'.fate = some true ↔ leg.fate = some true)
    (pending : leg'.fate = none → leg.fate = none) :
    Logged env lossless start wire' (⟨call, transaction, leg'⟩ :: others) log where
  serial := rows ▸ logged.serial
  one := logged.one
  known := logged.known
  told caller member := by
    rcases List.mem_cons.mp member with rfl | there
    · have before := logged.told _ (.head _)
      exact ⟨fun ok => before.ok (success.mp ok), fun failed sure =>
        before.not (fun ok => failed (success.mpr ok)) (sure.imp_left pending)⟩
    · exact logged.told caller (.tail _ there)

/-- **A commit**: the transaction in one step, and one more entry. -/
theorem commits {client : ℕ} {value : transaction.Reply}
    (logged : Logged env lossless start wire (⟨call, transaction, leg⟩ :: others) log)
    (nodup : (call :: others.map (·.call)).Nodup) (here : leg.fate = none)
    (opened : Open env wire.sessions (client, transaction) (.done (.ok value)))
    (rows : wire'.sessions.db = wire.sessions.view env.numeric client)
    (told : leg'.fate = some true ∨ (¬ lossless ∧ leg'.fate = some false)) :
    Logged env lossless start wire' (⟨call, transaction, leg'⟩ :: others) (log ++ [(call, transaction)]) := by
  have fresh := (logged.told _ (.head _)).not (by rw [here]; rintro ⟨⟩) (.inl here)
  have path := opened.path.resolve_right (by rintro ⟨err, ⟨⟩⟩)
  obtain ⟨before, reply, after, money, ran, money'⟩ := (ends_enacts ⟨path, rfl⟩).oneStep
  refine ⟨.commit logged.serial money ran (rows ▸ money'), ?_, fun commit member => ?_, fun caller member => ?_⟩
  · rw [List.map_append, List.nodup_append]
    refine ⟨logged.one, List.nodup_singleton _, ?_⟩
    rintro other old _ last rfl
    obtain ⟨commit, inside, rfl⟩ := List.mem_map.mp old
    exact fresh commit inside (List.mem_singleton.mp last)
  · rcases List.mem_append.mp member with old | last
    · exact logged.known commit old
    · exact List.mem_singleton.mp last ▸ .head _
  · rcases List.mem_cons.mp member with rfl | there
    · rcases told with ok | ⟨lossy, failed⟩
      · exact ⟨fun _ => List.mem_append_right _ (.head _), fun failed => absurd ok failed⟩
      · refine ⟨fun ok => ?_, fun _ sure => absurd (sure.resolve_left fun none => ?_) lossy⟩
        · cases failed.symm.trans ok
        · cases failed.symm.trans none
    · have before := logged.told caller (.tail _ there)
      refine ⟨fun ok => List.mem_append_left _ (before.ok ok), fun failed sure commit member => ?_⟩
      rcases List.mem_append.mp member with old | last
      · exact before.not failed sure commit old
      · cases List.mem_singleton.mp last
        rintro rfl
        exact (List.nodup_cons.mp nodup).1 (List.mem_map.mpr ⟨caller, there, rfl⟩)

/-- **Every step keeps the history in order.** -/
theorem step (logged : Logged env lossless start wire (⟨call, transaction, leg⟩ :: others) log)
    (nodup : (call :: others.map (·.call)).Nodup)
    (step : CallStep env lossless call transaction wire wire' leg leg') :
    ∃ log', Logged env lossless start wire' (⟨call, transaction, leg'⟩ :: others) log' := by
  cases step with
  | refused err same =>
    exact ⟨log, logged.quiet (same ▸ rfl) (iff_of_false (by rintro ⟨⟩) (by rintro ⟨⟩)) (by rintro ⟨⟩)⟩
  | reused client rest idle new => exact ⟨log, logged.quiet (new ▸ rfl) Iff.rfl id⟩
  | made none room new => exact ⟨log, logged.quiet (new ▸ rfl) Iff.rfl id⟩
  | command client mine still pool apart self rows =>
    cases rows with
    | kept rows success pending => exact ⟨log, logged.quiet rows success pending⟩
    | committed value here opened rows told => exact ⟨_, logged.commits nodup here opened rows told⟩
  | releases client result new => exact ⟨log, logged.quiet (new ▸ rfl) Iff.rfl id⟩
  | settles result new => exact ⟨log, logged.quiet (new ▸ rfl) Iff.rfl id⟩

end Logged

/-! ### Every run -/

theorem perm_set {α : Type} {xs : List α} {index : ℕ} {x : α} (found : xs[index]? = some x) (y : α) :
    xs.Perm (x :: xs.eraseIdx index) ∧ (y :: xs.eraseIdx index).Perm (xs.set index y) := by
  obtain ⟨inside, rfl⟩ := List.getElem?_eq_some_iff.mp found
  have inside' : index < (xs.set index y).length := by rwa [List.length_set]
  have set := List.getElem_cons_eraseIdx_perm inside'
  rw [List.getElem_set_self, List.eraseIdx_set_eq] at set
  exact ⟨(List.getElem_cons_eraseIdx_perm inside).symm, set⟩

/-- **What the wire keeps.** -/
def Serviced (env : Env) (lossless : Prop) (start : Db) (c : WireConfig) : Prop :=
  ∃ callers log, c.threads = callers.map (Caller.thread env) ∧ Connected env c.state callers ∧
    Logged env lossless start c.state callers log

/-- No answer of a command that was carried out is lost. -/
def answersArrive : Move (ℕ × Transaction) WireChoice ℕ → Bool
  | .step _ choice => choice ≠ .lose true
  | _ => true

theorem serviced {env : Env} (lossless : Prop) {start : Db} {c : WireConfig}
    (run : Reaches (wireServer env) (fun _ move => lossless → answersArrive move = true)
      ⟨{ sessions := { db := start } }, []⟩ c) : Serviced env lossless start c := by
  refine run.invariant (Serviced env lossless start) ⟨[], [], rfl, .idle env start, ?_⟩ ?_
  · exact ⟨.nil, .nil, fun _ member => absurd member List.not_mem_nil,
      fun _ member => absurd member List.not_mem_nil⟩
  rintro c move c' ⟨callers, log, threads, connected, logged⟩ allowed moved
  rcases Machine.move_cases moved with ⟨⟨call, transaction⟩, state, rfl, arrived, rfl⟩ |
    ⟨index, choice, event, op, next, reply, state, rfl, found, performed, rfl⟩ | ⟨client, state, rfl, acted, rfl⟩
  · simp only [wireServer] at arrived
    split at arrived
    · cases arrived
    · rename_i fresh
      cases arrived
      refine ⟨callers ++ [⟨call, transaction, .connecting⟩], log, ?_, connected.start call transaction fresh, ?_⟩
      · rw [List.map_append, ← threads]
        rfl
      · refine ⟨logged.serial, logged.one, fun commit member => ?_, fun caller member => ?_⟩
        · rw [List.map_append]
          exact List.mem_append_left _ (logged.known commit member)
        · rcases List.mem_append.mp member with before | new
          · exact logged.told caller before
          · cases List.mem_singleton.mp new
            refine ⟨by rintro ⟨⟩, fun _ _ commit inside same => fresh (connected.calls.mem_iff.mp ?_)⟩
            obtain ⟨caller, there, rfl⟩ := List.mem_map.mp (logged.known commit inside)
            exact List.mem_map.mpr ⟨caller, there, same⟩
  · rw [threads, List.getElem?_map] at found
    obtain ⟨⟨call, transaction, leg⟩, here, same⟩ := Option.map_eq_some_iff.mp found
    obtain ⟨rfl, awaits⟩ := Prod.mk.inj same
    have member := List.mem_of_getElem? here
    have held := fun client holds => connected.pooled.held_not_idle (connected.leased member client holds)
    have answers : lossless → choice ≠ .lose true := fun sure => of_decide_eq_true (allowed sure)
    obtain ⟨leg', rest, step⟩ := callStep (connected.fits _ member) held answers awaits performed
    obtain ⟨first, back⟩ := perm_set here ⟨call, transaction, leg'⟩
    have connected := connected.perm first
    obtain ⟨log', logged'⟩ := (logged.perm first).step (connected.calls.nodup_iff.mpr connected.one) step
    refine ⟨_, log', ?_, (connected.step step).perm back, logged'.perm back⟩
    show c.threads.set index _ ++ [] = _
    rw [List.append_nil, threads, List.map_set, rest]
    rfl
  · simp only [wireServer] at acted
    split at acted
    · cases acted
      exact ⟨callers, log, threads, connected.disconnect client,
        ⟨logged.serial, logged.one, logged.known, logged.told⟩⟩
    · cases acted

/-- Call 0 pays in for user 1. Call 1 pays in for user 2, and its connection breaks after the first statement. -/
def oneBreaks : List (Move (ℕ × Transaction) WireChoice ℕ) :=
  [.start (0, .deposit 1 50), .start (1, .deposit 2 50), .step 0 .proceed, .step 1 .proceed, .step 1 .proceed,
    .step 0 .proceed, .step 0 .proceed, .step 1 .proceed, .step 1 (.lose false), .step 1 .proceed, .step 1 .proceed,
    .step 1 .proceed] ++ List.replicate 5 (.step 0 .proceed)

theorem Leg.head_of_client {env : Env} {transaction : Transaction} {leg : Leg transaction} {call client : ℕ}
    (holds : leg.client = some client) : (leg.prog env call).head.isSome = true := by
  cases leg with
  | connecting | reporting | ended => cases holds
  | beginning | releasing => rfl
  | body client rest =>
    cases rest with
    | await sql next => rfl
    | done result =>
      cases result with
      | ok | error => rfl

theorem Leg.client_of_query {env : Env} {transaction : Transaction} {leg : Leg transaction} {call client : ℕ}
    {command : Command} {next : Except Err command.Reply → Prog wireSignature Unit}
    (awaits : leg.prog env call = .await (.query client command) next) : leg.client = some client := by
  cases leg with
  | connecting | reporting | ended | releasing => cases awaits
  | beginning =>
    cases awaits
    rfl
  | body own rest =>
    cases rest with
    | await sql rest =>
      cases awaits
      rfl
    | done result =>
      cases result with
      | ok | error =>
        cases awaits
        rfl

/-- An operation that cannot go on: no connection is free, or another connection has locked the row. -/
theorem stuck_cases {N : Numeric} {wire : Wire} {op : WireOp} (pooled : wire.Pooled)
    (stuck : op.perform N .proceed wire = none) :
    (op = .connect ∧ wire.leased.length = poolMax) ∨ ∃ client sql user owner, op = .query client (.statement sql) ∧
      sql.row = some user ∧ wire.sessions.locks user = some owner ∧ owner ≠ client := by
  cases op with
  | connect =>
    cases none : wire.idle with
    | cons client rest =>
      simp only [WireOp.perform, none] at stuck
      cases stuck
    | nil =>
      simp only [WireOp.perform, none] at stuck
      split at stuck
      · cases stuck
      · rename_i full
        have bound := pooled.bound
        rw [none, List.append_nil] at bound
        exact .inl ⟨rfl, Nat.le_antisymm bound (not_lt.mp full)⟩
  | query client command =>
    simp only [WireOp.perform] at stuck
    split at stuck
    · cases stuck
    · have blocked : ∃ sql, command = .statement sql ∧ wire.sessions.blocked N client sql = true := by
        cases command with
        | begin =>
          simp only [Wire.carryOut] at stuck
          split at stuck
          all_goals cases stuck
        | commit | rollback => cases stuck
        | statement sql =>
          refine ⟨sql, rfl, ?_⟩
          simp only [Wire.carryOut, Wire.execute] at stuck
          split at stuck
          · cases stuck
          · split at stuck
            · assumption
            · cases stuck
          · split at stuck
            · assumption
            · cases stuck
      obtain ⟨sql, rfl, blocked⟩ := blocked
      unfold Sessions.blocked at blocked
      cases row : wire.sessions.rowOf N client sql with
      | none =>
        rw [row] at blocked
        cases blocked
      | some user =>
        rw [row] at blocked
        obtain ⟨owner, owned, other⟩ := (Option.any_eq_true _ _).mp blocked
        exact .inr ⟨client, sql, user, owner, rfl, (Option.filter_eq_some_iff.mp row).1, owned,
          by simpa using other⟩
  | release | settle => cases stuck

end SkillArena
