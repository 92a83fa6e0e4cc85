/-
**Deadlocks of the wallet transactions.**

A match creation and a refund lock the wallet of player A and then that of player B; a payout locks the loser's and
then the winner's. Two users meet in both roles, so a creation and a payout can each have the row the other
waits for (`creation_and_payout_deadlock`).

The circle is in the arguments already: `ordered_no_deadlock` shows for every run that no client waits for
itself through others, as long as the transactions in flight agree on an order of the users in which each locks
its rows. Every transaction takes its rows in the order `Transaction.lockOrder` (`body_acquires`), the invariant
`Held` says that the lock table is what the sessions have taken, and `Locks.no_cycle` does the rest. A session
by itself commits what the transaction commits as one step of the backend (`session_alone`).
-/

import SkillArena.Model.Sessions
import SkillArena.Proof.Guard

namespace SkillArena

open Async
open Sql (Numeric)

/-! ### One transaction -/

/-- The wallets of a transaction, in the order it locks them. -/
def Transaction.lockOrder : Transaction → List UserId
  | deposit user _ | creditVerified user .. | creditWebhook user .. | withdraw user .. => [user]
  | createMatch _ playerA playerB .. | refundBothPlayers playerA playerB .. => [playerA, playerB]
  | releaseEscrowToWinner winner loser .. => [loser, winner]

/-- **Rows are taken in an order.** The phase is the list of the rows that are taken; a `SELECT … FOR UPDATE`
takes the next row, an `UPDATE` is of a row that is taken already. -/
def acquiring (order : List UserId) : Contract sqlSignature where
  Phase := List UserId
  may taken
    | .selectWallet user => ∃ rest, order = taken ++ user :: rest
    | .updateWallet user _ => user ∈ taken
    | _ => True
  answers _ _ _ := True
  after taken
    | .selectWallet user, .ok (some _) => taken ++ [user]
    | _, _ => taken

section Bodies

variable {order taken : List UserId} {user : UserId} {α : Type}

theorem select_acquires {rest : Option Wallet → SqlTask α} {post : Except Err α → List UserId → Prop}
    (next : ∃ more, order = taken ++ user :: more)
    (found : ∀ wallet, (rest (some wallet)).Keeps (acquiring order) (taken ++ [user]) post)
    (missing : (rest none).Keeps (acquiring order) taken post) (failed : ∀ err, post (.error err) taken) :
    ((Statement.selectWallet user).query >>= rest).Keeps (acquiring order) taken post := by
  refine ⟨next, fun reply _ => ?_⟩
  rcases reply with err | missed | wallet
  · exact failed err
  · exact missing
  · exact found wallet

theorem plain_acquires {sql : Statement} {rest : sql.Reply → SqlTask α}
    {post : Except Err α → List UserId → Prop} (plain : sql.row = none)
    (later : ∀ reply, (rest reply).Keeps (acquiring order) taken post) (failed : ∀ err, post (.error err) taken) :
    (sql.query >>= rest).Keeps (acquiring order) taken post := by
  have stable : sql.query.Stable (acquiring order) (· = taken) := by
    rintro _ rfl
    cases sql with
    | selectWallet user => cases plain
    | updateWallet user set => cases plain
    | _ => exact ⟨trivial, fun _ _ => rfl⟩
  exact stable.keeps_bind later failed

theorem update_acquires {set : WalletSet} {rest : Unit → SqlTask α} {post : Except Err α → List UserId → Prop}
    (later : ∀ reply, (rest reply).Keeps (acquiring order) (taken ++ [user]) post)
    (failed : ∀ err, post (.error err) (taken ++ [user])) :
    ((Statement.updateWallet user set).query >>= rest).Keeps (acquiring order) (taken ++ [user]) post := by
  refine ⟨List.mem_append_right _ (.head _), fun reply _ => ?_⟩
  cases reply with
  | error err => exact failed err
  | ok value => exact later value

theorem lockFunds_acquires (fee : ℚ) (matchId : MatchId) (next : ∃ more, order = taken ++ user :: more) :
    (lockFundsForMatch user fee matchId).Keeps (acquiring order) taken fun result taken' =>
      ∀ value, result = .ok value → taken' = taken ++ [user] := by
  refine select_acquires next (fun wallet => ?_) nofun nofun
  dsimp only
  split
  · exact nofun
  · refine update_acquires (fun _ => ?_) nofun
    exact ⟨trivial, fun _ _ _ _ => rfl⟩

/-- The loop of `refundBothPlayers`, by induction on the players that are left. -/
theorem refundPlayers_acquires (fee : ℚ) (matchId : MatchId) (players taken : List UserId)
    (next : order = taken ++ players) :
    (refundPlayers fee matchId players).Keeps (acquiring order) taken fun _ _ => True := by
  induction players generalizing taken with
  | nil => exact trivial
  | cons user rest ih =>
    refine select_acquires ⟨rest, next⟩ (fun wallet => ?_) trivial fun _ => trivial
    refine update_acquires (fun _ => ?_) fun _ => trivial
    refine plain_acquires rfl (fun _ => ih _ ?_) fun _ => trivial
    rw [next, List.append_assoc, List.singleton_append]

end Bodies

/-- **Every transaction takes its rows in its lock order.** -/
theorem body_acquires (env : Env) (transaction : Transaction) :
    (transaction.body env).Keeps (acquiring transaction.lockOrder) [] fun _ _ => True := by
  cases transaction with
  | deposit user amount =>
    show Task.Keeps _ _ (SkillArena.deposit user amount) _
    unfold SkillArena.deposit
    split
    · exact trivial
    · refine select_acquires ⟨[], rfl⟩ (fun wallet => ?_) trivial fun _ => trivial
      refine update_acquires (fun _ => ?_) fun _ => trivial
      exact plain_acquires rfl (fun _ => trivial) fun _ => trivial
  | createMatch matchId playerA playerB problemId fee =>
    refine plain_acquires rfl (fun _ => ?_) fun _ => trivial
    have first : ∃ more, [playerA, playerB] = [] ++ playerA :: more := ⟨[playerB], rfl⟩
    have second : ∃ more, [playerA, playerB] = [playerA] ++ playerB :: more := ⟨[], rfl⟩
    refine (Task.keeps_bind _ _ _ _).mpr ((lockFunds_acquires fee matchId first).mono ?_)
    rintro (err | value) taken locked
    · trivial
    · cases locked value rfl
      exact (lockFunds_acquires fee matchId second).mono fun _ _ _ => trivial
  | releaseEscrowToWinner winner loser fee matchId =>
    refine select_acquires ⟨[winner], rfl⟩ (fun wallet => ?_) trivial fun _ => trivial
    refine update_acquires (fun _ => ?_) fun _ => trivial
    refine select_acquires ⟨[], rfl⟩ (fun wallet => ?_) trivial fun _ => trivial
    refine update_acquires (fun _ => ?_) fun _ => trivial
    refine plain_acquires rfl (fun _ => ?_) fun _ => trivial
    exact plain_acquires rfl (fun _ => trivial) fun _ => trivial
  | refundBothPlayers playerA playerB fee matchId =>
    exact refundPlayers_acquires fee matchId [playerA, playerB] [] rfl
  | creditVerified user order payment amount =>
    refine select_acquires ⟨[], rfl⟩ (fun wallet => ?_) trivial fun _ => trivial
    refine update_acquires (fun _ => ?_) fun _ => trivial
    exact plain_acquires rfl (fun _ => trivial) fun _ => trivial
  | creditWebhook user payment amount =>
    refine select_acquires ⟨[], rfl⟩ (fun wallet => ?_) trivial fun _ => trivial
    exact update_acquires (fun _ => ⟨trivial, fun _ _ => trivial⟩) fun _ => trivial
  | withdraw user amount upiId =>
    refine select_acquires ⟨[], rfl⟩ (fun wallet => ?_) trivial fun _ => trivial
    dsimp only
    split
    · exact trivial
    · refine update_acquires (fun _ => ?_) fun _ => trivial
      refine plain_acquires rfl (fun _ => ?_) fun _ => trivial
      exact plain_acquires rfl (fun _ => trivial) fun _ => trivial

/-! ### Sessions -/

/-- A session: the client with its transaction, and the rows it has taken while the transaction is open. -/
abbrev Tenure := (ℕ × Transaction) × Option (List UserId)

/-- **The contract of a session.** -/
def tenancy : Contract sessionSignature where
  Phase := Tenure
  may phase op :=
    match phase.2, op with
    | some taken, .statement client sql =>
      client = phase.1.1 ∧ (acquiring phase.1.2.lockOrder).may taken sql
    | some _, .finish client _ => client = phase.1.1
    | none, _ => False
  answers _ _ _ := True
  after phase
    | .statement _ sql, reply =>
      (phase.1, phase.2.map fun taken => (acquiring phase.1.2.lockOrder).after taken sql reply)
    | .finish .., _ => (phase.1, none)

/-- The program of a session keeps its contract, by induction on the body. -/
theorem session_keeps {α : Type} {event : ℕ × Transaction} {taken : List UserId}
    {prog : Prog sqlSignature (Except Err α)}
    (acquires : prog.Keeps (acquiring event.2.lockOrder) taken fun _ _ => True) :
    (session event.1 prog).Keeps tenancy (event, some taken) fun _ phase => phase.2 = none := by
  induction prog generalizing taken with
  | done result =>
    cases result with
    | error err => exact ⟨rfl, fun _ _ => rfl⟩
    | ok value => exact ⟨rfl, fun _ _ => rfl⟩
  | await sql next ih => exact ⟨⟨rfl, acquires.1⟩, fun reply _ => ih reply (acquires.2 reply trivial)⟩

def Takes (phases : List ((ℕ × Transaction) × Tenure)) (user : UserId) (client : ℕ) : Prop :=
  ∃ (index : ℕ) (event : ℕ × Transaction) (taken : List UserId),
    phases[index]? = some (event, (event, some taken)) ∧ event.1 = client ∧ user ∈ taken

/-- Every client has one session. -/
def OneEach (phases : List ((ℕ × Transaction) × Tenure)) : Prop :=
  ∀ (index index' : ℕ) (event event' : ℕ × Transaction) (phase phase' : Tenure),
    phases[index]? = some (event, phase) → phases[index']? = some (event', phase') →
      event.1 = event'.1 → index = index'

section Takes

variable {phases : List ((ℕ × Transaction) × Tenure)} {index : ℕ} {event : ℕ × Transaction}
  {stage stage' : Option (List UserId)} {user : UserId} {client : ℕ}

theorem takes_self (one : OneEach phases) (found : phases[index]? = some (event, (event, stage))) :
    Takes phases user event.1 ↔ ∃ taken, stage = some taken ∧ user ∈ taken := by
  constructor
  · rintro ⟨index', event', taken, found', same, inside⟩
    cases one _ _ _ _ _ _ found' found same
    rw [found] at found'
    cases found'
    exact ⟨taken, rfl, inside⟩
  · rintro ⟨taken, rfl, inside⟩
    exact ⟨index, event, taken, found, rfl, inside⟩

theorem set_iff (found : phases[index]? = some (event, (event, stage))) {i : ℕ} {e : ℕ × Transaction}
    {phase : Tenure} : (phases.set index (event, (event, stage')))[i]? = some (e, phase) ↔
      (i = index ∧ e = event ∧ phase = (event, stage')) ∨ (i ≠ index ∧ phases[i]? = some (e, phase)) := by
  by_cases here : i = index
  · subst here
    rw [List.getElem?_set_self (List.getElem?_eq_some_iff.mp found).1]
    simp [eq_comm]
  · rw [List.getElem?_set_ne (Ne.symm here)]
    simp [here]

theorem oneEach_set (one : OneEach phases) (found : phases[index]? = some (event, (event, stage))) :
    OneEach (phases.set index (event, (event, stage'))) := by
  intro i j e e' phase phase' left right same
  rcases (set_iff found).mp left with ⟨rfl, rfl, rfl⟩ | ⟨_, first⟩
  · rcases (set_iff found).mp right with ⟨rfl, _⟩ | ⟨_, second⟩
    · rfl
    · exact one _ _ _ _ _ _ found second same
  · rcases (set_iff found).mp right with ⟨rfl, rfl, rfl⟩ | ⟨_, second⟩
    · exact one _ _ _ _ _ _ first found same
    · exact one _ _ _ _ _ _ first second same

/-- A step of one session changes what this client has taken, and nothing else. -/
theorem takes_set_of_ne (found : phases[index]? = some (event, (event, stage))) (other : client ≠ event.1) :
    Takes (phases.set index (event, (event, stage'))) user client ↔ Takes phases user client := by
  constructor
  · rintro ⟨i, e, taken, there, of_client, inside⟩
    rcases (set_iff found).mp there with ⟨_, rfl, _⟩ | ⟨_, there⟩
    · exact absurd of_client.symm other
    · exact ⟨i, e, taken, there, of_client, inside⟩
  · rintro ⟨i, e, taken, there, of_client, inside⟩
    refine ⟨i, e, taken, (set_iff found).mpr (.inr ⟨?_, there⟩), of_client, inside⟩
    rintro rfl
    rw [found] at there
    cases there
    exact other of_client.symm

theorem takes_set_self (one : OneEach phases) (found : phases[index]? = some (event, (event, stage))) :
    Takes (phases.set index (event, (event, stage'))) user event.1 ↔ ∃ taken, stage' = some taken ∧ user ∈ taken :=
  takes_self (oneEach_set one found) (List.getElem?_set_self (List.getElem?_eq_some_iff.mp found).1)

end Takes

/-! ### The lock table -/

/-- The rows of a transaction go up in an order of the users. -/
def Transaction.Ordered (rank : UserId → ℕ) (transaction : Transaction) : Prop :=
  transaction.lockOrder.Pairwise fun first second => first = second ∨ rank first < rank second

instance (rank : UserId → ℕ) (transaction : Transaction) : Decidable (transaction.Ordered rank) :=
  inferInstanceAs (Decidable (List.Pairwise _ _))

/-- **The lock table is what the sessions have taken**, and the open transactions agree on an order. -/
structure Held (sessions : Sessions) (phases : List ((ℕ × Transaction) × Tenure)) : Prop where
  own : ∀ (index : ℕ) (event : ℕ × Transaction) (phase : Tenure), phases[index]? = some (event, phase) →
    phase.1 = event ∧ event.1 ∈ sessions.clients
  one : OneEach phases
  table : ∀ user client, sessions.locks user = some client ↔ Takes phases user client
  ranked : ∃ rank : UserId → ℕ, ∀ (index : ℕ) (event : ℕ × Transaction) (taken : List UserId),
    phases[index]? = some (event, (event, some taken)) → event.2.Ordered rank

namespace Held

variable {sessions sessions' : Sessions} {phases : List ((ℕ × Transaction) × Tenure)} {index : ℕ}
  {event : ℕ × Transaction} {taken : List UserId} {stage : Option (List UserId)} {N : Numeric}

theorem mine (held : Held sessions phases) (found : phases[index]? = some (event, (event, stage)))
    (user : UserId) : sessions.locks user = some event.1 ↔ ∃ taken, stage = some taken ∧ user ∈ taken :=
  (held.table user event.1).trans (takes_self held.one found)

/-- A step of one session, given what it does to the rows of its client and that it leaves those of the others. -/
theorem step (held : Held sessions phases) (found : phases[index]? = some (event, (event, some taken)))
    (clients : sessions'.clients = sessions.clients)
    (own : ∀ user, sessions'.locks user = some event.1 ↔ ∃ taken', stage = some taken' ∧ user ∈ taken')
    (others : ∀ user client, client ≠ event.1 →
      (sessions'.locks user = some client ↔ sessions.locks user = some client)) :
    Held sessions' (phases.set index (event, (event, stage))) := by
  refine ⟨fun i e phase there => ?_, oneEach_set held.one found, fun user client => ?_, ?_⟩
  · rw [clients]
    rcases (set_iff found).mp there with ⟨_, rfl, rfl⟩ | ⟨_, there⟩
    · exact ⟨rfl, (held.own _ _ _ found).2⟩
    · exact held.own i e phase there
  · by_cases self : client = event.1
    · rw [self, takes_set_self held.one found]
      exact own user
    · rw [takes_set_of_ne found self, others user client self]
      exact held.table user client
  · obtain ⟨rank, ordered⟩ := held.ranked
    refine ⟨rank, fun i e taken' there => ?_⟩
    rcases (set_iff found).mp there with ⟨_, rfl, _⟩ | ⟨_, there⟩
    · exact ordered index _ taken found
    · exact ordered i e taken' there

theorem stay (held : Held sessions phases) (found : phases[index]? = some (event, (event, some taken)))
    (clients : sessions'.clients = sessions.clients) (locks : sessions'.locks = sessions.locks) :
    Held sessions' (phases.set index (event, (event, some taken))) := by
  refine held.step found clients (fun user => ?_) fun user client _ => ?_
  · rw [locks]
    exact held.mine found user
  · rw [locks]

theorem take (held : Held sessions phases) (found : phases[index]? = some (event, (event, some taken)))
    {user : UserId} (free : ∀ client, sessions.locks user = some client → client = event.1)
    (clients : sessions'.clients = sessions.clients) (locks : sessions'.locks = sessions.locks.take user event.1)
    {taken' : List UserId} (taking : ∀ user', user' ∈ taken' ↔ user' = user ∨ user' ∈ taken) :
    Held sessions' (phases.set index (event, (event, some taken'))) := by
  have mine : ∀ user', sessions.locks user' = some event.1 ↔ user' ∈ taken := by
    intro user'
    rw [held.mine found user']
    simp
  refine held.step found clients (fun user' => ?_) fun user' client other => ?_
  · rw [locks, Locks.Table.take_iff, mine]
    simp only [Option.some.injEq, exists_eq_left', taking]
    tauto
  · rw [locks, Locks.Table.take_iff]
    constructor
    · rintro (⟨_, same⟩ | ⟨_, there⟩)
      · exact absurd same other
      · exact there
    · intro there
      refine .inr ⟨?_, there⟩
      rintro rfl
      exact other (free client there)

theorem finish (held : Held sessions phases) (found : phases[index]? = some (event, (event, some taken)))
    (clients : sessions'.clients = sessions.clients) (locks : sessions'.locks = sessions.locks.release event.1) :
    Held sessions' (phases.set index (event, (event, none))) := by
  refine held.step found clients (fun user => ?_) fun user client other => ?_
  · rw [locks, Locks.Table.release_iff]
    simp
  · rw [locks, Locks.Table.release_iff]
    exact and_iff_left other

theorem free_of_unblocked {client : ℕ} {sql : Statement} {user : UserId}
    (row : sessions.rowOf N client sql = some user) (unblocked : ¬ sessions.blocked N client sql = true) :
    ∀ other, sessions.locks user = some other → other = client := by
  intro other owned
  by_contra different
  apply unblocked
  simp [Sessions.blocked, row, owned, different]

theorem select {user : UserId} (held : Held sessions phases)
    (found : phases[index]? = some (event, (event, some taken)))
    (unblocked : ¬ sessions.blocked N event.1 (.selectWallet user) = true)
    (clients : sessions'.clients = sessions.clients)
    (locks : sessions'.locks = sessions.lockFor N event.1 (.selectWallet user)) :
    Held sessions' (phases.set index (event, tenancy.after (event, some taken)
      (.statement event.1 (.selectWallet user)) (.ok ((sessions.view N event.1).wallets user)))) := by
  cases seen : (sessions.view N event.1).wallets user with
  | none =>
    have row : sessions.rowOf N event.1 (.selectWallet user) = none := by
      simp [Sessions.rowOf, Statement.row, seen]
    refine held.stay found clients ?_
    rw [locks, Sessions.lockFor, row]
  | some wallet =>
    have row : sessions.rowOf N event.1 (.selectWallet user) = some user := by
      simp [Sessions.rowOf, Statement.row, seen]
    refine held.take found (free_of_unblocked row unblocked) clients ?_ fun user' => ?_
    · rw [locks, Sessions.lockFor, row]
    · show user' ∈ taken ++ [user] ↔ _
      simp [or_comm]

theorem update {user : UserId} {set : WalletSet} (held : Held sessions phases)
    (found : phases[index]? = some (event, (event, some taken))) (inside : user ∈ taken)
    (clients : sessions'.clients = sessions.clients)
    (locks : sessions'.locks = sessions.lockFor N event.1 (.updateWallet user set)) :
    Held sessions' (phases.set index (event, (event, some taken))) := by
  have mine : sessions.locks user = some event.1 := (held.mine found user).mpr ⟨taken, rfl, inside⟩
  refine held.stay found clients ?_
  rw [locks, Sessions.lockFor]
  split
  · rename_i user' row
    have same : user' = user := by
      simp only [Sessions.rowOf, Statement.row, Option.filter_eq_some_iff] at row
      exact (Option.some.inj row.1).symm
    rw [same]
    exact Function.update_eq_self_iff.mpr mine.symm
  · rfl

/-- **Every step of a session keeps the table.** -/
theorem perform {op : SessionOp} {fails : Bool} {reply : op.Reply} (held : Held sessions phases)
    (found : phases[index]? = some (event, (event, stage))) (may : tenancy.may (event, stage) op)
    (performed : op.perform N fails sessions = some (reply, sessions')) :
    Held sessions' (phases.set index (event, tenancy.after (event, stage) op reply)) := by
  cases stage with
  | none => cases may
  | some taken =>
    cases op with
    | finish client committed =>
      cases may
      cases performed
      exact held.finish found rfl rfl
    | statement client sql =>
      obtain ⟨rfl, next⟩ := may
      simp only [SessionOp.perform] at performed
      split at performed
      · -- a failed statement takes no row
        cases performed
        cases sql with
        | _ => exact held.stay found rfl rfl
      · split at performed
        · cases performed
        · rename_i unblocked
          cases performed
          cases sql with
          | selectWallet user => exact held.select found unblocked rfl rfl
          | updateWallet user set => exact held.update found next rfl rfl
          | _ => exact held.stay found rfl rfl

theorem start {rank : UserId → ℕ} (held : Held sessions phases) (fresh : event.1 ∉ sessions.clients)
    (new : event.2.Ordered rank)
    (ordered : ∀ (index : ℕ) (event : ℕ × Transaction) (taken : List UserId),
      phases[index]? = some (event, (event, some taken)) → event.2.Ordered rank)
    (clients : sessions'.clients = sessions.clients ++ [event.1]) (locks : sessions'.locks = sessions.locks) :
    Held sessions' (phases ++ [(event, (event, some []))]) := by
  have cases_ : ∀ {i : ℕ} {e : ℕ × Transaction} {phase : Tenure},
      (phases ++ [(event, (event, some []))])[i]? = some (e, phase) →
        phases[i]? = some (e, phase) ∨ (i = phases.length ∧ e = event ∧ phase = (event, some [])) := by
    intro i e phase there
    rcases Nat.lt_or_ge i phases.length with inside | outside
    · rw [List.getElem?_append_left inside] at there
      exact .inl there
    · rw [List.getElem?_append_right outside, List.getElem?_singleton] at there
      split at there
      · rename_i last
        cases there
        exact .inr ⟨by omega, rfl, rfl⟩
      · cases there
  have known : ∀ {i : ℕ} {e : ℕ × Transaction} {phase : Tenure}, phases[i]? = some (e, phase) → e.1 ≠ event.1 := by
    intro i e phase there same
    exact fresh (same ▸ (held.own i e phase there).2)
  refine ⟨fun i e phase there => ?_, fun i j e e' phase phase' left right same => ?_, fun user client => ?_,
    rank, fun i e taken there => ?_⟩
  · rw [clients]
    rcases cases_ there with there | ⟨_, rfl, rfl⟩
    · exact ⟨(held.own i e phase there).1, List.mem_append_left _ (held.own i e phase there).2⟩
    · exact ⟨rfl, List.mem_append_right _ (.head _)⟩
  · rcases cases_ left with first | ⟨rfl, rfl, rfl⟩
    · rcases cases_ right with second | ⟨rfl, rfl, rfl⟩
      · exact held.one _ _ _ _ _ _ first second same
      · exact absurd same (known first)
    · rcases cases_ right with second | ⟨rfl, rfl, rfl⟩
      · exact absurd same.symm (known second)
      · rfl
  · rw [locks, held.table]
    constructor
    · rintro ⟨i, e, taken, there, of_client, inside⟩
      refine ⟨i, e, taken, ?_, of_client, inside⟩
      rw [List.getElem?_append_left (List.getElem?_eq_some_iff.mp there).1]
      exact there
    · rintro ⟨i, e, taken, there, of_client, inside⟩
      rcases cases_ there with there | ⟨_, _, none⟩
      · exact ⟨i, e, taken, there, of_client, inside⟩
      · cases none
        cases inside
  · rcases cases_ there with there | ⟨_, rfl, _⟩
    · exact ordered i e taken there
    · exact new

end Held

/-! ### Runs of the server -/

/-- The transactions that have begun and not ended. -/
def inFlight (c : Config sessionSignature Sessions (ℕ × Transaction)) : List Transaction :=
  (c.threads.filter fun thread => thread.2.head.isSome).map (·.1.2)

/-- **The condition**: a transaction begins only if it and those in flight agree on an order of the users in
which each of them locks its rows. -/
def Agreeing (c : Config sessionSignature Sessions (ℕ × Transaction)) :
    Move (ℕ × Transaction) Bool Empty → Prop
  | .start event => ∃ rank : UserId → ℕ, ∀ transaction ∈ event.2 :: inFlight c, transaction.Ordered rank
  | _ => True

theorem inFlight_of_open {c : Config sessionSignature Sessions (ℕ × Transaction)}
    {phases : List ((ℕ × Transaction) × Tenure)} {index : ℕ} {event : ℕ × Transaction} {taken : List UserId}
    (tracks : Tracks tenancy (fun phase => phase.2 = none) c phases)
    (found : phases[index]? = some (event, (event, some taken))) : event.2 ∈ inFlight c := by
  obtain ⟨prog, there, keeps⟩ := tracks.get_of_phase found
  cases prog with
  | done value => cases keeps
  | await op next =>
    have member := List.mem_of_getElem? there
    exact List.mem_map.mpr ⟨_, List.mem_filter.mpr ⟨member, rfl⟩, rfl⟩

/-- **The discipline of the server.** -/
def serving (env : Env) : Discipline (server env) Agreeing tenancy where
  enter event := (event, some [])
  finished phase := phase.2 = none
  Inv := Held
  keeps _ event _ := session_keeps (body_acquires env event.2)
  start c phases event state tracks held allowed arrived := by
    simp only [server] at arrived
    split at arrived
    · cases arrived
    · rename_i fresh
      cases arrived
      obtain ⟨rank, ordered⟩ := allowed
      refine held.start fresh (ordered _ (.head _)) (fun index event taken found => ?_) rfl rfl
      exact ordered _ (.tail _ (inFlight_of_open tracks found))
  step c phases index choice event op next phase reply state tracks held _ found inPhase may performed := by
    obtain ⟨client, stage⟩ := phase
    have same : client = event := (held.own _ _ _ inPhase).1
    subst same
    have kept := held.perform inPhase may performed
    exact ⟨trivial, fun child => nofun, (List.append_nil _).symm ▸ kept⟩
  outside c phases act := act.elim

def wants (c : Config sessionSignature Sessions (ℕ × Transaction)) (client : ℕ) (user : UserId) : Prop :=
  ∃ sql, some (.statement client sql) ∈ c.threads.map (fun thread => thread.2.head) ∧ sql.row = some user

/-- **No deadlock.** In every state of a run that meets the condition, no client waits for itself through others. -/
theorem ordered_no_deadlock (env : Env) {c₀ c : Config sessionSignature Sessions (ℕ × Transaction)}
    (idle : c₀.threads = []) (unlocked : ∀ user, c₀.state.locks user = none)
    (run : Reaches (server env) Agreeing c₀ c) (client : ℕ) :
    ¬ Relation.TransGen (Locks.Waits c.state.locks (wants c)) client client := by
  have initial : Held c₀.state [] := by
    refine ⟨fun _ _ _ => nofun, fun _ _ _ _ _ _ => nofun, fun user client => ?_, fun _ => 0, fun _ _ _ => nofun⟩
    rw [unlocked]
    exact ⟨nofun, fun ⟨_, _, _, there, _⟩ => nomatch there⟩
  obtain ⟨phases, tracks, held⟩ := (serving env).holds ⟨[], tracks_nil idle, initial⟩ run
  obtain ⟨rank, ordered⟩ := held.ranked
  refine Locks.no_cycle rank (fun client user user' owned wanted free => ?_) client
  -- the session of the client: what it has taken, and the statement it is at
  obtain ⟨sql, member, row⟩ := wanted
  obtain ⟨⟨event, prog⟩, there, awaits⟩ := List.mem_map.mp member
  obtain ⟨next, rfl⟩ := Prog.await_of_head awaits
  obtain ⟨index, found⟩ := List.getElem?_of_mem there
  obtain ⟨⟨event', stage⟩, inPhase, keeps⟩ := tracks.get found
  cases (held.own _ _ _ inPhase).1
  have may := keeps.1
  cases stage with
  | none => cases may
  | some taken =>
    obtain ⟨rfl, asked⟩ := may
    have inside : user ∈ taken := by simpa using (held.mine inPhase user).mp owned
    cases sql with
    | selectWallet user'' =>
      cases row
      obtain ⟨rest, order⟩ := asked
      have rises := ordered index event' taken inPhase
      unfold Transaction.Ordered at rises
      rw [order, List.pairwise_append] at rises
      rcases rises.2.2 user inside user' (.head _) with same | below
      · exact absurd (same ▸ owned) free
      · exact below
    | updateWallet user'' set =>
      cases row
      exact absurd ((held.mine inPhase user').mpr ⟨taken, rfl, asked⟩) free
    | insertTransaction => cases row
    | insertMatch => cases row
    | insertWithdrawal => cases row

/-! ### A session by itself -/

section Alone

variable {env : Env} {client : ℕ} {sessions : Sessions}

theorem view_sent (N : Numeric) (sql : Statement) (locks : Locks.Table UserId ℕ) :
    Sessions.view N { sessions with
      locks := locks, sent := Function.update sessions.sent client (sessions.sent client ++ [sql]) } client =
      (sql.perform N (sessions.view N client)).2 := by
  unfold Sessions.view
  simp only [Function.update_self, List.foldl_append, List.foldl_cons, List.foldl_nil]

/-- No one else has a row. -/
def Sessions.Sole (sessions : Sessions) (client : ℕ) : Prop :=
  ∀ user other, sessions.locks user = some other → other = client

theorem Sessions.Sole.unblocked (sole : sessions.Sole client) (N : Numeric) (sql : Statement) :
    sessions.blocked N client sql = false := by
  unfold Sessions.blocked
  split
  · rename_i user _
    cases owned : sessions.locks user with
    | none => rfl
    | some other => simp [sole user other owned]
  · rfl

theorem Sessions.Sole.lockFor (sole : sessions.Sole client) (N : Numeric) (sql : Statement) :
    ∀ user other, sessions.lockFor N client sql user = some other → other = client := by
  intro user other owned
  unfold Sessions.lockFor at owned
  cases row : sessions.rowOf N client sql with
  | none =>
    rw [row] at owned
    exact sole user other owned
  | some user' =>
    rw [row] at owned
    rcases Locks.Table.take_iff.mp owned with ⟨_, same⟩ | ⟨_, before⟩
    · exact same
    · exact sole user other before

/-- The rest of a session, by induction on the rest of its body. -/
theorem session_runs {α : Type} {event : ℕ × Transaction} (prog : Prog sqlSignature (Except Err α))
    (sessions : Sessions) (sole : sessions.Sole client) :
    ∃ sessions', Reaches (server env) (fun _ _ => True) ⟨sessions, [(event, session client prog)]⟩
        ⟨sessions', [(event, .done ())]⟩ ∧
      sessions'.db = match prog.interpret (Statement.perform env.numeric) (sessions.view env.numeric client) with
        | (.ok _, db) => db
        | (.error _, _) => sessions.db := by
  induction prog generalizing sessions with
  | done result =>
    cases result with
    | error err => exact ⟨_, .move (m := .step 0 false) .refl trivial rfl, rfl⟩
    | ok value => exact ⟨_, .move (m := .step 0 false) .refl trivial rfl, rfl⟩
  | await sql next ih =>
    let after : Sessions := { sessions with
      locks := sessions.lockFor env.numeric client sql
      sent := Function.update sessions.sent client (sessions.sent client ++ [sql]) }
    let reply := (sql.perform env.numeric (sessions.view env.numeric client)).1
    obtain ⟨sessions', run, ended⟩ := ih reply after (sole.lockFor env.numeric sql)
    have stepped : (server env).move ⟨sessions, [(event, session client (.await sql next))]⟩ (.step 0 false) =
        some ⟨after, [(event, session client (next reply))]⟩ := by
      simp [Machine.move, server, session, SessionOp.perform, sole.unblocked env.numeric sql, after, reply]
    refine ⟨sessions', (Reaches.move .refl trivial stepped).trans run, ?_⟩
    rw [ended, view_sent]
    rfl

end Alone

/-- Users 1 and 2 have been matched twice, and no transaction is open. -/
def quiet : Sessions := { db := matchedTwice.db }

/-- User 1 is matched with user 2 again while match 7 is paid out to user 1: the creation has locked the wallet
of user 1, the payout that of user 2. -/
def matchedWhilePaidOut : List (Move (ℕ × Transaction) Bool Empty) :=
  .start (1, .createMatch 9 1 2 0 10) :: .start (2, .releaseEscrowToWinner 1 2 10 7) ::
    List.replicate 4 (.step 0 false) ++ List.replicate 2 (.step 1 false)

/-- **A match creation and a payout wait for each other.** -/
theorem creation_and_payout_deadlock : ∃ c, Reaches (server sampleEnv) (fun _ _ => True) ⟨quiet, []⟩ c ∧
    Relation.TransGen (Locks.Waits c.state.locks (wants c)) 1 1 := by
  obtain ⟨c, run, ended⟩ := Machine.exists_run (server sampleEnv) (fun _ _ => true) ⟨quiet, []⟩
    matchedWhilePaidOut (fun c => decide (c.state.locks 1 = some 1 ∧ c.state.locks 2 = some 2 ∧
      c.threads.map (fun thread => thread.2.head) =
        [some (.statement 1 (.selectWallet 2)), some (.statement 2 (.selectWallet 1))])) (by decide +kernel)
  obtain ⟨first, second, heads⟩ := of_decide_eq_true ended
  have creation : Locks.Waits c.state.locks (wants c) 1 2 :=
    ⟨2, ⟨.selectWallet 2, heads ▸ .head _, rfl⟩, second, by decide⟩
  have payout : Locks.Waits c.state.locks (wants c) 2 1 :=
    ⟨1, ⟨.selectWallet 1, heads ▸ .tail _ (.head _), rfl⟩, first, by decide⟩
  exact ⟨c, run.mono fun _ _ _ => trivial, .tail (.single creation) payout⟩

/-- The same creation, while match 7 is refunded: both lock the wallet of user 1 first, and the refund waits. -/
def matchedWhileRefunded : List (Move (ℕ × Transaction) Bool Empty) :=
  .start (1, .createMatch 9 1 2 0 10) :: .start (2, .refundBothPlayers 1 2 10 7) ::
    List.replicate 4 (.step 0 false)

/-- The condition for the order of the user ids. -/
def agreeingById (c : Config sessionSignature Sessions (ℕ × Transaction)) :
    Move (ℕ × Transaction) Bool Empty → Bool
  | .start event => (event.2 :: inFlight c).all fun transaction => decide (transaction.Ordered id)
  | _ => true

theorem ordered_no_deadlock_refund : ∃ c, Reaches (server sampleEnv) Agreeing ⟨quiet, []⟩ c ∧
    Locks.Waits c.state.locks (wants c) 2 1 ∧
      ¬ Relation.TransGen (Locks.Waits c.state.locks (wants c)) 2 2 := by
  obtain ⟨c, run, ended⟩ := Machine.exists_run (server sampleEnv) agreeingById ⟨quiet, []⟩ matchedWhileRefunded
    (fun c => decide (c.state.locks 1 = some 1 ∧ some (SessionOp.statement 2 (.selectWallet 1)) ∈
      c.threads.map (fun thread => thread.2.head))) (by decide +kernel)
  obtain ⟨owned, waiting⟩ := of_decide_eq_true ended
  have agreeing : Reaches (server sampleEnv) Agreeing ⟨quiet, []⟩ c := by
    refine run.mono fun c move tested => ?_
    cases move with
    | start event => exact ⟨id, fun transaction member => of_decide_eq_true (List.all_eq_true.mp tested _ member)⟩
    | step index choice => trivial
    | outside act => trivial
  exact ⟨c, agreeing, ⟨1, ⟨.selectWallet 1, waiting, rfl⟩, owned, by decide⟩,
    ordered_no_deadlock sampleEnv rfl (fun _ => rfl) agreeing 2⟩

end SkillArena
