/-
**The entries of the queues.**

An entry is an object pushed by one `queue:join`. Whatever joins, leaves, disconnects and attempts do, it
becomes a player of at most one committed match, against another user, in the queue it was pushed to
(`entry_matched_once`): stale arrays keep entries, but nobody takes players from them. A user, on the other
hand, may have two entries in one queue, when two joins overlap (`two_tabs_two_entries`) or when a join falls
between the taking and the putting back of an attempt. Where no stale check is made while another join of
the user, or an attempt that holds an entry of the user, is under way in that queue, there is one
(`one_entry_per_user`).
-/

import SkillArena.Proof.Queue
import SkillArena.Proof.Guard

namespace SkillArena

open Async

/-! ### One entry a user -/

/-- The handler is between the stale check and the push of a join of the user. -/
def Hold.joins (user : UserId) (fee : ℕ) : Hold → Bool
  | joining user' fee' => user' = user && fee' = fee
  | _ => false

def QueueEntry.ofUser (user : UserId) (entry : QueueEntry) : Bool := entry.userId = user

/-- No join of the user to a queue is past its stale check, and no attempt holds an entry of the user. -/
def clearFor {γ : Type} (user : UserId) (fee : ℕ) (w : QueueRun γ) : Bool :=
  w.threads.all fun thread =>
    !Hold.joins user fee thread.phase && !Hold.has fee (QueueEntry.ofUser user) thread.phase

/-- **The condition on a run**: a join makes its stale check while no other join of the user to that queue
is between check and push and no attempt has an entry of the user from that queue. -/
def unhurried {γ : Type} (w : QueueRun γ) : BackendMove → Bool
  | .start _ => true
  | .step index _ => match (w.threads[index]?).bind (·.prog.head) with
    | some (.memory (.dropStale fee user)) => clearFor user fee w
    | _ => true
  | .outside act => act.spares

/-- The places of a user in a queue: entries in it or taken from it, and joins about to push. -/
def places (user : UserId) (fee : ℕ) (memory : Memory) (phases : List (Handler × Hold)) : ℕ :=
  seats fee (QueueEntry.ofUser user) memory phases + phases.countP fun entry => entry.2.joins user fee

theorem clearFor_phases {γ : Type} {user : UserId} {fee : ℕ} {w : QueueRun γ}
    (clear : clearFor user fee w = true) : ∀ entry ∈ w.phases, entry.2.joins user fee = false ∧
      entry.2.has fee (QueueEntry.ofUser user) = false := by
  intro entry member
  obtain ⟨thread, running, rfl⟩ := List.mem_map.mp member
  simpa [clearFor] using List.all_eq_true.mp clear thread running

theorem ofUser_single {user : UserId} {first second : QueueEntry} (here : first.ofUser user = true)
    (there : second.ofUser user = true) : first.userId = second.userId :=
  (of_decide_eq_true here).trans (of_decide_eq_true there).symm

section Places

variable {γ : Type} {memory memory' : Memory} {phases : List (Handler × Hold)} {index : ℕ} {event : Handler}
  {phase phase' : Hold} {op : Op} {reply : Except Err op.Reply} {fee : ℕ} {user : UserId}

theorem Shift.joins_of_joins (shift : Shift memory memory' phase op reply phase')
    (checked : op ≠ .memory (.dropStale fee user)) (joins : phase'.joins user fee = true) :
    phase.joins user fee = true := by
  cases shift
  case idle => exact joins
  case stale user' fee' valid evolves =>
    obtain ⟨rfl, rfl⟩ : user' = user ∧ fee' = fee := by simpa [Hold.joins] using joins
    exact absurd rfl checked
  all_goals cases joins

theorem Shift.joins_of_pushes (shift : Shift memory memory' phase op reply phase')
    (pushes : op.pushes fee (QueueEntry.ofUser user) memory.nextTicket = true) :
    phase.joins user fee = true ∧ phase'.joins user fee = false := by
  cases shift
  case idle same quiet =>
    rw [pushes_of_queueless quiet] at pushes
    cases pushes
  case giveUp same gives quiet =>
    rw [pushes_of_queueless quiet] at pushes
    cases pushes
  case lose taken same quiet =>
    rw [pushes_of_queueless quiet] at pushes
    cases pushes
  case push user' fee' username category valid evolves next =>
    obtain ⟨rfl, rfl⟩ : fee' = fee ∧ user' = user := by
      simpa [Op.pushes, QueueEntry.ofUser] using pushes
    exact ⟨by simp [Hold.joins], rfl⟩
  all_goals cases pushes

/-- **A step gives a user no second place**, the stale check apart. -/
theorem Shift.places_le (stalls : Stalls memory phases) (found : phases[index]? = some (event, phase))
    (valid : fee ∈ validFees) (shift : Shift memory memory' phase op reply phase')
    (checked : op ≠ .memory (.dropStale fee user)) :
    places user fee memory' (phases.set index (event, phase')) ≤ places user fee memory phases := by
  have moved := shift.seats_le (p := QueueEntry.ofUser user) stalls found valid
    fun _ _ here there => ofUser_single here there
  have counted := countP_set (p := fun entry : Handler × Hold => entry.2.joins user fee) found (event, phase')
  dsimp only at counted
  unfold places
  cases pushes : op.pushes fee (QueueEntry.ofUser user) memory.nextTicket with
  | true =>
    obtain ⟨before, after⟩ := shift.joins_of_pushes pushes
    rw [pushes, if_pos rfl] at moved
    rw [before, after, if_pos rfl, if_neg Bool.false_ne_true] at counted
    omega
  | false =>
    rw [pushes, if_neg Bool.false_ne_true] at moved
    cases joins : phase'.joins user fee with
    | true =>
      rw [joins, shift.joins_of_joins checked joins] at counted
      omega
    | false =>
      rw [joins, if_neg Bool.false_ne_true] at counted
      omega

/-- **The stale check leaves one place**: the user is out of the queue, and nobody else is about to bring
the user in. -/
theorem Shift.places_stale {w : QueueRun γ} {user : UserId} {reply : Except Err Unit}
    (found : w.phases[index]? = some (event, phase)) (valid : fee ∈ validFees)
    (shift : Shift memory memory' phase (.memory (.dropStale fee user)) reply phase')
    (clear : clearFor user fee w = true) :
    places user fee memory' (w.phases.set index (event, phase')) ≤ 1 := by
  cases shift
  case idle same quiet => cases quiet
  case giveUp same gives quiet => cases quiet
  case lose taken same quiet => cases quiet
  case stale valid' evolves =>
    have nobody := clearFor_phases clear
    have joins := countP_set (p := fun entry : Handler × Hold => entry.2.joins user fee) found
      (event, .joining user fee)
    have has := countP_set (p := fun entry : Handler × Hold => entry.2.has fee (QueueEntry.ofUser user)) found
      (event, .joining user fee)
    have noJoin : w.phases.countP (fun entry => entry.2.joins user fee) = 0 :=
      List.countP_eq_zero.mpr fun entry member => by simp [(nobody entry member).1]
    have noHas : w.phases.countP (fun entry => entry.2.has fee (QueueEntry.ofUser user)) = 0 :=
      List.countP_eq_zero.mpr fun entry member => by simp [(nobody entry member).2]
    rw [noJoin] at joins
    rw [noHas] at has
    have gone : (memory'.live fee).countP (QueueEntry.ofUser user) = 0 := by
      rw [evolves.live fee valid, Function.update_self, List.countP_eq_zero]
      intro entry inside
      have other := (List.mem_filter.mp inside).2
      simpa [QueueEntry.ofUser] using other
    have checking : (Hold.arriving user fee).joins user fee = false := rfl
    have checked : (Hold.joining user fee).joins user fee = true := by simp [Hold.joins]
    dsimp only at joins has
    rw [checking, checked, if_neg Bool.false_ne_true, if_pos rfl] at joins
    have before : (Hold.arriving user fee).has fee (QueueEntry.ofUser user) = false := rfl
    have after : (Hold.joining user fee).has fee (QueueEntry.ofUser user) = false := rfl
    rw [before, after, if_neg Bool.false_ne_true] at has
    unfold places seats
    omega

end Places

/-- Every user has at most one place in every queue. -/
def Placed (memory : Memory) (phases : List (Handler × Hold)) : Prop :=
  ∀ fee ∈ validFees, ∀ user, places user fee memory phases ≤ 1

theorem places_append (user : UserId) (fee : ℕ) (memory : Memory) (phases : List (Handler × Hold))
    (event : Handler) :
    places user fee memory (phases ++ [(event, event.hold)]) = places user fee memory phases := by
  have new : event.hold.has fee (QueueEntry.ofUser user) = false ∧ event.hold.joins user fee = false := by
    cases event
    all_goals exact ⟨rfl, rfl⟩
  unfold places seats
  simp [List.countP_append, new.1, new.2]

namespace Placed

variable {γ : Type}

theorem start {memory : Memory} {phases : List (Handler × Hold)} (placed : Placed memory phases)
    (event : Handler) : Placed memory (phases ++ [(event, event.hold)]) := by
  intro fee valid user
  rw [places_append]
  exact placed fee valid user

/-- **One step**, where the stale checks are unhurried. -/
theorem step {w : QueueRun γ} {index : ℕ} {choice : Choice} {event : Handler} {phase phase' : Hold} {op : Op}
    {next : Except Err op.Reply → Prog signature Unit} {reply : Except Err op.Reply} {memory' : Memory}
    (placed : Placed w.state.memory w.phases) (stalls : Stalls w.state.memory w.phases)
    (allowed : unhurried w (.step index choice) = true)
    (found : w.threads[index]? = some ⟨event, phase, .await op next⟩)
    (shift : Shift w.state.memory memory' phase op reply phase') :
    Placed memory' (w.phases.set index (event, phase')) := by
  intro fee valid user
  have inPhase := Watched.phases_get found
  by_cases check : op = .memory (.dropStale fee user)
  · subst check
    refine shift.places_stale inPhase valid ?_
    simpa [unhurried, found] using allowed
  · exact (shift.places_le stalls inPhase valid check).trans (placed fee valid user)

end Placed

/-- **The rule of the places.** -/
def placesRule (env : Env) : QueueRule env (doorkeeper (fun _ notes => notes) fun _ _ _ _ notes => notes)
    (fun (w : QueueRun Unit) move => unhurried w move = true) where
  Inv world _ phases := Placed world.memory phases
  enter := rfl
  spares _ _ spares := spares
  start w event state inv _ arrived := by
    rw [arrive_memory arrived]
    exact inv.start event
  step w index choice event phase op next reply state stalls inv allowed found _ _ shift :=
    inv.step stalls allowed found shift
  fork world _ phases child inv away := by
    have started := inv.start child
    rwa [away] at started
  outside w act state inv spares acted := by
    rw [memory_outside spares acted]
    exact inv

/-- **A user has at most one entry in a queue** along every run that meets the condition. -/
theorem one_entry_per_user (env : Env) {w₀ w : QueueRun Unit} (idle : w₀.threads = [])
    (empty : w₀.state.memory = {})
    (run : Watches (backend env) (doorkeeper (fun _ notes => notes) fun _ _ _ _ notes => notes)
      (fun w move => unhurried w move = true) w₀ w) {fee : ℕ} (valid : fee ∈ validFees) (user : UserId) :
    (w.state.memory.live fee).countP (QueueEntry.ofUser user) ≤ 1 := by
  have initial : (placesRule env).Inv w₀.state w₀.notes [] := by
    intro fee _ user
    rw [empty]
    exact Nat.zero_le _
  obtain ⟨_, inv, _⟩ := (placesRule env).holds idle empty initial run
  have bound := inv fee valid user
  unfold places seats at bound
  omega

/-- The queues of a process that has just started, with two users who can pay and a problem to play. -/
def openDoors : World where
  now := 0
  db := { twoPlayers with problems :=
    [{ id := 0, title := "Two Sum", slug := "two-sum", description := "", difficulty := "easy",
       category := "arrays" }] }

/-- Users join and leave the queues and connections end, and nothing fails. -/
def queues : BackendMove → Bool
  | .start (.queueJoin ..) | .start (.queueLeave _) | .start (.worker _) => true
  | .start _ => false
  | .step _ choice => choice ≠ .fail
  | .outside _ => false

/-- User 1 joins from two tabs; both make their checks before either pushes. -/
def joinsTwice : List BackendMove :=
  [.start (.queueJoin 1 "ann" 10 "all"), .start (.queueJoin 1 "ann" 10 "all")] ++
    List.replicate 4 (.step 0 .proceed) ++ List.replicate 4 (.step 1 .proceed) ++
    [.step 0 .proceed, .step 1 .proceed]

/-- **Two overlapping joins leave two entries of one user.** -/
theorem two_tabs_two_entries : ∃ c, Reaches (backend sampleEnv) (fun _ move => queues move = true)
    ⟨openDoors, []⟩ c ∧ (c.state.memory.live 10).map (·.userId) = [1, 1] := by
  obtain ⟨c, run, ended⟩ := Machine.exists_run (backend sampleEnv) (fun _ move => queues move)
    ⟨openDoors, []⟩ joinsTwice (fun c => (c.state.memory.live 10).map (·.userId) = [1, 1])
    (by decide +kernel)
  exact ⟨c, run, of_decide_eq_true ended⟩

/-- User 1 joins once and then again; the second join replaces the entry of the first. -/
def joinsAgain : List BackendMove :=
  .start (.queueJoin 1 "ann" 10 "all") :: List.replicate 11 (.step 0 .proceed) ++
    .start (.queueJoin 1 "ann" 10 "all") :: List.replicate 6 (.step 1 .proceed)

theorem one_entry_per_user_again : ∃ w, Watches (backend sampleEnv)
    (doorkeeper (fun _ notes => notes) fun _ _ _ _ notes => notes)
    (fun w move => unhurried w move = true) ⟨openDoors, (), []⟩ w ∧
      (w.state.memory.live 10).map (·.ticket) = [1] ∧
      (w.state.memory.live 10).countP (QueueEntry.ofUser 1) ≤ 1 := by
  obtain ⟨w, run, ended⟩ := Machine.exists_watch (backend sampleEnv)
    (doorkeeper (fun _ notes => notes) fun _ _ _ _ notes => notes) unhurried ⟨openDoors, (), []⟩ joinsAgain
    (fun w => (w.state.memory.live 10).map (·.ticket) = [1]) (by decide +kernel)
  have valid : 10 ∈ validFees := by decide
  exact ⟨w, run, of_decide_eq_true ended, one_entry_per_user sampleEnv rfl rfl run valid 1⟩

/-! ### One match an entry -/

/-- A committed match, with what its attempt had taken. -/
structure Matched where
  matchId : MatchId
  taken : Taken
  deriving DecidableEq

def Matched.plays (entry : QueueEntry) (played : Matched) : Bool :=
  played.taken.playerA = entry || played.taken.playerB = entry

/-- The entry was taken from the queue of a fee to play the match. -/
def Matched.playsFor (fee : ℕ) (entry : QueueEntry) (played : Matched) : Bool :=
  (Hold.holding played.taken).has fee (· = entry)

/-- The entries that have been pushed, each with the fee of its queue, and the matches that have been
committed. -/
structure Stock where
  pushed : List (ℕ × QueueEntry) := []
  played : List Matched := []

def Op.pushed (ticket : ℕ) : Op → List (ℕ × QueueEntry)
  | memory (.push fee user username category) => [(fee, ⟨user, username, category, ticket⟩)]
  | _ => []

/-- The match a handler has committed by an operation. -/
def Hold.played : Hold → (op : Op) → Except Err op.Reply → List Matched
  | holding taken, .transact (.createMatch matchId ..), .ok _ => [⟨matchId, taken⟩]
  | _, _, _ => []

/-- What the stock becomes by an operation. -/
def Stock.sees (phase : Hold) (op : Op) (reply : Except Err op.Reply) (world : World) (stock : Stock) : Stock :=
  ⟨stock.pushed ++ op.pushed world.memory.nextTicket, stock.played ++ phase.played op reply⟩

/-- The observer that keeps stock. -/
def stocktaker : Observer queueing World Handler Stock := doorkeeper (fun _ stock => stock) Stock.sees

/-- Nothing but the handlers touches the queues. -/
def undisturbed {γ : Type} (_ : QueueRun γ) : BackendMove → Bool
  | .outside act => act.spares
  | _ => true

/-- **The invariant of the entries**: whatever is in a queue, in hand or matched was pushed to that queue,
and is there once. -/
structure Stocked (env : Env) (db₀ : Db) (world : World) (stock : Stock) (phases : List (Handler × Hold)) :
    Prop where
  order : stock.pushed.Pairwise fun first second => first.2.ticket < second.2.ticket
  tickets : ∀ entry ∈ stock.pushed, entry.1 ∈ validFees ∧ entry.2.ticket < world.memory.nextTicket
  once : ∀ fee ∈ validFees, ∀ entry, seats fee (· = entry) world.memory phases +
    stock.played.countP (·.playsFor fee entry) ≤ stock.pushed.count (fee, entry)
  fair : ∀ played ∈ stock.played, played.taken.fee ∈ validFees ∧
    played.taken.playerA.userId ≠ played.taken.playerB.userId
  rows : ∀ matchId row, world.db.matches_ matchId = some row → db₀.matches_ matchId = none →
    ∃ taken, ⟨matchId, taken⟩ ∈ stock.played ∧
      row.terms = (taken.playerA.userId, taken.playerB.userId, env.numeric.store taken.fee)

section Stock

variable {memory memory' : Memory} {phases : List (Handler × Hold)} {phase phase' : Hold} {op : Op}
  {reply : Except Err op.Reply}

theorem count_pushed (ticket fee : ℕ) (entry : QueueEntry) (op : Op) :
    (op.pushed ticket).count (fee, entry) = if op.pushes fee (· = entry) ticket then 1 else 0 := by
  cases op
  case memory act =>
    cases act
    case push fee' user username category => simp [Op.pushed, Op.pushes, List.count_singleton]
    all_goals rfl
  all_goals rfl

theorem countP_played (fee : ℕ) (entry : QueueEntry) (phase : Hold) (op : Op) (reply : Except Err op.Reply) :
    (phase.played op reply).countP (·.playsFor fee entry) =
      if op.creates reply && phase.has fee (· = entry) then 1 else 0 := by
  cases phase
  case holding taken =>
    cases op
    case transact transaction =>
      cases transaction
      case createMatch =>
        cases reply with
        | ok => exact List.countP_singleton
        | error => rfl
      all_goals rfl
    all_goals rfl
  all_goals simp [Hold.played, Hold.has]

theorem Shift.ticket_of_pushed (shift : Shift memory memory' phase op reply phase')
    {entry : ℕ × QueueEntry} (pushed : entry ∈ op.pushed memory.nextTicket) :
    entry.1 ∈ validFees ∧ entry.2.ticket = memory.nextTicket ∧ memory.nextTicket < memory'.nextTicket := by
  cases shift
  case push valid evolves next =>
    cases List.mem_singleton.mp pushed
    exact ⟨valid, rfl, next ▸ Nat.lt_succ_self _⟩
  case idle same quiet => cases op <;> first | cases pushed | cases quiet
  case giveUp same gives quiet => cases op <;> first | cases pushed | cases quiet
  case lose taken same quiet => cases op <;> first | cases pushed | cases quiet
  all_goals cases pushed

theorem holding_of_played {played : Matched} (member : played ∈ phase.played op reply) :
    phase = .holding played.taken := by
  unfold Hold.played at member
  split at member
  · cases List.mem_singleton.mp member
    rfl
  · cases member

/-- What is in a queue, in hand or matched was pushed. -/
theorem Stocked.pushed_of_played {env : Env} {db₀ : Db} {world : World} {stock : Stock}
    (inv : Stocked env db₀ world stock phases) {played : Matched} (member : played ∈ stock.played)
    {entry : QueueEntry} (plays : entry = played.taken.playerA ∨ entry = played.taken.playerB) :
    (played.taken.fee, entry) ∈ stock.pushed := by
  have counted := inv.once _ (inv.fair played member).1 entry
  have some : 0 < stock.played.countP (·.playsFor played.taken.fee entry) := by
    refine List.countP_pos_iff.mpr ⟨played, member, ?_⟩
    rcases plays with rfl | rfl
    · simp [Matched.playsFor]
    · simp [Matched.playsFor]
  exact List.count_pos_iff.mp (by omega)

theorem Stocked.tickets_nodup {env : Env} {db₀ : Db} {world : World} {stock : Stock}
    (inv : Stocked env db₀ world stock phases) : (stock.pushed.map (·.2.ticket)).Nodup :=
  List.pairwise_map.mpr (inv.order.imp ne_of_lt)

end Stock

/-- A row of the matches was there with the same terms, or its match has been committed just now. -/
theorem Shift.row_cases {env : Env} {choice : Choice} {world world' : World} {phase phase' : Hold} {op : Op}
    {reply : Except Err op.Reply} {matchId : MatchId} {row : MatchRow}
    (shift : Shift world.memory world'.memory phase op reply phase')
    (performed : op.perform env choice world = some (reply, world'))
    (here : world'.db.matches_ matchId = some row) :
    (∃ taken, ⟨matchId, taken⟩ ∈ phase.played op reply ∧
      row.terms = (taken.playerA.userId, taken.playerB.userId, env.numeric.store taken.fee)) ∨
    ∃ row', world.db.matches_ matchId = some row' ∧ row'.terms = row.terms := by
  cases reply with
  | error err =>
    rw [perform_error performed] at here
    exact .inr ⟨row, here, rfl⟩
  | ok value =>
    by_cases created : ∃ playerA playerB problemId fee,
        op = .transact (.createMatch matchId playerA playerB problemId fee)
    · obtain ⟨playerA, playerB, problemId, fee, rfl⟩ := created
      cases shift
      case commit taken same =>
        obtain ⟨db', ran, rfl⟩ := perform_transact_ok performed
        obtain ⟨_, A, A', B, B', _, _, _, _, _, _, rfl⟩ := createMatch_ok.mp ran
        refine .inl ⟨taken, List.mem_singleton_self _, ?_⟩
        simp only [withDb_db, addRow_matches, setWallet_matches, withMatch_matches, Function.update_self,
          Option.some.injEq] at here
        rw [← here]
        rfl
      case idle same quiet => cases quiet
      case giveUp same gives quiet => cases quiet
    · have terms := terms_frame performed fun playerA playerB problemId fee same =>
        created ⟨playerA, playerB, problemId, fee, same⟩
      rw [here, Option.map_some] at terms
      obtain ⟨row', before, same⟩ := Option.map_eq_some_iff.mp terms.symm
      exact .inr ⟨row', before, same⟩

/-- **One operation keeps the stock.** -/
theorem Stocked.step {env : Env} {db₀ : Db} {world world' : World} {stock : Stock}
    {phases : List (Handler × Hold)} {index : ℕ} {event : Handler} {phase : Hold} {op : Op} {choice : Choice}
    {reply : Except Err op.Reply} (stalls : Stalls world.memory phases)
    (inv : Stocked env db₀ world stock phases) (found : phases[index]? = some (event, phase))
    (performed : op.perform env choice world = some (reply, world'))
    (shift : Shift world.memory world'.memory phase op reply (phase.after op reply)) :
    Stocked env db₀ world' (stock.sees phase op reply world)
      (phases.set index (event, phase.after op reply)) := by
  obtain ⟨_, _, evolves⟩ := shift.evolves stalls.sound
  refine ⟨?_, ?_, fun fee valid entry => ?_, ?_, ?_⟩
  · refine List.pairwise_append.mpr ⟨inv.order, ?_, fun old before new after => ?_⟩
    · unfold Op.pushed
      split
      · exact List.pairwise_singleton _ _
      · exact List.Pairwise.nil
    · rw [(shift.ticket_of_pushed after).2.1]
      exact (inv.tickets old before).2
  · intro entry member
    rcases List.mem_append.mp member with old | new
    · exact ⟨(inv.tickets entry old).1, (inv.tickets entry old).2.trans_le evolves.tickets⟩
    · obtain ⟨valid, ticket, next⟩ := shift.ticket_of_pushed new
      exact ⟨valid, ticket ▸ next⟩
  · have before := inv.once fee valid entry
    have moved := shift.seats_le (p := (· = entry)) stalls found valid fun first second here there => by
      rw [of_decide_eq_true here, of_decide_eq_true there]
    show seats fee _ world'.memory _ + (stock.played ++ phase.played op reply).countP _ ≤
      (stock.pushed ++ op.pushed world.memory.nextTicket).count (fee, entry)
    rw [List.countP_append, List.count_append, count_pushed, countP_played]
    omega
  · intro played member
    rcases List.mem_append.mp member with old | new
    · exact inv.fair played old
    · have owned := stalls.owned _ (List.mem_of_getElem? found) _ (holding_of_played new)
      exact ⟨owned.valid, owned.distinct⟩
  · intro matchId row here absent
    rcases shift.row_cases performed here with ⟨taken, new, agrees⟩ | ⟨row', before, same⟩
    · exact ⟨taken, List.mem_append_right _ new, agrees⟩
    · obtain ⟨taken, member, agrees⟩ := inv.rows matchId row' before absent
      exact ⟨taken, List.mem_append_left _ member, same ▸ agrees⟩

/-- **The rule of the entries.** -/
def stockRule (env : Env) (db₀ : Db) : QueueRule env stocktaker
    (fun (w : QueueRun Stock) move => undisturbed w move = true) where
  Inv world stock phases := Stocked env db₀ world stock phases
  enter := rfl
  spares _ _ spares := spares
  start w event state inv _ arrived := by
    have free : ∀ fee entry, event.hold.has fee (· = entry) = false := by
      cases event
      all_goals exact fun _ _ => rfl
    have memory := arrive_memory arrived
    refine ⟨inv.order, memory ▸ inv.tickets, fun fee valid entry => ?_, inv.fair, ?_⟩
    · have before := inv.once fee valid entry
      rw [memory]
      show seats fee _ _ _ + w.notes.played.countP _ ≤ w.notes.pushed.count _
      unfold seats at before ⊢
      simpa [List.countP_append, free] using before
    · rw [(arrive_frame arrived).2]
      exact inv.rows
  step w index choice event phase op next reply state stalls inv _ _ inPhase performed shift :=
    inv.step stalls inPhase performed shift
  fork world stock phases child inv _ := by
    refine ⟨inv.order, inv.tickets, fun fee valid entry => ?_, inv.fair, inv.rows⟩
    have before := inv.once fee valid entry
    unfold seats at before ⊢
    simpa [List.countP_append, Hold.has] using before
  outside w act state inv spares acted := by
    have memory := memory_outside spares acted
    refine ⟨inv.order, memory ▸ inv.tickets, memory ▸ inv.once, inv.fair, fun matchId row here absent => ?_⟩
    cases act with
    | tick ms =>
      cases acted
      exact inv.rows matchId row here absent
    | act choice op =>
      obtain ⟨⟨reply, state'⟩, performed, rfl⟩ := Option.map_eq_some_iff.mp acted
      have terms : (state'.db.matches_ matchId).map MatchRow.terms =
          (w.state.db.matches_ matchId).map MatchRow.terms := by
        refine terms_frame performed ?_
        rintro playerA playerB problemId fee rfl
        cases spares
      rw [here, Option.map_some] at terms
      obtain ⟨row', before, same⟩ := Option.map_eq_some_iff.mp terms.symm
      obtain ⟨taken, member, agrees⟩ := inv.rows matchId row' before absent
      exact ⟨taken, member, same ▸ agrees⟩

/-- An entry that was pushed to one queue plays for the fee of that queue only. -/
theorem Stocked.countP_plays {env : Env} {db₀ : Db} {world : World} {stock : Stock}
    {phases : List (Handler × Hold)} (inv : Stocked env db₀ world stock phases) {fee : ℕ} {entry : QueueEntry}
    (pushed : (fee, entry) ∈ stock.pushed) :
    stock.played.countP (·.plays entry) = stock.played.countP (·.playsFor fee entry) := by
  refine List.countP_congr fun played member => ?_
  suffices here : played.plays entry = true → played.taken.fee = fee by
    simp only [Matched.plays, Matched.playsFor, has_holding, Bool.or_eq_true, Bool.and_eq_true,
      decide_eq_true_eq] at here ⊢
    exact ⟨fun plays => ⟨here plays, plays⟩, fun plays => plays.2⟩
  intro plays
  have also : (played.taken.fee, entry) ∈ stock.pushed := by
    refine inv.pushed_of_played member ?_
    simp only [Matched.plays, Bool.or_eq_true, decide_eq_true_eq] at plays
    exact plays.imp Eq.symm Eq.symm
  have same := List.inj_on_of_nodup_map inv.tickets_nodup also pushed rfl
  exact congrArg Prod.fst same

/-- **An entry becomes a player of at most one match**, against another user, for the fee of the queue it
was pushed to. Whatever the handlers do, every match of the table that was not there at the start is one of
the matches played by two entries that were pushed to the queue of its fee. -/
theorem entry_matched_once (env : Env) {w₀ w : QueueRun Stock} (idle : w₀.threads = [])
    (empty : w₀.state.memory = {}) (blank : w₀.notes = {})
    (run : Watches (backend env) stocktaker (fun w move => undisturbed w move = true) w₀ w) :
    (w.notes.pushed.map (·.2.ticket)).Nodup ∧
    (∀ entry ∈ w.notes.pushed, w.notes.played.countP (·.plays entry.2) ≤ 1) ∧
    ∀ matchId row, w.state.db.matches_ matchId = some row → w₀.state.db.matches_ matchId = none →
      ∃ taken, ⟨matchId, taken⟩ ∈ w.notes.played ∧
        row.terms = (taken.playerA.userId, taken.playerB.userId, env.numeric.store taken.fee) ∧
        taken.playerA.userId ≠ taken.playerB.userId ∧
        (taken.fee, taken.playerA) ∈ w.notes.pushed ∧ (taken.fee, taken.playerB) ∈ w.notes.pushed := by
  have initial : (stockRule env w₀.state.db).Inv w₀.state w₀.notes [] := by
    rw [blank]
    refine ⟨List.Pairwise.nil, List.forall_mem_nil _, fun fee _ entry => ?_, List.forall_mem_nil _, ?_⟩
    · rw [empty]
      exact Nat.le_refl 0
    · intro matchId row here absent
      rw [absent] at here
      cases here
  obtain ⟨_, inv, _⟩ := (stockRule env w₀.state.db).holds idle empty initial run
  refine ⟨inv.tickets_nodup, fun entry pushed => ?_, fun matchId row here absent => ?_⟩
  · have single := List.nodup_iff_count_le_one.mp (List.Nodup.of_map _ inv.tickets_nodup) entry
    have once := inv.once entry.1 (inv.tickets entry pushed).1 entry.2
    rw [inv.countP_plays pushed]
    exact (Nat.le_add_left _ _).trans (once.trans single)
  · obtain ⟨taken, member, agrees⟩ := inv.rows matchId row here absent
    exact ⟨taken, member, agrees, (inv.fair _ member).2, inv.pushed_of_played member (.inl rfl),
      inv.pushed_of_played member (.inr rfl)⟩

/-- User 1 joins, then user 2 joins and is matched with user 1, as match 7. -/
def joinsAndPlays : List BackendMove :=
  .start (.queueJoin 1 "ann" 10 "all") :: List.replicate 11 (.step 0 .proceed) ++
    .start (.queueJoin 2 "bob" 10 "all") :: List.replicate 14 (.step 1 .proceed) ++
      [.step 1 (.fresh 7), .step 1 .proceed]

theorem entry_matched_once_played : ∃ w, Watches (backend sampleEnv) stocktaker
    (fun w move => undisturbed w move = true) ⟨openDoors, {}, []⟩ w ∧
      (w.state.db.matches_ 7).map MatchRow.terms = some (1, 2, 10) ∧
      (w.notes.pushed.map (·.2.userId) = [1, 2]) ∧
      (∀ entry ∈ w.notes.pushed, w.notes.played.countP (·.plays entry.2) ≤ 1) := by
  obtain ⟨w, run, ended⟩ := Machine.exists_watch (backend sampleEnv) stocktaker undisturbed
    ⟨openDoors, {}, []⟩ joinsAndPlays
    (fun w => decide ((w.state.db.matches_ 7).map MatchRow.terms = some (1, 2, 10) ∧
      w.notes.pushed.map (·.2.userId) = [1, 2])) (by decide +kernel)
  obtain ⟨row, users⟩ := of_decide_eq_true ended
  exact ⟨w, run, row, users, (entry_matched_once sampleEnv rfl rfl rfl run).2.1⟩

end SkillArena
