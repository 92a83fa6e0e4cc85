/-
**Attempts that fail, and the queue without them.**

`tryCreateMatch` takes two players off the front of a queue and, when no match comes of it, should leave the
queue as if it had not been there. `Line` is that queue: joins append to it, leaves and stale checks filter
it, a committed match takes its players out, and a failed attempt does nothing. The live queue is the line
without the players in the hands of running attempts, in the order of the joins and with one entry a user
(`failed_attempts_undone`), where

* a join makes its stale check while no other join or attempt has the user (`unhurried`);
* players are put back into the array that is still the queue, before everybody in it;
* an attempt gives its players up, by a failed call or by putting them back into an array that is no queue
  any more, only once neither of them waits.

Each is needed: a leave of a third user replaces the array, and players put back are in no queue any more
(`leave_loses_players`).
-/

import SkillArena.Store.Waitlist
import SkillArena.Proof.Entries

namespace SkillArena

open Async Waitlist

/-! ### The line -/

/-- The queues as they would be without the failed attempts. -/
abbrev Line := ℕ → List QueueEntry

/-- What the lines become by an operation. -/
def Line.sees : Hold → (op : Op) → Except Err op.Reply → World → Line → Line
  | _, .memory (.dropStale fee user), _, _, line =>
    Function.update line fee ((line fee).filter (·.userId != user))
  | _, .memory (.push fee user username category), _, world, line =>
    Function.update line fee (line fee ++ [⟨user, username, category, world.memory.nextTicket⟩])
  | _, .memory (.removeFromMemoryQueue user), _, _, line => fun fee => (line fee).filter (·.userId != user)
  | .holding taken, .transact (.createMatch ..), .ok _, _, line =>
    Function.update line taken.fee ((line taken.fee).filter (· ∉ [taken.playerA, taken.playerB]))
  | _, _, _, _, line => line

/-- The observer that keeps the lines. -/
def usher : Observer queueing World Handler Line := doorkeeper (fun _ line => line) Line.sees

/-- The players a handler has taken from the queue of a fee. -/
def Hold.inHand (fee : ℕ) : Hold → List QueueEntry
  | holding taken => if taken.fee = fee then [taken.playerA, taken.playerB] else []
  | _ => []

/-- The players that running attempts have taken from the queue of a fee. -/
def inHand (fee : ℕ) (phases : List (Handler × Hold)) : List QueueEntry :=
  phases.flatMap fun entry => entry.2.inHand fee

/-! ### The condition -/

/-- Neither player waits any more. -/
def Taken.forgotten (taken : Taken) (line : Line) : Bool :=
  taken.playerA ∉ line taken.fee && taken.playerB ∉ line taken.fee

/-- Players are put back into their queue before everybody in it, or not at all. -/
def Taken.returns (taken : Taken) (memory : Memory) (line : Line) : Bool :=
  if memory.memoryQueues taken.fee = taken.queue then
    (memory.live taken.fee).all fun other => taken.playerB.ticket < other.ticket
  else taken.forgotten line

/-- The call of an operation rejects. -/
def Op.rejects (env : Env) (choice : Choice) (op : Op) (world : World) : Bool :=
  match op.perform env choice world with
  | some (.error _, _) => true
  | _ => false

/-- What a handler that holds two players may do next. -/
def Taken.mayGo (env : Env) (taken : Taken) (choice : Choice) (op : Op) (w : QueueRun Line) : Bool :=
  match op with
  | .memory (.putBack _) => taken.returns w.state.memory w.notes
  | .transact (.createMatch ..) => true
  | op => !op.rejects env choice w.state || taken.forgotten w.notes

/-- **The condition on a run.** -/
def orderly (env : Env) (w : QueueRun Line) (move : BackendMove) : Bool :=
  unhurried w move && match move with
    | .step index choice => match w.threads[index]? with
      | some ⟨_, .holding taken, .await op _⟩ => taken.mayGo env choice op w
      | _ => true
    | _ => true

/-! ### One operation -/

/-- **The invariant of the lines.** -/
structure Lined (memory : Memory) (line : Line) (phases : List (Handler × Hold)) : Prop where
  placed : Placed memory phases
  tickets : ∀ fee ∈ validFees, ∀ entry, 0 < seats fee (· = entry) memory phases →
    entry.ticket < memory.nextTicket
  kept : ∀ fee ∈ validFees, Kept QueueEntry.userId QueueEntry.ticket (memory.live fee) (line fee)
    (inHand fee phases)
  waits : ∀ entry ∈ phases, ∀ taken, entry.2 = .holding taken →
    memory.memoryQueues taken.fee = taken.queue →
      taken.playerA ∈ line taken.fee ∧ taken.playerB ∈ line taken.fee
  ordered : ∀ entry ∈ phases, ∀ taken, entry.2 = .holding taken →
    taken.playerA.ticket < taken.playerB.ticket

section Line

variable {memory memory' : Memory} {phases : List (Handler × Hold)} {index : ℕ} {event : Handler}
  {phase phase' : Hold} {op : Op} {reply : Except Err op.Reply} {world : World} {line : Line} {fee : ℕ}
  {others : List QueueEntry}

theorem sees_of_queueless (quiet : op.queueless = true) : line.sees phase op reply world = line := by
  unfold Line.sees
  split
  all_goals first | rfl | cases quiet

theorem inHand_eq_nil (none : ∀ taken, phase ≠ .holding taken) : phase.inHand fee = [] := by
  cases phase
  case holding taken => exact absurd rfl (none taken)
  all_goals rfl

theorem inHand_holding (taken : Taken) :
    (Hold.holding taken).inHand taken.fee = [taken.playerA, taken.playerB] := if_pos rfl

theorem inHand_holding_of_ne {taken : Taken} (other : taken.fee ≠ fee) :
    (Hold.holding taken).inHand fee = [] := if_neg other

theorem seats_pos {entry : QueueEntry} (inside : entry ∈ memory.live fee ++ inHand fee phases) :
    0 < seats fee (· = entry) memory phases := by
  unfold seats
  rcases List.mem_append.mp inside with waiting | held
  · have counted : 0 < (memory.live fee).countP (· = entry) :=
      List.countP_pos_iff.mpr ⟨entry, waiting, by simp⟩
    omega
  · obtain ⟨⟨event, phase⟩, member, holds⟩ := List.mem_flatMap.mp held
    have counted : 0 < phases.countP fun held => held.2.has fee (· = entry) := by
      refine List.countP_pos_iff.mpr ⟨_, member, ?_⟩
      cases phase
      case holding taken =>
        by_cases same : taken.fee = fee
        · subst same
          rw [inHand_holding, List.mem_pair] at holds
          rcases holds with rfl | rfl
          · simp
          · simp
        · rw [inHand_holding_of_ne same] at holds
          cases holds
      all_goals cases holds
    omega

theorem seats_mono {p q : QueueEntry → Bool} (implies : ∀ entry, p entry = true → q entry = true) :
    seats fee p memory phases ≤ seats fee q memory phases := by
  refine Nat.add_le_add (List.countP_mono_left fun entry _ => implies entry)
    (List.countP_mono_left fun entry _ has => ?_)
  obtain ⟨event, phase⟩ := entry
  cases phase
  case holding taken =>
    simp only [has_holding, Bool.and_eq_true, Bool.or_eq_true] at has ⊢
    exact ⟨has.1, has.2.imp (implies _) (implies _)⟩
  all_goals cases has

theorem forgotten_pair {taken : Taken} (forgotten : taken.forgotten line = true) :
    ∀ entry ∈ [taken.playerA, taken.playerB], entry ∉ line taken.fee := by
  simpa [Taken.forgotten] using forgotten

theorem kept_forgotten {taken : Taken} {queue : List QueueEntry} (forgotten : taken.forgotten line = true)
    (kept : Kept QueueEntry.userId QueueEntry.ticket queue (line fee) ((Hold.holding taken).inHand fee ++ others)) :
    Kept QueueEntry.userId QueueEntry.ticket queue (line fee) others := by
  by_cases here : taken.fee = fee
  · subst here
    rw [inHand_holding] at kept
    exact kept.letGo (forgotten_pair forgotten)
  · rwa [inHand_holding_of_ne here] at kept

theorem kept_update {fee' : ℕ} {queues lines : ℕ → List QueueEntry} {queue waiters : List QueueEntry}
    (kept : Kept QueueEntry.userId QueueEntry.ticket (queues fee) (lines fee) others)
    (own : fee = fee' → Kept QueueEntry.userId QueueEntry.ticket queue waiters others) :
    Kept QueueEntry.userId QueueEntry.ticket (Function.update queues fee' queue fee)
      (Function.update lines fee' waiters fee) others := by
  by_cases here : fee = fee'
  · subst here
    rw [Function.update_self, Function.update_self]
    exact own rfl
  · rw [Function.update_of_ne here, Function.update_of_ne here]
    exact kept

/-- What the handler may do with two players in its hands. -/
structure Hold.Careful (phase phase' : Hold) (op : Op) (memory : Memory) (line : Line) : Prop where
  lost : ∀ taken, phase' = .lost taken → phase = .holding taken → taken.forgotten line = true
  back : ∀ taken, op = .memory (.putBack taken) → taken.returns memory line = true

/-- **The queue of a fee and its line, over one operation.** -/
theorem Shift.kept (valid : fee ∈ validFees)
    (kept : Kept QueueEntry.userId QueueEntry.ticket (world.memory.live fee) (line fee)
      (phase.inHand fee ++ others))
    (later : ∀ other ∈ world.memory.live fee ++ (phase.inHand fee ++ others),
      other.ticket < world.memory.nextTicket)
    (single : ∀ user, phase.joins user fee = true →
      ∀ other ∈ world.memory.live fee ++ (phase.inHand fee ++ others), other.userId ≠ user)
    (waits : ∀ taken, phase = .holding taken → world.memory.memoryQueues taken.fee = taken.queue →
      taken.playerA ∈ line taken.fee ∧ taken.playerB ∈ line taken.fee)
    (ordered : ∀ taken, phase = .holding taken → taken.playerA.ticket < taken.playerB.ticket)
    (careful : phase.Careful phase' op world.memory line)
    (shift : Shift world.memory memory' phase op reply phase') :
    Kept QueueEntry.userId QueueEntry.ticket (memory'.live fee) (line.sees phase op reply world fee)
      (phase'.inHand fee ++ others) := by
  cases shift
  case idle same quiet =>
    rw [same, sees_of_queueless quiet]
    exact kept
  case giveUp same gives quiet =>
    rw [same, sees_of_queueless quiet]
    rwa [inHand_eq_nil (by rintro taken rfl; cases gives)] at kept
  case lose taken err same quiet =>
    rw [same, sees_of_queueless quiet]
    exact kept_forgotten (careful.lost taken rfl rfl) kept
  case commit taken matchId problemId same =>
    rw [same]
    show Kept _ _ _ (Function.update line _ _ _) others
    by_cases here : taken.fee = fee
    · subst here
      rw [inHand_holding] at kept
      rw [Function.update_self]
      exact kept.serve
    · rw [inHand_holding_of_ne here] at kept
      rw [Function.update_of_ne (Ne.symm here)]
      exact kept
  case reject same =>
    rw [same]
    exact kept
  case stale user fee' valid' evolves =>
    rw [evolves.live fee valid]
    refine kept_update kept ?_
    rintro rfl
    exact kept.leave _
  case push user fee' username category valid' evolves next =>
    rw [evolves.live fee valid]
    refine kept_update kept ?_
    rintro rfl
    exact kept.join later (single user (by simp [Hold.joins]))
  case count same => rw [same]; exact kept
  case pass same => rw [same]; exact kept
  case drop fee' first second rest valid' front twice evolves =>
    rw [evolves.live fee valid]
    by_cases here : fee = fee'
    · subst here
      -- a user is in the queue once
      have owners := kept.owners
      rw [front] at owners
      simp [twice] at owners
    · rw [Function.update_of_ne here]
      exact kept
  case take fee' playerA playerB rest valid' front distinct evolves =>
    rw [evolves.live fee valid]
    by_cases here : fee = fee'
    · subst here
      rw [front] at kept
      rw [inHand_holding ⟨fee, _, playerA, playerB⟩, Function.update_self]
      exact Kept.take kept
    · rw [inHand_holding_of_ne (Ne.symm here), Function.update_of_ne here]
      exact kept
  case putBack taken attached evolves =>
    rw [evolves.live fee valid]
    by_cases here : taken.fee = fee
    · subst here
      rw [inHand_holding] at kept
      rw [Function.update_self]
      refine kept.restore (by simpa using waits taken rfl attached) ?_
      have back := careful.back taken rfl
      rw [Taken.returns, if_pos attached] at back
      exact kept.in_order.cons_pair (ordered taken rfl) fun other inside => by
        simpa using List.all_eq_true.mp back other inside
    · rw [inHand_holding_of_ne here] at kept
      rw [Function.update_of_ne (Ne.symm here)]
      exact kept
  case abandon taken detached evolves =>
    have back := careful.back taken rfl
    rw [Taken.returns, if_neg detached] at back
    rw [evolves.live fee valid]
    exact kept_forgotten back kept
  case depart user evolves =>
    rw [evolves.live fee valid]
    exact kept.leave _
  case leave user evolves =>
    rw [evolves.live fee valid]
    exact kept.leave _
  case tell same => rw [same]; exact kept

/-- Who waits, taken from an array that is still the queue, goes on waiting. -/
theorem Shift.waits_on {taken : Taken} {player : QueueEntry} (sound : world.memory.Sound)
    (owned : taken.Owned world.memory) (shift : Shift world.memory memory' phase op reply phase')
    (attached : memory'.memoryQueues taken.fee = taken.queue)
    (waits : world.memory.memoryQueues taken.fee = taken.queue → player ∈ line taken.fee)
    (stays : ∀ user, op = .memory (.dropStale taken.fee user) → player.userId ≠ user)
    (unserved : ∀ served, phase = .holding served → phase' = .away → served.fee = taken.fee →
      player ∉ [served.playerA, served.playerB]) :
    player ∈ line.sees phase op reply world taken.fee := by
  have before : player ∈ line taken.fee := by
    obtain ⟨_, _, evolves⟩ := shift.evolves sound
    exact waits (owned.kept_of_attached evolves owned.valid attached).1
  cases shift
  case idle same quiet => rwa [sees_of_queueless quiet]
  case giveUp same gives quiet => rwa [sees_of_queueless quiet]
  case lose same quiet => rwa [sees_of_queueless quiet]
  case commit served matchId problemId same =>
    show player ∈ Function.update line _ _ _
    by_cases here : taken.fee = served.fee
    · rw [here, Function.update_self, List.mem_filter, decide_eq_true_eq]
      exact ⟨here ▸ before, unserved served rfl rfl here.symm⟩
    · rwa [Function.update_of_ne here]
  case stale user fee' valid' evolves =>
    show player ∈ Function.update line _ _ _
    by_cases here : taken.fee = fee'
    · subst here
      rw [Function.update_self, List.mem_filter]
      exact ⟨before, by simpa using stays user rfl⟩
    · rwa [Function.update_of_ne here]
  case push user fee' username category valid' evolves next =>
    show player ∈ Function.update line _ _ _
    by_cases here : taken.fee = fee'
    · subst here
      rw [Function.update_self]
      exact List.mem_append_left _ before
    · rwa [Function.update_of_ne here]
  case depart user evolves =>
    exact absurd trivial (owned.kept_of_attached evolves owned.valid attached).2
  case leave user evolves =>
    exact absurd trivial (owned.kept_of_attached evolves owned.valid attached).2
  all_goals exact before

/-- What is newly in hand was at the front of the line. -/
theorem Shift.taken_front {taken : Taken} (shift : Shift world.memory memory' phase op reply phase')
    (kept : ∀ fee ∈ validFees, Kept QueueEntry.userId QueueEntry.ticket (world.memory.live fee) (line fee)
      (inHand fee phases))
    (holds : phase' = .holding taken) :
    phase = .holding taken ∨ (taken.playerA.ticket < taken.playerB.ticket ∧
      taken.playerA ∈ line.sees phase op reply world taken.fee ∧
      taken.playerB ∈ line.sees phase op reply world taken.fee) := by
  cases shift
  case idle => exact .inl holds
  case reject => exact .inl holds
  case take fee' playerA playerB rest valid' front distinct evolves =>
    cases holds
    have here := kept fee' valid'
    have order := here.in_order
    rw [front] at order
    refine .inr ⟨(List.pairwise_cons.mp order).1 playerB List.mem_cons_self,
      (here.mem_queue.mp ?_).1, (here.mem_queue.mp ?_).1⟩
    · rw [front]
      exact List.mem_cons_self
    · rw [front]
      exact List.mem_cons_of_mem _ List.mem_cons_self
  all_goals cases holds

namespace Lined

/-- Who has a ticket has an earlier one than the next. -/
theorem tickets_step (lined : Lined world.memory line phases) (stalls : Stalls world.memory phases)
    (found : phases[index]? = some (event, phase))
    (shift : Shift world.memory memory' phase op reply phase') (valid : fee ∈ validFees) (entry : QueueEntry)
    (seated : 0 < seats fee (· = entry) memory' (phases.set index (event, phase'))) :
    entry.ticket < memory'.nextTicket := by
  obtain ⟨_, _, evolves⟩ := shift.evolves stalls.sound
  have moved := shift.seats_le (p := (· = entry)) stalls found valid fun first second here there => by
    rw [of_decide_eq_true here, of_decide_eq_true there]
  by_cases before : 0 < seats fee (· = entry) world.memory phases
  · exact (lined.tickets fee valid entry before).trans_le evolves.tickets
  · have pushed : 0 < (op.pushed world.memory.nextTicket).count (fee, entry) := by
      rw [count_pushed]
      omega
    obtain ⟨_, ticket, next⟩ := shift.ticket_of_pushed (List.count_pos_iff.mp pushed)
    exact ticket ▸ next

/-- Nobody in the queue or in hand is about to be pushed. -/
theorem single (lined : Lined world.memory line phases) (found : phases[index]? = some (event, phase))
    (valid : fee ∈ validFees) {user : UserId} (joins : phase.joins user fee = true) {other : QueueEntry}
    (inside : other ∈ world.memory.live fee ++ inHand fee phases) : other.userId ≠ user := by
  rintro rfl
  have bound := lined.placed fee valid other.userId
  have joining : 0 < phases.countP fun entry => entry.2.joins other.userId fee :=
    List.countP_pos_iff.mpr ⟨_, List.mem_of_getElem? found, joins⟩
  have seated := seats_pos inside
  have more : seats fee (· = other) world.memory phases ≤
      seats fee (QueueEntry.ofUser other.userId) world.memory phases := by
    refine seats_mono fun entry same => ?_
    rw [of_decide_eq_true same]
    exact decide_eq_true rfl
  unfold places at bound
  omega

theorem unserved {served taken : Taken} (lined : Lined world.memory line phases)
    (found : phases[index]? = some (event, .holding served)) (valid : taken.fee ∈ validFees)
    (same : served.fee = taken.fee) {entry : Handler × Hold} (member : entry ∈ phases.set index (event, .away))
    (holds : entry.2 = .holding taken) {player : QueueEntry} (plays : player ∈ [taken.playerA, taken.playerB]) :
    player ∉ [served.playerA, served.playerB] := by
  obtain ⟨others, before, after⟩ := flatMap_set (fun entry : Handler × Hold => entry.2.inHand taken.fee) found
  have held : player ∈ others := by
    refine ((after (event, .away)).mem_iff (a := player)).mp (List.mem_flatMap.mpr ⟨entry, member, ?_⟩)
    rw [holds, inHand_holding]
    exact plays
  have nodup := (before.nodup_iff.mp (List.nodup_append.mp (lined.kept _ valid).nodup).2.1)
  have mine : (Hold.holding served).inHand taken.fee = [served.playerA, served.playerB] := if_pos same
  dsimp only at nodup
  rw [mine] at nodup
  exact fun twice => (List.nodup_append.mp nodup).2.2 player twice player held rfl

/-- **One operation of a careful handler keeps the lines.** -/
theorem step (lined : Lined world.memory line phases) (stalls : Stalls world.memory phases)
    (found : phases[index]? = some (event, phase))
    (shift : Shift world.memory memory' phase op reply phase')
    (careful : phase.Careful phase' op world.memory line)
    (placed : Placed memory' (phases.set index (event, phase')))
    (clear : ∀ fee user, op = .memory (.dropStale fee user) →
      ∀ entry ∈ phases, entry.2.has fee (QueueEntry.ofUser user) = false) :
    Lined memory' (line.sees phase op reply world) (phases.set index (event, phase')) := by
  have here := List.mem_of_getElem? found
  have kept : ∀ fee ∈ validFees, Kept QueueEntry.userId QueueEntry.ticket (memory'.live fee)
      (line.sees phase op reply world fee) (inHand fee (phases.set index (event, phase'))) := by
    intro fee valid
    obtain ⟨others, before, after⟩ := flatMap_set (fun entry : Handler × Hold => entry.2.inHand fee) found
    have inside : ∀ other ∈ world.memory.live fee ++ (phase.inHand fee ++ others),
        other ∈ world.memory.live fee ++ inHand fee phases :=
      fun other member => ((before.append_left _).mem_iff (a := other)).mpr member
    refine (shift.kept valid ((lined.kept fee valid).congr before) (fun other member => ?_)
      (fun user joins other member => ?_) (lined.waits _ here) (lined.ordered _ here) careful).congr
      (after (event, phase')).symm
    · exact lined.tickets fee valid other (seats_pos (inside other member))
    · exact lined.single found valid joins (inside other member)
  refine ⟨placed, fun fee valid entry => lined.tickets_step stalls found shift valid entry, kept,
    fun entry member taken holds attached => ?_, fun entry member taken holds => ?_⟩
  · have fresh : (entry ∈ phases) ∨ (taken.playerA ∈ line.sees phase op reply world taken.fee ∧
        taken.playerB ∈ line.sees phase op reply world taken.fee) := by
      rcases List.mem_or_eq_of_mem_set member with old | rfl
      · exact .inl old
      · rcases shift.taken_front lined.kept holds with old | ⟨_, both⟩
        · rw [show phase' = phase from holds.trans old.symm]
          exact .inl here
        · exact .inr both
    rcases fresh with old | both
    · have owned := stalls.owned entry old taken holds
      have goesOn : ∀ player ∈ [taken.playerA, taken.playerB],
          player ∈ line.sees phase op reply world taken.fee := by
        intro player plays
        refine shift.waits_on stalls.sound owned attached (fun was => ?_) (fun user stale => ?_)
          fun served serves away same => ?_
        · exact List.forall_mem_cons.mpr ⟨(lined.waits entry old taken holds was).1,
            List.forall_mem_singleton.mpr (lined.waits entry old taken holds was).2⟩ player plays
        · have unheld := clear taken.fee user stale entry old
          rw [holds] at unheld
          rintro rfl
          rcases List.mem_pair.mp plays with rfl | rfl
          · simp [QueueEntry.ofUser] at unheld
          · simp [QueueEntry.ofUser] at unheld
        · subst serves away
          exact lined.unserved found owned.valid same member holds plays
      exact ⟨goesOn _ List.mem_cons_self, goesOn _ (List.mem_cons_of_mem _ List.mem_cons_self)⟩
    · exact both
  · rcases List.mem_or_eq_of_mem_set member with old | rfl
    · exact lined.ordered entry old taken holds
    · rcases shift.taken_front lined.kept holds with old | ⟨order, _⟩
      · exact lined.ordered _ here taken old
      · exact order

theorem start (lined : Lined memory line phases) (event : Handler) :
    Lined memory line (phases ++ [(event, event.hold)]) := by
  have free : ∀ taken, event.hold ≠ .holding taken := by
    cases event
    all_goals exact nofun
  have old : ∀ {entry : Handler × Hold} {taken : Taken}, entry ∈ phases ++ [(event, event.hold)] →
      entry.2 = .holding taken → entry ∈ phases := by
    intro entry taken member holds
    refine (List.mem_append.mp member).resolve_right fun new => ?_
    cases List.mem_singleton.mp new
    exact free taken holds
  refine ⟨lined.placed.start event, fun fee valid entry seated => ?_, fun fee valid => ?_,
    fun entry member taken holds => lined.waits entry (old member holds) taken holds,
    fun entry member taken holds => lined.ordered entry (old member holds) taken holds⟩
  · refine lined.tickets fee valid entry ?_
    unfold seats at seated ⊢
    simpa [List.countP_append, has_eq_false free] using seated
  · unfold inHand
    rw [List.flatMap_append, List.flatMap_singleton, inHand_eq_nil free, List.append_nil]
    exact lined.kept fee valid

end Lined

end Line

/-! ### Every run -/

theorem orderly_careful {env : Env} {w : QueueRun Line} {index : ℕ} {choice : Choice} {event : Handler}
    {phase phase' : Hold} {op : Op} {next : Except Err op.Reply → Prog signature Unit}
    {reply : Except Err op.Reply} {world' : World} (allowed : orderly env w (.step index choice) = true)
    (found : w.threads[index]? = some ⟨event, phase, .await op next⟩)
    (performed : op.perform env choice w.state = some (reply, world'))
    (shift : Shift w.state.memory world'.memory phase op reply phase') :
    phase.Careful phase' op w.state.memory w.notes := by
  have may : ∀ taken, phase = .holding taken → taken.mayGo env choice op w = true := by
    rintro taken rfl
    have rest := (Bool.and_eq_true_iff.mp allowed).2
    simpa only [found] using rest
  refine ⟨?_, ?_⟩
  · rintro taken rfl rfl
    have mine := may taken rfl
    cases shift
    case lose quiet =>
      unfold Taken.mayGo at mine
      split at mine
      · cases quiet
      · cases quiet
      · simpa [Op.rejects, performed] using mine
  · rintro taken rfl
    cases shift
    case putBack => exact may taken rfl
    case abandon => exact may taken rfl
    case idle quiet => cases quiet
    case giveUp quiet => cases quiet
    case lose quiet => cases quiet

/-- **The rule of the lines.** -/
def lineRule (env : Env) : QueueRule env usher (fun w move => orderly env w move = true) where
  Inv world line phases := Lined world.memory line phases
  enter := rfl
  spares w act allowed := (Bool.and_eq_true_iff.mp allowed).1
  start w event state inv _ arrived := by
    rw [arrive_memory arrived]
    exact inv.start event
  step w index choice event phase op next reply state stalls inv allowed found inPhase performed shift := by
    have unhurried := (Bool.and_eq_true_iff.mp allowed).1
    refine inv.step stalls inPhase shift (orderly_careful allowed found performed shift)
      (inv.placed.step stalls unhurried found shift) ?_
    rintro fee user rfl entry member
    have clear : clearFor user fee w = true := by simpa [SkillArena.unhurried, found] using unhurried
    exact (clearFor_phases clear entry member).2
  fork world line phases child inv away := by
    have started := inv.start child
    rwa [away] at started
  outside w act state inv allowed acted := by
    rw [memory_outside (Bool.and_eq_true_iff.mp allowed).1 acted]
    exact inv

/-- **Failed attempts are undone.** In every state of a run that meets the condition the queue of a fee is
its line without the players whom running attempts hold; the line is in the order of the joins and has a
user once. -/
theorem failed_attempts_undone (env : Env) {w₀ w : QueueRun Line} (idle : w₀.threads = [])
    (empty : w₀.state.memory = {}) (blank : w₀.notes = fun _ => [])
    (run : Watches (backend env) usher (fun w move => orderly env w move = true) w₀ w) {fee : ℕ}
    (valid : fee ∈ validFees) :
    w.state.memory.live fee = (w.notes fee).filter (· ∉ inHand fee w.phases) ∧
    InOrder QueueEntry.ticket (w.notes fee) ∧ ((w.notes fee).map QueueEntry.userId).Nodup ∧
    ∀ thread ∈ w.threads, ∀ value, thread.prog = .done value → Hold.inHand fee thread.phase = [] := by
  have initial : (lineRule env).Inv w₀.state w₀.notes [] := by
    show Lined w₀.state.memory w₀.notes []
    rw [empty, blank]
    refine ⟨fun _ _ _ => Nat.zero_le _, fun _ _ _ none => absurd none (lt_irrefl 0), fun _ _ => ?_,
      List.forall_mem_nil _, List.forall_mem_nil _⟩
    exact ⟨rfl, List.Pairwise.nil, List.nodup_nil⟩
  obtain ⟨_, lined, follows⟩ := (lineRule env).holds idle empty initial run
  have kept := lined.kept fee valid
  refine ⟨kept.queue_eq, kept.order, kept.owners_waiting, fun thread member value finished => ?_⟩
  have ended := follows thread member
  rw [finished] at ended
  refine inHand_eq_nil fun taken holds => ?_
  rw [holds] at ended
  exact ended

/-- The two users can pay, but there is nothing to play. -/
def noProblems : World where
  now := 0
  db := twoPlayers

/-- Users join, user 3 leaves, and nothing fails. -/
def joinsOnly : BackendMove → Bool
  | .start (.queueJoin ..) => true
  | .start (.queueLeave user) => user = 3
  | .start _ => false
  | .step _ choice => choice ≠ .fail
  | .outside _ => false

/-- Users 1 and 2 join. The attempt of the second join has taken both when user 3 leaves; then it finds no
problem and puts them back. -/
def leavesBetween : List BackendMove :=
  .start (.queueJoin 1 "ann" 10 "all") :: List.replicate 11 (.step 0 .proceed) ++
    .start (.queueJoin 2 "bob" 10 "all") :: List.replicate 13 (.step 1 .proceed) ++
    .start (.queueLeave 3) :: List.replicate 5 (.step 2 .proceed) ++ List.replicate 4 (.step 1 .proceed)

/-- **A leave of somebody else loses both players**: they have joined and not left, no attempt is running
any more, no match was made, and the queue is empty. -/
theorem leave_loses_players : ∃ c, Reaches (backend sampleEnv) (fun _ move => joinsOnly move = true)
    ⟨noProblems, []⟩ c ∧ (.sender 1, .queueJoined 10 1) ∈ c.state.sent ∧
      (.sender 2, .queueJoined 10 2) ∈ c.state.sent ∧ c.state.db.ledger = [] ∧
      (∀ thread ∈ c.threads, thread.2.head = none) ∧ c.state.memory.live 10 = [] := by
  obtain ⟨c, run, ended⟩ := Machine.exists_run (backend sampleEnv) (fun _ move => joinsOnly move)
    ⟨noProblems, []⟩ leavesBetween (fun c => decide ((.sender 1, .queueJoined 10 1) ∈ c.state.sent ∧
      (.sender 2, .queueJoined 10 2) ∈ c.state.sent ∧ c.state.db.ledger = []) &&
      c.threads.all (fun thread => thread.2.head.isNone) && decide (c.state.memory.live 10 = []))
    (by decide +kernel)
  simp only [Bool.and_eq_true, decide_eq_true_eq, List.all_eq_true, Option.isNone_iff_eq_none] at ended
  obtain ⟨⟨⟨first, second, unpaid⟩, finished⟩, lost⟩ := ended
  exact ⟨c, run, first, second, unpaid, finished, lost⟩

/-- The same without the leave. -/
def putsBack : List BackendMove :=
  .start (.queueJoin 1 "ann" 10 "all") :: List.replicate 11 (.step 0 .proceed) ++
    .start (.queueJoin 2 "bob" 10 "all") :: List.replicate 17 (.step 1 .proceed)

theorem failed_attempts_undone_two : ∃ w, Watches (backend sampleEnv) usher
    (fun w move => orderly sampleEnv w move = true) ⟨noProblems, fun _ => [], []⟩ w ∧
      (w.state.memory.live 10).map (·.userId) = [1, 2] ∧
      w.state.memory.live 10 = (w.notes 10).filter (· ∉ inHand 10 w.phases) := by
  obtain ⟨w, run, ended⟩ := Machine.exists_watch (backend sampleEnv) usher (orderly sampleEnv)
    ⟨noProblems, fun _ => [], []⟩ putsBack (fun w => (w.state.memory.live 10).map (·.userId) = [1, 2])
    (by decide +kernel)
  have valid : 10 ∈ validFees := by decide
  exact ⟨w, run, of_decide_eq_true ended, (failed_attempts_undone sampleEnv rfl rfl rfl run valid).1⟩

end SkillArena
