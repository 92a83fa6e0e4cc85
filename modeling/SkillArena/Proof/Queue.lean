/-
**The in-memory queues, and who holds what.**

`memoryQueues[fee]` is an array; a join, a leave and a disconnect replace it by a filtered copy, while a
`tryCreateMatch` in flight keeps the array it has taken its two players from. `Memory.Evolves` says what an
array operation does to the queues; the handlers are followed through `Hold`, what a handler holds or is
about to do with the queues.

* `queueing` — the contract: who pushes has made the stale check, who puts back or commits has taken.
* `Shift` — what one operation of a handler does to the queues, `shift_of_perform`.
* `Stalls` — the invariant of the arrays: every queue has its own, and what is taken from one queue never
  comes back to another.
-/

import SkillArena.Async.Watch
import SkillArena.Proof.Footprint
import SkillArena.Proof.Effects

namespace SkillArena

open Async Expiring

/-! ### Arrays -/

/-- Every queue has an array of its own. -/
structure Memory.Sound (memory : Memory) : Prop where
  below : ∀ fee ∈ validFees, memory.memoryQueues fee < memory.nextArray
  apart : ∀ fee ∈ validFees, ∀ fee' ∈ validFees,
    memory.memoryQueues fee = memory.memoryQueues fee' → fee = fee'

/-- **What becomes of the queues**: their entries, and those that are new arrays. -/
structure Memory.Evolves (memory memory' : Memory) (queues : ℕ → List QueueEntry) (replaced : ℕ → Prop) :
    Prop where
  sound : memory'.Sound
  live : ∀ fee ∈ validFees, memory'.live fee = queues fee
  kept : ∀ fee ∈ validFees, ¬ replaced fee → memory'.memoryQueues fee = memory.memoryQueues fee
  fresh : ∀ fee ∈ validFees, replaced fee → memory.nextArray ≤ memory'.memoryQueues fee
  arrays : memory.nextArray ≤ memory'.nextArray
  tickets : memory.nextTicket ≤ memory'.nextTicket

namespace Memory

variable {memory : Memory} {fee : ℕ} {user : UserId}

theorem evolves_refl (sound : memory.Sound) : memory.Evolves memory memory.live fun _ => False :=
  ⟨sound, fun _ _ => rfl, fun _ _ _ => rfl, fun _ _ => False.elim, le_rfl, le_rfl⟩

theorem evolves_setArray (sound : memory.Sound) (valid : fee ∈ validFees) (entries : List QueueEntry) :
    memory.Evolves (memory.setArray (memory.memoryQueues fee) entries)
      (Function.update memory.live fee entries) fun _ => False := by
  refine ⟨⟨sound.below, sound.apart⟩, fun fee' valid' => ?_, fun _ _ _ => rfl, fun _ _ => False.elim,
    le_rfl, le_rfl⟩
  by_cases same : fee' = fee
  · subst same
    rw [Function.update_self]
    exact Function.update_self _ _ _
  · rw [Function.update_of_ne same]
    exact Function.update_of_ne (fun equal => same (sound.apart fee' valid' fee valid equal)) _ _

theorem evolves_setArray_dead (sound : memory.Sound) {ref : ℕ}
    (dead : ∀ fee ∈ validFees, memory.memoryQueues fee ≠ ref) (entries : List QueueEntry) :
    memory.Evolves (memory.setArray ref entries) memory.live fun _ => False := by
  refine ⟨⟨sound.below, sound.apart⟩, fun fee' valid' => ?_, fun _ _ _ => rfl, fun _ _ => False.elim,
    le_rfl, le_rfl⟩
  exact Function.update_of_ne (dead fee' valid') _ _

theorem evolves_dropUser (sound : memory.Sound) (fee : ℕ) (user : UserId) :
    memory.Evolves (memory.dropUser fee user)
      (Function.update memory.live fee ((memory.live fee).filter (·.userId != user))) (· = fee) := by
  have self : (memory.dropUser fee user).memoryQueues fee = memory.nextArray := Function.update_self _ _ _
  have other : ∀ fee', fee' ≠ fee →
      (memory.dropUser fee user).memoryQueues fee' = memory.memoryQueues fee' :=
    fun fee' different => Function.update_of_ne different _ _
  refine ⟨⟨fun fee' valid' => ?_, fun first valid₁ second valid₂ equal => ?_⟩, fun fee' valid' => ?_,
    fun fee' _ different => other fee' different, fun fee' _ same => ?_, Nat.le_succ _, le_rfl⟩
  · by_cases same : fee' = fee
    · rw [same, self]
      exact Nat.lt_succ_self _
    · rw [other fee' same]
      exact (sound.below fee' valid').trans (Nat.lt_succ_self _)
  · by_cases here : first = fee
    · by_cases there : second = fee
      · rw [here, there]
      · rw [here, self, other second there] at equal
        exact absurd equal (sound.below second valid₂).ne'
    · by_cases there : second = fee
      · rw [there, self, other first here] at equal
        exact absurd equal (sound.below first valid₁).ne
      · rw [other first here, other second there] at equal
        exact sound.apart first valid₁ second valid₂ equal
  · unfold live
    by_cases same : fee' = fee
    · rw [same, self, Function.update_self]
      exact Function.update_self _ _ _
    · rw [other fee' same, Function.update_of_ne same]
      exact Function.update_of_ne (sound.below fee' valid').ne _ _
  · rw [same, self]

theorem evolves_dropAll (sound : memory.Sound) (user : UserId) (fees : List ℕ) :
    memory.Evolves (fees.foldl (fun memory fee => memory.dropUser fee user) memory)
      (fun fee => if fee ∈ fees then (memory.live fee).filter (·.userId != user) else memory.live fee)
      (· ∈ fees) := by
  induction fees generalizing memory with
  | nil => simpa using evolves_refl sound
  | cons first rest ih =>
    have one := evolves_dropUser sound first user
    have more := ih one.sound
    refine ⟨more.sound, fun fee valid' => ?_, fun fee valid' outside => ?_, fun fee valid' inside => ?_,
      one.arrays.trans more.arrays, one.tickets.trans more.tickets⟩
    · rw [List.foldl_cons, more.live fee valid', one.live fee valid']
      by_cases same : fee = first
      · subst same
        rw [Function.update_self, List.filter_filter]
        simp
      · rw [Function.update_of_ne same]
        simp [same]
    · rw [List.mem_cons, not_or] at outside
      rw [List.foldl_cons, more.kept fee valid' outside.2, one.kept fee valid' outside.1]
    · rw [List.foldl_cons]
      by_cases later : fee ∈ rest
      · exact one.arrays.trans (more.fresh fee valid' later)
      · rw [more.kept fee valid' later]
        exact one.fresh fee valid' ((List.mem_cons.mp inside).resolve_right later)

/-- **Taking a user out of every queue** replaces every array. -/
theorem evolves_remove (sound : memory.Sound) (user : UserId) :
    memory.Evolves ((MemoryOp.removeFromMemoryQueue user).exec memory).2
      (fun fee => (memory.live fee).filter (·.userId != user)) fun _ => True := by
  have all := evolves_dropAll sound user validFees
  refine ⟨all.sound, fun fee valid => ?_, fun _ _ never => absurd trivial never,
    fun fee valid _ => all.fresh fee valid valid, all.arrays, all.tickets⟩
  exact (all.live fee valid).trans (if_pos valid)

end Memory

/-- What is taken from a queue belongs to it: its array is, or was, the array of that queue only. The two
players are two users. -/
structure Taken.Owned (taken : Taken) (memory : Memory) : Prop where
  valid : taken.fee ∈ validFees
  distinct : taken.playerA.userId ≠ taken.playerB.userId
  below : taken.queue < memory.nextArray
  own : ∀ fee ∈ validFees, memory.memoryQueues fee = taken.queue → fee = taken.fee

namespace Taken.Owned

variable {taken : Taken} {memory memory' : Memory} {queues : ℕ → List QueueEntry} {replaced : ℕ → Prop}

theorem kept_of_attached (owned : taken.Owned memory) (evolves : memory.Evolves memory' queues replaced)
    {fee : ℕ} (valid : fee ∈ validFees) (attached : memory'.memoryQueues fee = taken.queue) :
    memory.memoryQueues fee = taken.queue ∧ ¬ replaced fee := by
  have kept : ¬ replaced fee := by
    intro new
    have fresh := evolves.fresh fee valid new
    rw [attached] at fresh
    exact absurd owned.below (not_lt.mpr fresh)
  exact ⟨(evolves.kept fee valid kept).symm.trans attached, kept⟩

theorem evolve (owned : taken.Owned memory) (evolves : memory.Evolves memory' queues replaced) :
    taken.Owned memory' :=
  ⟨owned.valid, owned.distinct, owned.below.trans_le evolves.arrays, fun fee valid attached =>
    owned.own fee valid (owned.kept_of_attached evolves valid attached).1⟩

end Taken.Owned

/-! ### The contract -/

/-- **What a handler has to do with the queues**: nothing; it is about to make the stale check of a join, or
to push; it may take two players; it has taken two, or has lost them; it is about to take a user out, or to
say so. -/
inductive Hold
  | away
  | arriving (user : UserId) (fee : ℕ)
  | joining (user : UserId) (fee : ℕ)
  | free (fee : ℕ)
  | holding (taken : Taken)
  | lost (taken : Taken)
  | leaving (user : UserId)
  | left (user : UserId)
  deriving DecidableEq

def Handler.hold : Handler → Hold
  | queueJoin user _ fee _ => .arriving user fee
  | worker fee => .free fee
  | queueLeave user => .leaving user
  | _ => .away

namespace Hold

/-- The synchronous blocks of a phase. -/
def block : Hold → MemoryOp → Prop
  | away, .removeFromMemoryQueue _ => True
  | arriving user fee, .dropStale fee' user' => fee' = fee ∧ user' = user ∧ fee ∈ validFees
  | joining user fee, .push fee' user' _ _ => fee' = fee ∧ user' = user ∧ fee ∈ validFees
  | free _, .length _ => True
  | free fee, .takeTwo fee' => fee' = fee
  | holding taken, .putBack taken' => taken' = taken
  | leaving user, .removeFromMemoryQueue user' => user' = user
  | _, _ => False

def may : Hold → Op → Prop
  | phase, .memory act => phase.block act
  | holding taken, .transact (.createMatch _ playerA playerB _ fee) =>
    playerA = taken.playerA.userId ∧ playerB = taken.playerB.userId ∧ fee = taken.fee
  | _, .transact (.createMatch ..) => False
  | left user, .emit room .queueLeft => room = .sender user
  | _, .emit _ .queueLeft => False
  | _, .fork child => child.hold = .away
  | _, _ => True

/-- What does not fail does not, and the two players are of the queue they were asked from. -/
def answers : (op : Op) → Except Err op.Reply → Prop
  | .memory (.takeTwo fee), reply => ∃ result, reply = .ok result ∧ ∀ taken, result = some taken → taken.fee = fee
  | .memory _, reply => reply.isOk = true
  | .emit .., reply => reply.isOk = true
  | _, _ => True

def after : Hold → (op : Op) → Except Err op.Reply → Hold
  | arriving user fee, .memory _, _ => .joining user fee
  | joining _ fee, .memory _, _ => .free fee
  | free _, .memory (.takeTwo _), .ok (some taken) => .holding taken
  | free _, .memory (.takeTwo _), _ => .away
  | holding _, .memory _, _ => .away
  | holding _, .transact (.createMatch ..), .ok _ => .away
  | holding taken, .transact (.createMatch ..), .error _ => .holding taken
  | holding taken, _, .error _ => .lost taken
  | leaving user, .memory _, _ => .left user
  | arriving .., .emit .., _ => .away
  | joining .., .emit .., _ => .away
  | left _, .emit _ .queueLeft, _ => .away
  | left _, _, .error _ => .away
  | phase, _, _ => phase

/-- The phases a handler may end in. -/
def ended : Hold → Prop
  | away | free _ | lost _ => True
  | _ => False

end Hold

/-- **The contract of the queues.** -/
@[reducible] def queueing : Contract signature where
  Phase := Hold
  may := Hold.may
  answers _ := Hold.answers
  after := Hold.after

/-- The operation is no block on the queues, creates no match and tells nobody to have left. -/
def Op.queueless : Op → Bool
  | memory _ | transact (.createMatch ..) | emit _ .queueLeft => false
  | fork child => child.hold = .away
  | _ => true

section Keeps

open Async.Task (stable_pure stable_bind stable_attempt)

variable {phase : Hold} {op : Op} {reply : Except Err op.Reply} {user : UserId} {fee : ℕ} {taken : Taken}

theorem may_of_queueless (quiet : op.queueless = true) : phase.may op := by
  unfold Hold.may
  split
  all_goals first | trivial | exact of_decide_eq_true quiet

theorem away_may (other : op.department ≠ some .queue) : Hold.away.may op := by
  cases op
  case memory act =>
    cases act
    case removeFromMemoryQueue => trivial
    all_goals exact absurd rfl other
  case transact transaction =>
    cases transaction
    case createMatch => exact absurd rfl other
    all_goals trivial
  case emit room event =>
    cases event
    case queueLeft => exact absurd rfl other
    all_goals trivial
  case fork child =>
    cases child
    case queueJoin => exact absurd rfl other
    case queueLeave => exact absurd rfl other
    case worker => exact absurd rfl other
    all_goals rfl
  all_goals trivial

theorem away_stable {α : Type} {departments : List Department} {task : Promise α}
    (asks : task.Asks (Op.within departments)) (other : departments.contains .queue = false) :
    task.Stable queueing (· = Hold.away) := by
  refine asks.stable fun phase op here inside => ?_
  subst here
  exact ⟨away_may (department_ne inside other), fun _ _ => rfl⟩

theorem away_call (quiet : op.queueless = true) : op.call.Stable queueing (· = Hold.away) := by
  rintro phase rfl
  exact ⟨may_of_queueless quiet, fun _ _ => rfl⟩

theorem announceMatch_queueing (env : Env) (fee : ℕ) (taken : Taken) (problem : Problem)
    (matchId : MatchId) : (announceMatch env fee taken problem matchId).Stable queueing (· = Hold.away) := by
  refine stable_bind ?_ fun _ => stable_bind (away_call rfl) fun _ => ?_
  · exact stable_bind (away_call rfl) fun _ => stable_bind (away_call rfl) fun _ =>
      stable_bind (away_call rfl) fun _ => stable_pure _
  · exact stable_bind (away_call rfl) fun _ => stable_bind (away_call rfl) fun _ =>
      stable_bind (away_call rfl) fun _ => stable_bind (away_call rfl) fun _ =>
        stable_bind (away_call rfl) fun _ => away_call rfl

theorem holding_after (taken : Taken) (quiet : op.queueless = true) :
    (∀ value, Hold.after (.holding taken) op (.ok value) = .holding taken) ∧
      ∀ err, Hold.after (.holding taken) op (.error err) = .lost taken := by
  cases op
  case memory => cases quiet
  case transact transaction =>
    cases transaction
    case createMatch => cases quiet
    all_goals exact ⟨fun _ => rfl, fun _ => rfl⟩
  all_goals exact ⟨fun _ => rfl, fun _ => rfl⟩

theorem holding_then {β : Type} {rest : op.Reply → Promise β} {post : Except Err β → Hold → Prop}
    (quiet : op.queueless = true) (next : ∀ value, (rest value).Keeps queueing (.holding taken) post)
    (failed : ∀ err, post (.error err) (.lost taken)) :
    (op.call >>= rest).Keeps queueing (.holding taken) post := by
  obtain ⟨stays, ends⟩ := holding_after taken quiet
  refine keeps_call_bind (may_of_queueless quiet) (fun value _ => ?_) fun err _ => ?_
  · have here : queueing.after (.holding taken) op (.ok value) = .holding taken := stays value
    rw [here]
    exact next value
  · have here : queueing.after (.holding taken) op (.error err) = .lost taken := ends err
    rw [here]
    exact failed err

theorem commitMatch_queueing (owned : taken.fee = fee) (problem : Problem) (matchId : MatchId) :
    (commitMatch fee taken problem matchId).Keeps queueing (.holding taken) fun _ phase => phase = Hold.away := by
  refine (Task.keeps_attempt _ _ _ _).mpr ?_
  refine keeps_call_bind ⟨rfl, rfl, by rw [owned]⟩ (fun _ _ => rfl) fun err _ => ?_
  exact keeps_call_bind rfl (fun _ _ => rfl) fun _ _ => rfl

/-- **With two players taken**, a handler commits their match, puts them back, or loses them. -/
theorem createFor_queueing (env : Env) (owned : taken.fee = fee) :
    (createFor env fee taken).Keeps queueing (.holding taken) fun _ phase => phase.ended := by
  refine holding_then rfl (fun _ => ?_) fun _ => trivial
  refine holding_then rfl (fun _ => ?_) fun _ => trivial
  refine holding_then rfl (fun problem => ?_) fun _ => trivial
  cases problem with
  | none =>
    refine keeps_call_bind rfl (fun _ _ => ?_) fun _ _ => trivial
    have rest : (do
        emit (.user taken.playerA.userId) (.queueError "No problems available. Try category \"All\".")
        emit (.user taken.playerB.userId) (.queueError "No problems available. Try category \"All\".")
        return none : Promise (Option MatchId)).Stable queueing (· = Hold.away) :=
      stable_bind (away_call rfl) fun _ => stable_bind (away_call rfl) fun _ => stable_pure _
    refine (rest .away rfl).mono ?_
    rintro _ _ rfl
    trivial
  | some problem =>
    refine holding_then rfl (fun matchId => ?_) fun _ => trivial
    refine (Task.keeps_bind _ _ _ _).mpr ((commitMatch_queueing owned problem matchId).mono ?_)
    rintro (err | committed) _ rfl
    · trivial
    · cases committed with
      | false => trivial
      | true =>
        refine (stable_bind (announceMatch_queueing env fee taken problem matchId) (fun _ => stable_pure _)
          .away rfl).mono ?_
        rintro _ _ rfl
        trivial

theorem tryCreateMatch_queueing (env : Env) (fee : ℕ) :
    (tryCreateMatch env fee).Keeps queueing (.free fee) fun _ phase => phase.ended := by
  refine keeps_call_bind rfl (fun taken answer => ?_) fun err _ => trivial
  cases taken with
  | none => trivial
  | some taken =>
    obtain ⟨_, same, owned⟩ := answer
    cases same
    exact createFor_queueing env (owned taken rfl)

/-- A phase that is left by telling the user of an error. -/
def Hold.failing : Hold → Prop
  | arriving .. | joining .. | away | free _ | lost _ => True
  | _ => False

theorem failing_of_ended (ended : phase.ended) : phase.failing := by
  cases phase
  all_goals trivial

theorem tell_failing {room : Room} {message : String} (failing : phase.failing) :
    (emit room (.queueError message)).Keeps queueing phase fun _ phase => phase.ended := by
  have may : phase.may (.emit room (.queueError message)) := may_of_queueless rfl
  refine ⟨may, fun _ _ => ?_⟩
  cases phase
  all_goals trivial

theorem joining_then {β : Type} {rest : op.Reply → Promise β} {post : Except Err β → Hold → Prop}
    (quiet : op.queueless = true)
    (stays : ∀ reply, Hold.after (.joining user fee) op reply = .joining user fee)
    (next : ∀ value, (rest value).Keeps queueing (.joining user fee) post)
    (failed : ∀ err, post (.error err) (.joining user fee)) :
    (op.call >>= rest).Keeps queueing (.joining user fee) post := by
  refine keeps_call_bind (may_of_queueless quiet) (fun value _ => ?_) fun err _ => ?_
  · have here : queueing.after (.joining user fee) op (.ok value) = .joining user fee := stays _
    rw [here]
    exact next value
  · have here : queueing.after (.joining user fee) op (.error err) = .joining user fee := stays _
    rw [here]
    exact failed err

/-- The hearts are no reason to forget the join, unless the user is told so. -/
theorem heartsCheck_queueing (user : UserId) (fee : ℕ) :
    (heartsCheck user).Keeps queueing (.joining user fee) fun result phase =>
      match result with
      | .ok true => phase = .joining user fee
      | _ => phase = Hold.away := by
  refine (Task.keeps_attempt _ _ _ _).mpr ?_
  refine joining_then rfl (fun _ => rfl) (fun userData => ?_) fun _ => rfl
  cases userData with
  | none => exact rfl
  | some userData =>
    dsimp only
    split
    · exact rfl
    · refine joining_then rfl (fun _ => rfl) (fun now => ?_) fun _ => rfl
      split
      · exact joining_then rfl (fun _ => rfl) (fun _ => rfl) fun _ => rfl
      · split
        · refine keeps_call_bind trivial (fun _ _ => rfl) fun _ told => ?_
          cases told
        · exact rfl

/-- **`queue:join`** pushes once, after its stale check. -/
theorem queueJoin_queueing (env : Env) (user : UserId) (username : String) (fee : ℕ) (category : String) :
    (queueJoin env user username fee category).Keeps queueing (.arriving user fee)
      fun _ phase => phase.ended := by
  have body : ∀ {task : Promise Unit} {phase : Hold},
      task.Keeps queueing phase (fun result phase => match result with
        | .ok _ => phase.ended
        | .error _ => phase.failing) →
      (Task.attempt task fun _ => emit (.sender user) (.queueError "Failed to join queue. Try again.")).Keeps
        queueing phase fun _ phase => phase.ended := by
    intro task phase keeps
    refine (Task.keeps_attempt _ _ _ _).mpr (keeps.mono ?_)
    rintro (err | _) phase' there
    · exact tell_failing there
    · exact there
  refine body ?_
  split
  · exact ⟨trivial, fun reply _ => by cases reply with | error => exact trivial | ok => exact trivial⟩
  · rename_i valid
    refine keeps_call_bind ⟨rfl, rfl, by simpa using valid⟩ (fun _ _ => ?_) fun _ _ => trivial
    refine (Task.keeps_bind _ _ _ _).mpr ((heartsCheck_queueing user fee).mono ?_)
    rintro (err | goesOn) phase here
    · cases here
      exact trivial
    · cases goesOn with
      | false =>
        cases here
        exact trivial
      | true =>
        cases here
        refine joining_then rfl (fun _ => rfl) (fun balance => ?_) fun _ => trivial
        split
        · exact ⟨trivial, fun reply _ => by cases reply with | error => exact trivial | ok => exact trivial⟩
        · refine keeps_call_bind ⟨rfl, rfl, by simpa using valid⟩ (fun _ _ => ?_) fun _ _ => trivial
          refine keeps_call_bind trivial (fun _ _ => ?_) fun _ _ => trivial
          refine keeps_call_bind trivial (fun _ _ => ?_) fun _ _ => trivial
          refine keeps_call_bind trivial (fun _ _ => ?_) fun _ _ => trivial
          refine keeps_call_bind trivial (fun _ _ => ?_) fun _ _ => trivial
          refine keeps_call_bind trivial (fun _ _ => ?_) fun _ _ => trivial
          refine (Task.keeps_bind _ _ _ _).mpr ((tryCreateMatch_queueing env fee).mono ?_)
          rintro (err | _) phase ended
          · exact failing_of_ended ended
          · exact ended

/-- **`queue:leave`** tells the user so after taking the user out. -/
theorem queueLeave_queueing (user : UserId) :
    (queueLeave user).Keeps queueing (.leaving user) fun _ phase => phase.ended := by
  refine (Task.keeps_attempt _ _ _ _).mpr ?_
  refine keeps_call_bind rfl (fun _ _ => ?_) fun _ answer => by cases answer
  refine keeps_call_bind trivial (fun _ _ => ?_) fun _ _ => trivial
  refine keeps_call_bind trivial (fun _ _ => ?_) fun _ _ => trivial
  refine keeps_call_bind trivial (fun _ _ => ?_) fun _ _ => trivial
  exact ⟨rfl, fun reply _ => by cases reply with | error => exact trivial | ok => exact trivial⟩

/-- **Every handler keeps the contract of the queues.** -/
theorem handler_queueing (env : Env) (handler : Handler) :
    (handler.task env).Keeps queueing handler.hold fun _ phase => phase.ended := by
  have quiet : handler.departments.contains .queue = false →
      (handler.task env).Keeps queueing .away fun _ phase => phase.ended := by
    intro other
    refine (away_stable (Handler.asks_within env handler) other _ rfl).mono ?_
    rintro _ _ rfl
    trivial
  cases handler
  case queueJoin user username fee category => exact queueJoin_queueing env user username fee category
  case queueLeave user => exact queueLeave_queueing user
  case worker fee =>
    refine (Task.keeps_attempt _ _ _ _).mpr ((Task.keeps_bind _ _ _ _).mpr
      ((tryCreateMatch_queueing env fee).mono ?_))
    rintro (err | _) phase ended
    · exact ended
    · exact ended
  all_goals exact quiet rfl

end Keeps

/-! ### One operation -/

/-- The phases a handler leaves when it tells of an error, or when its leave is cut short. -/
def Hold.gives : Hold → Bool
  | arriving .. | joining .. | left _ => true
  | _ => false

/-- **What one operation of a handler does to the queues**, with its phase before and after. -/
inductive Shift (memory memory' : Memory) : Hold → (op : Op) → Except Err op.Reply → Hold → Prop
  | idle {phase op reply} (quiet : op.queueless = true) (same : memory' = memory) :
      Shift memory memory' phase op reply phase
  | giveUp {phase op reply} (quiet : op.queueless = true) (gives : phase.gives = true)
      (same : memory' = memory) : Shift memory memory' phase op reply .away
  | lose {taken op err} (quiet : op.queueless = true) (same : memory' = memory) :
      Shift memory memory' (.holding taken) op (.error err) (.lost taken)
  | commit {taken : Taken} {matchId problemId} (same : memory' = memory) :
      Shift memory memory' (.holding taken) (.transact (.createMatch matchId taken.playerA.userId
        taken.playerB.userId problemId taken.fee)) (.ok ()) .away
  | reject {taken : Taken} {matchId problemId err} (same : memory' = memory) :
      Shift memory memory' (.holding taken) (.transact (.createMatch matchId taken.playerA.userId
        taken.playerB.userId problemId taken.fee)) (.error err) (.holding taken)
  | stale {user fee} (valid : fee ∈ validFees) (evolves : memory.Evolves memory'
        (Function.update memory.live fee ((memory.live fee).filter (·.userId != user)))
        fun fee' => fee' = fee ∧ (memory.live fee).any (·.userId == user) = true) :
      Shift memory memory' (.arriving user fee) (.memory (.dropStale fee user)) (.ok ()) (.joining user fee)
  | push {user fee username category} (valid : fee ∈ validFees) (evolves : memory.Evolves memory'
        (Function.update memory.live fee
          (memory.live fee ++ [⟨user, username, category, memory.nextTicket⟩])) fun _ => False)
      (next : memory'.nextTicket = memory.nextTicket + 1) :
      Shift memory memory' (.joining user fee) (.memory (.push fee user username category)) (.ok ())
        (.free fee)
  | count {fee fee' number} (same : memory' = memory) :
      Shift memory memory' (.free fee) (.memory (.length fee')) (.ok number) (.free fee)
  | pass {fee} (same : memory' = memory) :
      Shift memory memory' (.free fee) (.memory (.takeTwo fee)) (.ok none) .away
  | drop {fee first second rest} (valid : fee ∈ validFees) (line : memory.live fee = first :: second :: rest)
      (twice : first.userId = second.userId) (evolves : memory.Evolves memory'
        (Function.update memory.live fee (second :: rest)) fun _ => False) :
      Shift memory memory' (.free fee) (.memory (.takeTwo fee)) (.ok none) .away
  | take {fee playerA playerB rest} (valid : fee ∈ validFees)
      (line : memory.live fee = playerA :: playerB :: rest) (distinct : playerA.userId ≠ playerB.userId)
      (evolves : memory.Evolves memory' (Function.update memory.live fee rest) fun _ => False) :
      Shift memory memory' (.free fee) (.memory (.takeTwo fee))
        (.ok (some ⟨fee, memory.memoryQueues fee, playerA, playerB⟩))
        (.holding ⟨fee, memory.memoryQueues fee, playerA, playerB⟩)
  | putBack {taken : Taken} (attached : memory.memoryQueues taken.fee = taken.queue)
      (evolves : memory.Evolves memory' (Function.update memory.live taken.fee
        (taken.playerA :: taken.playerB :: memory.live taken.fee)) fun _ => False) :
      Shift memory memory' (.holding taken) (.memory (.putBack taken)) (.ok ()) .away
  | abandon {taken : Taken} (detached : memory.memoryQueues taken.fee ≠ taken.queue)
      (evolves : memory.Evolves memory' memory.live fun _ => False) :
      Shift memory memory' (.holding taken) (.memory (.putBack taken)) (.ok ()) .away
  | depart {user} (evolves : memory.Evolves memory'
        (fun fee => (memory.live fee).filter (·.userId != user)) fun _ => True) :
      Shift memory memory' .away (.memory (.removeFromMemoryQueue user)) (.ok ()) .away
  | leave {user} (evolves : memory.Evolves memory'
        (fun fee => (memory.live fee).filter (·.userId != user)) fun _ => True) :
      Shift memory memory' (.leaving user) (.memory (.removeFromMemoryQueue user)) (.ok ()) (.left user)
  | tell {user} (same : memory' = memory) :
      Shift memory memory' (.left user) (.emit (.sender user) .queueLeft) (.ok ()) .away

section Perform

variable {env : Env} {choice : Choice} {world world' : World} {phase : Hold} {op : Op}
  {reply : Except Err op.Reply}

theorem perform_memory {act : MemoryOp} {reply : Except Err act.Reply}
    (performed : (Op.memory act).perform env choice world = some (reply, world')) :
    reply = .ok (act.exec world.memory).1 ∧ world'.memory = (act.exec world.memory).2 := by
  unfold Op.perform at performed
  split at performed
  · cases performed
  · cases performed
    exact ⟨rfl, rfl⟩

theorem memory_frame (performed : op.perform env choice world = some (reply, world'))
    (other : ∀ act, op ≠ .memory act) : world'.memory = world.memory := by
  rcases perform_cases performed with ⟨_, _, rfl⟩ | ⟨act, same, _⟩ | ⟨_, _, _, rfl⟩ | ⟨_, _, _, rfl⟩
  · rfl
  · exact absurd same (other act)
  · rfl
  · rfl

theorem perform_emit {room : Room} {event : Event} {reply : Except Err Unit}
    (performed : (Op.emit room event).perform env choice world = some (reply, world')) : reply = .ok () := by
  unfold Op.perform at performed
  split at performed
  · cases performed
  · cases performed
    rfl

theorem queueing_answers (performed : op.perform env choice world = some (reply, world')) :
    Hold.answers op reply := by
  unfold Hold.answers
  split
  · rename_i fee reply'
    obtain ⟨rfl, _⟩ := perform_memory performed
    refine ⟨_, rfl, fun taken same => ?_⟩
    simp only [MemoryOp.exec] at same
    repeat' split at same
    all_goals cases same
    rfl
  · obtain ⟨rfl, _⟩ := perform_memory performed
    rfl
  · rw [perform_emit performed]
    rfl
  · trivial

theorem shift_dropStale {memory : Memory} (sound : memory.Sound) {user : UserId} {fee : ℕ}
    (valid : fee ∈ validFees) :
    Shift memory ((MemoryOp.dropStale fee user).exec memory).2 (.arriving user fee)
      (.memory (.dropStale fee user)) (.ok ()) (.joining user fee) := by
  refine .stale valid ?_
  simp only [MemoryOp.exec]
  split
  · rename_i waits
    have evolves := Memory.evolves_dropUser sound fee user
    exact ⟨evolves.sound, evolves.live, fun fee' valid' other => evolves.kept fee' valid' fun same =>
      other ⟨same, waits⟩, fun fee' valid' replaced => evolves.fresh fee' valid' replaced.1, evolves.arrays,
      evolves.tickets⟩
  · rename_i waits
    have evolves := Memory.evolves_refl sound
    refine ⟨evolves.sound, fun fee' _ => ?_, fun _ _ _ => rfl, fun _ _ replaced => absurd replaced.2 waits,
      le_rfl, le_rfl⟩
    by_cases same : fee' = fee
    · subst same
      rw [Function.update_self, List.filter_eq_self.mpr]
      intro entry inside
      simp only [List.any_eq_true, beq_iff_eq, not_exists, not_and] at waits
      simpa using waits entry inside
    · rw [Function.update_of_ne same]

theorem shift_takeTwo {memory : Memory} (sound : memory.Sound) (fee : ℕ) :
    Shift memory ((MemoryOp.takeTwo fee).exec memory).2 (.free fee) (.memory (.takeTwo fee))
      (.ok ((MemoryOp.takeTwo fee).exec memory).1)
      (Hold.after (.free fee) (.memory (.takeTwo fee)) (.ok ((MemoryOp.takeTwo fee).exec memory).1)) := by
  simp only [MemoryOp.exec]
  split
  · rename_i valid
    split
    · rename_i playerA playerB rest line
      split
      · rename_i twice
        exact .drop valid line twice (Memory.evolves_setArray sound valid _)
      · rename_i distinct
        exact .take valid line distinct (Memory.evolves_setArray sound valid _)
    · exact .pass rfl
  · exact .pass rfl

/-- Putting two players back, into their queue or into an array that is no queue any more. -/
theorem shift_putBack {memory : Memory} (sound : memory.Sound) {taken : Taken} (owned : taken.Owned memory) :
    Shift memory ((MemoryOp.putBack taken).exec memory).2 (.holding taken) (.memory (.putBack taken))
      (.ok ()) .away := by
  by_cases attached : memory.memoryQueues taken.fee = taken.queue
  · refine .putBack attached ?_
    have evolves := Memory.evolves_setArray sound owned.valid
      (taken.playerA :: taken.playerB :: memory.live taken.fee)
    simpa only [MemoryOp.exec, Memory.live, attached] using evolves
  · refine .abandon attached (Memory.evolves_setArray_dead sound (fun fee valid same => ?_) _)
    rw [owned.own fee valid same] at same
    exact attached same

/-- **What one operation of a handler does to the queues.** -/
theorem shift_of_perform (sound : world.memory.Sound)
    (owned : ∀ taken, phase = .holding taken → taken.Owned world.memory) (may : phase.may op)
    (performed : op.perform env choice world = some (reply, world')) :
    Shift world.memory world'.memory phase op reply (phase.after op reply) := by
  by_cases quiet : op.queueless = true
  · have same : world'.memory = world.memory := by
      refine memory_frame performed ?_
      rintro act rfl
      cases quiet
    unfold Hold.after
    split
    all_goals first
      | exact .idle quiet same
      | exact .lose quiet same
      | exact .giveUp quiet rfl same
      | cases quiet
  cases op
  case memory act =>
    obtain ⟨rfl, same⟩ := perform_memory performed
    rw [same]
    cases phase
    case away =>
      cases act
      case removeFromMemoryQueue user => exact .depart (Memory.evolves_remove sound user)
      all_goals cases may
    case arriving user fee =>
      cases act
      case dropStale fee' user' =>
        obtain ⟨rfl, rfl, valid⟩ := may
        exact shift_dropStale sound valid
      all_goals cases may
    case joining user fee =>
      cases act
      case push fee' user' username category =>
        obtain ⟨rfl, rfl, valid⟩ := may
        have evolves := Memory.evolves_setArray sound valid
          (world.memory.live fee' ++ [⟨user', username, category, world.memory.nextTicket⟩])
        exact .push valid ⟨⟨evolves.sound.below, evolves.sound.apart⟩, evolves.live, evolves.kept,
          evolves.fresh, le_rfl, Nat.le_succ _⟩ rfl
      all_goals cases may
    case free fee =>
      cases act
      case length fee' => exact .count rfl
      case takeTwo fee' =>
        obtain rfl : fee' = fee := may
        exact shift_takeTwo sound fee'
      all_goals cases may
    case holding taken =>
      cases act
      case putBack taken' =>
        obtain rfl : taken' = taken := may
        exact shift_putBack sound (owned taken' rfl)
      all_goals cases may
    case leaving user =>
      cases act
      case removeFromMemoryQueue user' =>
        obtain rfl : user' = user := may
        exact .leave (Memory.evolves_remove sound user')
      all_goals cases may
    all_goals cases may
  case transact transaction =>
    have same := memory_frame performed nofun
    cases transaction
    case createMatch matchId playerA playerB problemId fee =>
      cases phase
      case holding taken =>
        obtain ⟨rfl, rfl, rfl⟩ := may
        cases reply with
        | ok value => exact .commit same
        | error err => exact .reject same
      all_goals cases may
    all_goals exact absurd rfl quiet
  case emit room event =>
    have same := memory_frame performed nofun
    cases perform_emit performed
    cases event
    case queueLeft =>
      cases phase
      case left user =>
        obtain rfl : room = .sender user := may
        exact .tell same
      all_goals cases may
    all_goals exact absurd rfl quiet
  case fork child =>
    have away : child.hold = .away := by
      cases phase
      all_goals exact may
    exact absurd (decide_eq_true away) quiet
  all_goals exact absurd rfl quiet

end Perform

/-! ### The arrays of all queues -/

/-- **The invariant of the arrays.** -/
structure Stalls (memory : Memory) (phases : List (Handler × Hold)) : Prop where
  sound : memory.Sound
  owned : ∀ entry ∈ phases, ∀ taken, entry.2 = .holding taken → taken.Owned memory

theorem Shift.evolves {memory memory' : Memory} {phase phase' : Hold} {op : Op} {reply : Except Err op.Reply}
    (sound : memory.Sound) (shift : Shift memory memory' phase op reply phase') :
    ∃ queues replaced, memory.Evolves memory' queues replaced := by
  cases shift
  case stale valid evolves => exact ⟨_, _, evolves⟩
  case push valid evolves next => exact ⟨_, _, evolves⟩
  case drop valid line twice evolves => exact ⟨_, _, evolves⟩
  case take valid line distinct evolves => exact ⟨_, _, evolves⟩
  case putBack attached evolves => exact ⟨_, _, evolves⟩
  case abandon detached evolves => exact ⟨_, _, evolves⟩
  case depart evolves => exact ⟨_, _, evolves⟩
  case leave evolves => exact ⟨_, _, evolves⟩
  all_goals
    obtain rfl : memory' = memory := ‹_›
    exact ⟨_, _, Memory.evolves_refl sound⟩

namespace Stalls

variable {memory memory' : Memory} {phases : List (Handler × Hold)} {index : ℕ} {event : Handler}
  {phase phase' : Hold} {op : Op} {reply : Except Err op.Reply}

theorem holding_owned (sound : memory.Sound) (shift : Shift memory memory' phase op reply phase')
    {taken : Taken} (holds : phase' = .holding taken) : phase = .holding taken ∨ taken.Owned memory' := by
  cases shift
  case take playerA playerB rest valid line distinct evolves =>
    cases holds
    refine .inr ⟨valid, distinct, ?_, fun fee valid' same => ?_⟩
    · exact (sound.below _ valid).trans_le evolves.arrays
    · rw [evolves.kept fee valid' id] at same
      exact sound.apart fee valid' _ valid same
  case idle => exact .inl holds
  case reject => exact .inl holds
  all_goals cases holds

/-- **One operation keeps the arrays apart.** -/
theorem step (stalls : Stalls memory phases) (found : phases[index]? = some (event, phase))
    (shift : Shift memory memory' phase op reply phase') :
    Stalls memory' (phases.set index (event, phase') ++ op.forks.map fun child => (child, child.hold)) := by
  obtain ⟨queues, replaced, evolves⟩ := shift.evolves stalls.sound
  refine ⟨evolves.sound, fun entry member taken holds => ?_⟩
  rcases List.mem_append.mp member with inside | forked
  · rcases List.mem_or_eq_of_mem_set inside with old | rfl
    · exact (stalls.owned entry old taken holds).evolve evolves
    · rcases holding_owned stalls.sound shift holds with before | owned
      · exact (stalls.owned _ (List.mem_of_getElem? found) taken before).evolve evolves
      · exact owned
  · obtain ⟨child, _, rfl⟩ := List.mem_map.mp forked
    cases child
    all_goals cases holds

theorem start (stalls : Stalls memory phases) (event : Handler) :
    Stalls memory (phases ++ [(event, event.hold)]) := by
  refine ⟨stalls.sound, fun entry member taken holds => ?_⟩
  rcases List.mem_append.mp member with old | new
  · exact stalls.owned entry old taken holds
  · cases List.mem_singleton.mp new
    cases event
    all_goals cases holds

theorem initial : Stalls {} [] := by
  refine ⟨⟨?_, fun _ _ _ _ same => same⟩, List.forall_mem_nil _⟩
  decide

end Stalls

/-! ### Counting entries -/

/-- The handler has taken, from the queue of a fee, an entry with a property. -/
def Hold.has (fee : ℕ) (p : QueueEntry → Bool) : Hold → Bool
  | holding taken => taken.fee = fee && (p taken.playerA || p taken.playerB)
  | _ => false

/-- The entries of a fee with a property, in the queue or taken. -/
def seats (fee : ℕ) (p : QueueEntry → Bool) (memory : Memory) (phases : List (Handler × Hold)) : ℕ :=
  (memory.live fee).countP p + phases.countP fun entry => entry.2.has fee p

/-- The operation pushes an entry with a property to the queue of a fee. -/
def Op.pushes (fee : ℕ) (p : QueueEntry → Bool) (ticket : ℕ) : Op → Bool
  | memory (.push fee' user username category) => fee' = fee && p ⟨user, username, category, ticket⟩
  | _ => false

/-- The operation has created a match. -/
def Op.creates : (op : Op) → Except Err op.Reply → Bool
  | transact (.createMatch ..), .ok _ => true
  | _, _ => false

@[simp] theorem has_holding (fee : ℕ) (p : QueueEntry → Bool) (taken : Taken) :
    (Hold.holding taken).has fee p = (taken.fee = fee && (p taken.playerA || p taken.playerB)) := rfl

theorem has_eq_false {fee : ℕ} {p : QueueEntry → Bool} {phase : Hold}
    (none : ∀ taken, phase ≠ .holding taken) : phase.has fee p = false := by
  cases phase
  case holding taken => exact absurd rfl (none taken)
  all_goals rfl

theorem creates_of_queueless {op : Op} {reply : Except Err op.Reply} (quiet : op.queueless = true) :
    op.creates reply = false := by
  unfold Op.creates
  split
  · cases quiet
  · rfl

theorem pushes_of_queueless {op : Op} {fee ticket : ℕ} {p : QueueEntry → Bool} (quiet : op.queueless = true) :
    op.pushes fee p ticket = false := by
  unfold Op.pushes
  split
  · cases quiet
  · rfl

section Seats

variable {memory memory' : Memory} {phases : List (Handler × Hold)} {index : ℕ} {event : Handler}
  {phase phase' : Hold} {op : Op} {reply : Except Err op.Reply} {fee : ℕ} {p : QueueEntry → Bool}

theorem countP_pair {first second : QueueEntry} (single : ¬ (p first = true ∧ p second = true))
    (rest : List QueueEntry) : (first :: second :: rest).countP p =
      rest.countP p + if p first || p second then 1 else 0 := by
  rw [List.countP_cons, List.countP_cons]
  cases here : p first with
  | true =>
    have other : p second = false := by
      by_contra both
      exact single ⟨here, by simpa using both⟩
    simp [other]
  | false => simp

theorem countP_update_le {fee' : ℕ} {entries : List QueueEntry}
    (fewer : entries.countP p ≤ (memory.live fee').countP p) :
    (Function.update memory.live fee' entries fee).countP p ≤ (memory.live fee).countP p := by
  by_cases same : fee = fee'
  · subst same
    rwa [Function.update_self]
  · rw [Function.update_of_ne same]

/-- How the queue of a fee and what one handler has taken from it change together. -/
theorem Shift.countP_add (owned : ∀ taken, phase = .holding taken → taken.Owned memory)
    (valid : fee ∈ validFees)
    (single : ∀ first second, p first = true → p second = true → first.userId = second.userId)
    (shift : Shift memory memory' phase op reply phase') :
    (memory'.live fee).countP p + (if phase'.has fee p then 1 else 0) +
        (if op.creates reply && phase.has fee p then 1 else 0) ≤
      (memory.live fee).countP p + (if phase.has fee p then 1 else 0) +
        if op.pushes fee p memory.nextTicket then 1 else 0 := by
  have apart : ∀ {first second : QueueEntry}, first.userId ≠ second.userId →
      ¬ (p first = true ∧ p second = true) := fun distinct both => distinct (single _ _ both.1 both.2)
  have filtered : ∀ (fee : ℕ) (user : UserId), ((memory.live fee).filter (·.userId != user)).countP p ≤
      (memory.live fee).countP p := fun _ _ => List.Sublist.countP_le List.filter_sublist
  -- a handler that holds nothing before and after, and creates nothing, only shortens a queue
  have shorter : ∀ {phase phase' : Hold} {op : Op} {reply : Except Err op.Reply},
      (∀ taken, phase' ≠ .holding taken) → op.creates reply = false →
      (memory'.live fee).countP p ≤ (memory.live fee).countP p →
      (memory'.live fee).countP p + (if phase'.has fee p then 1 else 0) +
          (if op.creates reply && phase.has fee p then 1 else 0) ≤
        (memory.live fee).countP p + (if phase.has fee p then 1 else 0) +
          if op.pushes fee p memory.nextTicket then 1 else 0 := by
    intro phase phase' op reply free uncreated fewer
    rw [has_eq_false free, uncreated, if_neg Bool.false_ne_true, Bool.false_and, if_neg Bool.false_ne_true]
    omega
  cases shift
  case idle same quiet =>
    rw [same, creates_of_queueless quiet]
    simp
  case giveUp same gives quiet => exact shorter nofun (creates_of_queueless quiet) (by rw [same])
  case lose taken same quiet => exact shorter nofun (creates_of_queueless quiet) (by rw [same])
  case commit same =>
    rw [same, has_eq_false (show ∀ taken, Hold.away ≠ .holding taken from nofun)]
    simp [Op.creates]
  case reject same =>
    rw [same]
    simp [Op.creates]
  case stale user fee' valid' evolves =>
    refine shorter nofun rfl ?_
    rw [evolves.live fee valid]
    exact countP_update_le (filtered fee' user)
  case push user fee' username category valid' evolves next =>
    rw [evolves.live fee valid]
    by_cases same : fee = fee'
    · subst same
      rw [Function.update_self, List.countP_append, List.countP_singleton]
      simp [Hold.has, Op.creates, Op.pushes]
    · rw [Function.update_of_ne same]
      simp [Hold.has, Op.creates]
  case count same => exact shorter nofun rfl (by rw [same])
  case pass same => exact shorter nofun rfl (by rw [same])
  case drop fee' first second rest valid' line twice evolves =>
    refine shorter nofun rfl ?_
    rw [evolves.live fee valid]
    refine countP_update_le ?_
    rw [line]
    exact List.Sublist.countP_le (List.sublist_cons_self _ _)
  case take fee' playerA playerB rest valid' line distinct evolves =>
    rw [evolves.live fee valid]
    by_cases same : fee = fee'
    · subst same
      rw [Function.update_self, line, countP_pair (apart distinct)]
      simp [Op.creates, Hold.has]
    · rw [Function.update_of_ne same]
      have other : ¬ fee' = fee := fun equal => same equal.symm
      simp [Op.creates, Hold.has, other]
  case putBack taken attached evolves =>
    by_cases same : fee = taken.fee
    · subst same
      rw [evolves.live _ valid, Function.update_self, countP_pair (apart (owned taken rfl).distinct)]
      simp [Op.creates, Hold.has]
    · exact shorter nofun rfl (by rw [evolves.live fee valid, Function.update_of_ne same])
  case abandon taken detached evolves => exact shorter nofun rfl (by rw [evolves.live fee valid])
  case depart user evolves =>
    exact shorter nofun rfl (by rw [evolves.live fee valid]; exact filtered fee user)
  case leave user evolves =>
    exact shorter nofun rfl (by rw [evolves.live fee valid]; exact filtered fee user)
  case tell same => exact shorter nofun rfl (by rw [same])

/-- **An entry is pushed once, and then moves**: a step adds to the entries of a fee at most the one it
pushes, and a committed match takes its players out. -/
theorem Shift.seats_le (stalls : Stalls memory phases) (found : phases[index]? = some (event, phase))
    (valid : fee ∈ validFees)
    (single : ∀ first second, p first = true → p second = true → first.userId = second.userId)
    (shift : Shift memory memory' phase op reply phase') :
    seats fee p memory' (phases.set index (event, phase')) +
        (if op.creates reply && phase.has fee p then 1 else 0) ≤
      seats fee p memory phases + if op.pushes fee p memory.nextTicket then 1 else 0 := by
  have owned : ∀ taken, phase = .holding taken → taken.Owned memory :=
    stalls.owned (event, phase) (List.mem_of_getElem? found)
  have moved := shift.countP_add owned valid single
  have counted := countP_set (p := fun entry : Handler × Hold => entry.2.has fee p) found (event, phase')
  unfold seats
  dsimp only at counted
  omega

end Seats

/-! ### Watching the queues -/

/-- A run of the backend whose handlers are followed through what they do with the queues. -/
abbrev QueueRun (γ : Type) := Watched queueing World Handler γ

/-- An observer of the queues with notes of its own. -/
def doorkeeper {γ : Type} (starts : Handler → γ → γ)
    (sees : Hold → (op : Op) → Except Err op.Reply → World → γ → γ) :
    Observer queueing World Handler γ where
  enter := Handler.hold
  starts event _ notes := starts event notes
  sees := sees

/-- What happens outside the handlers leaves the queues alone. -/
def Outside.spares : Outside → Bool
  | tick _ => true
  | act _ op => op.queueless

theorem memory_outside {env : Env} {act : Outside} {world world' : World} (spares : act.spares = true)
    (acted : act.run env world = some world') : world'.memory = world.memory := by
  cases act with
  | tick ms =>
    cases acted
    rfl
  | act choice op =>
    obtain ⟨⟨reply, state⟩, performed, rfl⟩ := Option.map_eq_some_iff.mp acted
    refine memory_frame performed ?_
    rintro act rfl
    cases spares

theorem arrive_memory {event : Handler} {world world' : World} (arrived : event.arrive world = some world') :
    world'.memory = world.memory := by
  unfold Handler.arrive at arrived
  split at arrived
  all_goals
    try split at arrived
    all_goals
      cases arrived
      try rfl

/-- **A rule of the queues**: an invariant that is kept by whatever one operation does to them. -/
structure QueueRule {γ : Type} (env : Env) (O : Observer queueing World Handler γ)
    (ok : QueueRun γ → BackendMove → Prop) where
  Inv : World → γ → List (Handler × Hold) → Prop
  enter : O.enter = Handler.hold
  spares : ∀ w act, ok w (.outside act) → act.spares = true
  start : ∀ w event state, Inv w.state w.notes w.phases → ok w (.start event) →
    event.arrive w.state = some state →
      Inv state (O.starts event w.state w.notes) (w.phases ++ [(event, event.hold)])
  step : ∀ w index choice event phase op next reply state, Stalls w.state.memory w.phases →
    Inv w.state w.notes w.phases → ok w (.step index choice) →
    w.threads[index]? = some ⟨event, phase, .await op next⟩ → w.phases[index]? = some (event, phase) →
    op.perform env choice w.state = some (reply, state) →
    Shift w.state.memory state.memory phase op reply (Hold.after phase op reply) →
      Inv state (O.sees phase op reply w.state w.notes)
        (w.phases.set index (event, Hold.after phase op reply))
  fork : ∀ world notes phases child, Inv world notes phases → child.hold = .away →
    Inv world notes (phases ++ [(child, .away)])
  outside : ∀ w act state, Inv w.state w.notes w.phases → ok w (.outside act) →
    act.run env w.state = some state → Inv state w.notes w.phases

namespace QueueRule

variable {γ : Type} {env : Env} {O : Observer queueing World Handler γ} {ok : QueueRun γ → BackendMove → Prop}

/-- The rule with the invariant of the arrays. -/
def vigil (R : QueueRule env O ok) : Vigil (backend env) O ok where
  finished := Hold.ended
  Inv world notes phases := Stalls world.memory phases ∧ R.Inv world notes phases
  keeps event _ := by
    rw [R.enter]
    exact (Task.keeps_run _ _ _).mpr (handler_queueing env event)
  enters _ _ _ := trivial
  forks _ _ _ _ _ := trivial
  start w event state inv allowed arrived := by
    rw [R.enter, arrive_memory arrived]
    exact ⟨inv.1.start event, R.start w event state inv.2 allowed arrived⟩
  step w index choice event phase op next reply state inv allowed found inPhase may performed := by
    have owned : ∀ taken, phase = Hold.holding taken → taken.Owned w.state.memory :=
      inv.1.owned (event, phase) (List.mem_of_getElem? inPhase)
    have shift := shift_of_perform inv.1.sound owned may performed
    have kept := R.step w index choice event phase op next reply state inv.1 inv.2 allowed found inPhase
      performed shift
    rw [R.enter]
    refine ⟨queueing_answers performed, inv.1.step inPhase shift, ?_⟩
    by_cases alone : op.forks = []
    · show R.Inv _ _ (_ ++ op.forks.map _)
      rw [alone, List.map_nil, List.append_nil]
      exact kept
    · obtain ⟨child, forked⟩ := List.exists_mem_of_ne_nil _ alone
      obtain rfl := fork_of_mem forked
      have away : child.hold = .away := by
        have may : Hold.may phase (.fork child) := may
        cases phase
        all_goals exact may
      show R.Inv _ _ (_ ++ [(child, child.hold)])
      rw [away]
      exact R.fork _ _ _ child kept away
  outside w act state inv allowed acted := by
    rw [memory_outside (R.spares w act allowed) acted]
    exact ⟨inv.1, R.outside w act state inv.2 allowed acted⟩

/-- **The rule holds along every run** from the start of the process. -/
theorem holds (R : QueueRule env O ok) {w₀ w : QueueRun γ} (idle : w₀.threads = [])
    (empty : w₀.state.memory = {}) (initial : R.Inv w₀.state w₀.notes [])
    (run : Watches (backend env) O ok w₀ w) :
    Stalls w.state.memory w.phases ∧ R.Inv w.state w.notes w.phases ∧ w.Follows Hold.ended := by
  have first : R.vigil.Inv w₀.state w₀.notes [] := by
    refine ⟨?_, initial⟩
    rw [empty]
    exact Stalls.initial
  obtain ⟨inv, follows⟩ := R.vigil.holds idle first run
  exact ⟨inv.1, inv.2, follows⟩

end QueueRule

end SkillArena
