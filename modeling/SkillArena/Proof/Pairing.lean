/-
**The queue of a fee comes to a stand.**

`tryCreateMatch` takes the first two players off the queue of a fee, and puts them back in front if the match cannot
be created. Run by itself, and with problems to draw, a call is an attempt at the line of the players
(`tryCreateMatch_attempts`), so a number of calls is as many attempts (`turns_attempts`).

* `solvent_matched` — after as many calls as there are entries, two players who can pay are left only behind a pair
  of which one cannot; nobody is left if every balance covers the fee for each of the user's entries.
* `poor_head_starves` — a player who cannot pay, in front of two who can, keeps them from being matched for good.
-/

import Mathlib.Data.Set.Finite.Basic
import SkillArena.Proof.Guard
import SkillArena.Proof.Solo
import SkillArena.Store.Pairing

namespace SkillArena

open Async Task Pairing Sql

/-- A user's balance, if the user has a wallet. -/
def Db.balance (db : Db) (user : UserId) : Option ℚ := (db.wallets user).map Wallet.balance

/-- **The rules of a queue**: an entry is its user's, a balance pays if it has the fee, and the rest is stored. -/
def feeRules (env : Env) (fee : ℕ) : Rules QueueEntry UserId (Option ℚ) where
  owner := QueueEntry.userId
  pays balance := balance.any fun balance => (fee : ℚ) ≤ balance
  debit := Option.map fun balance => env.numeric.store (balance - fee)

/-- The queue of a fee, with the balances. -/
def World.line (world : World) (fee : ℕ) : Line QueueEntry UserId (Option ℚ) :=
  ⟨world.memory.live fee, world.db.balance⟩

def Db.CanPay (db : Db) (fee : ℕ) (user : UserId) : Prop := ∃ W, db.wallets user = some W ∧ (fee : ℚ) ≤ W.balance

/-- **There is a problem for every player of the queue**, and identifiers are left for new matches. -/
structure Supplied (world : World) (fee : ℕ) : Prop where
  unused : {matchId | world.db.matches_ matchId = none}.Infinite
  problems : ∀ entry ∈ world.memory.live fee,
    world.db.candidates (difficultyOf fee) (categoryOf entry.category) ≠ []

variable {env : Env} {fee : ℕ} {world : World} {db : Db}

theorem pays_iff {user : UserId} : (feeRules env fee).pays (db.balance user) = true ↔ db.CanPay fee user := by
  unfold Db.balance Db.CanPay feeRules
  cases db.wallets user with
  | none => simp
  | some W => simp

theorem unpaid_iff {first second : UserId} :
    ((feeRules env fee).pays (db.balance first) && (feeRules env fee).pays (db.balance second)) = false ↔
      ¬ (db.CanPay fee first ∧ db.CanPay fee second) := by
  rw [← Bool.not_eq_true, Bool.and_eq_true_iff, pays_iff, pays_iff]

/-! ### Creating a match -/

section Create

variable {matchId : MatchId} {playerA playerB : UserId} (problemId : ProblemId)

theorem charged (env : Env) {W : Wallet} (rich : (fee : ℚ) ≤ W.balance) :
    ∃ W', W.update env.numeric (lockSet W fee) = .ok W' ∧ W'.balance = env.numeric.store (W.balance - fee) := by
  have locked : 0 ≤ W.lockedBalance + fee := add_nonneg W.positive_locked (Nat.cast_nonneg fee)
  obtain ⟨W', stored⟩ : ∃ W', W.update env.numeric (lockSet W fee) = .ok W' :=
    update_exists (fun _ same => by cases same; exact sub_nonneg.mpr rich) fun _ same => by cases same; exact locked
  exact ⟨W', stored, (update_ok.mp stored).1⟩

/-- **Two players who can pay are matched**, and pay. -/
theorem createMatch_served (env : Env) (distinct : playerA ≠ playerB) (unused : db.matches_ matchId = none)
    (paysA : db.CanPay fee playerA) (paysB : db.CanPay fee playerB) :
    ∃ row db', (Transaction.createMatch matchId playerA playerB problemId fee).run env db = (.ok (), db') ∧
      db'.balance = (feeRules env fee).charge ((feeRules env fee).charge db.balance playerA) playerB ∧
      db'.matches_ = Function.update db.matches_ matchId (some row) ∧ db'.problems = db.problems := by
  obtain ⟨A, foundA, richA⟩ := paysA
  obtain ⟨B, foundB, richB⟩ := paysB
  obtain ⟨A', storedA, leftA⟩ := charged env richA
  obtain ⟨B', storedB, leftB⟩ := charged env richB
  have stillB : (db.setWallet playerA A').wallets playerB = some B := by
    rw [setWallet_wallets, Function.update_of_ne distinct.symm, foundB]
  refine ⟨_, _, createMatch_ok.mpr ⟨unused, A, A', B, B', foundA, richA, storedA, stillB, richB, storedB, rfl⟩,
    funext fun user => ?_, rfl, rfl⟩
  have chargedA : (feeRules env fee).debit (db.balance playerA) = some A'.balance := by
    rw [leftA, Db.balance, foundA]
    rfl
  have chargedB : (feeRules env fee).debit (db.balance playerB) = some B'.balance := by
    rw [leftB, Db.balance, foundB]
    rfl
  simp only [Db.balance, addRow_wallets, setWallet_wallets, withMatch_wallets, Rules.charge]
  by_cases isB : user = playerB
  · subst isB
    rw [Function.update_self, Function.update_self, Function.update_of_ne distinct.symm]
    exact chargedB.symm
  · rw [Function.update_of_ne isB, Function.update_of_ne isB]
    by_cases isA : user = playerA
    · subst isA
      rw [Function.update_self, Function.update_self]
      exact chargedA.symm
    · rw [Function.update_of_ne isA, Function.update_of_ne isA]
      rfl

theorem createMatch_refused (env : Env) (matchId : MatchId) (distinct : playerA ≠ playerB)
    (unpaid : ¬ (db.CanPay fee playerA ∧ db.CanPay fee playerB)) :
    ∃ err, (Transaction.createMatch matchId playerA playerB problemId fee).run env db = (.error err, db) := by
  rcases run_cases env (.createMatch matchId playerA playerB problemId fee) db with ⟨_, db', ran⟩ | refused
  · obtain ⟨-, A, A', B, B', foundA, richA, -, foundB, richB, -⟩ := createMatch_ok.mp ran
    rw [setWallet_wallets, Function.update_of_ne distinct.symm] at foundB
    exact absurd ⟨⟨A, foundA, richA⟩, B, foundB, richB⟩ unpaid
  · exact refused

end Create

/-! ### One call -/

section Call

variable {server : Server signature World} {taken : Taken} {problem : Problem} {matchId : MatchId}

/-- The transaction of `tryCreateMatch`. -/
def Taken.create (taken : Taken) (fee : ℕ) (problem : Problem) (matchId : MatchId) : Transaction :=
  .createMatch matchId taken.playerA.userId taken.playerB.userId problem.id fee

theorem commitMatch_served (works : Works env server) {post : Except Err Bool → World → Prop} {db : Db}
    (ran : (taken.create fee problem matchId).run env world.db = (.ok (), db))
    (served : post (.ok true) (world.withDb db)) :
    (commitMatch fee taken problem matchId).Ensures server world post := by
  have proceeds : (Op.transact (taken.create fee problem matchId)).proceed env .proceed world =
      some (.ok (), world.withDb db) := by
    simp only [Op.proceed, ran]
  exact (ensures_attempt _ _ _ _).mpr ((works.call_bind rfl proceeds).mpr served)

theorem commitMatch_refused (works : Works env server) {post : Except Err Bool → World → Prop} {err : Err}
    (ran : (taken.create fee problem matchId).run env world.db = (.error err, world.db))
    (refused : post (.ok false) { world with memory := ((MemoryOp.putBack taken).exec world.memory).2 }) :
    (commitMatch fee taken problem matchId).Ensures server world post := by
  have proceeds : (Op.transact (taken.create fee problem matchId)).proceed env .proceed world =
      some (.error err, world) := by
    simp only [Op.proceed, ran]
    rfl
  refine (ensures_attempt _ _ _ _).mpr ((ensures_bind _ _ _ _).mpr ((works.call rfl proceeds).mpr ?_))
  exact works.memory_bind.mpr refused

/-- What `announceMatch` awaits. -/
def Op.announces : Op → Bool
  | set .. | emit .. | dateNow | fork _ => true
  | _ => false

theorem announceMatch_announces (env : Env) (fee : ℕ) (taken : Taken) (problem : Problem) (matchId : MatchId) :
    (announceMatch env fee taken problem matchId).Asks fun op : Op => op.announces = true := by
  refine asks_bind ?_ fun _ => asks_bind (asks_call rfl) fun _ => ?_
  · exact asks_bind (asks_call rfl) fun _ => asks_bind (asks_call rfl) fun _ =>
      asks_bind (asks_call rfl) fun _ => asks_pure _
  · exact asks_bind (asks_call rfl) fun _ => asks_bind (asks_call rfl) fun _ => asks_bind (asks_call rfl) fun _ =>
      asks_bind (asks_call rfl) fun _ => asks_bind (asks_call rfl) fun _ => asks_call rfl

/-- The players are told of a match outside the queues and the database. -/
theorem announceMatch_keeps (works : Works env server) (world : World) :
    (announceMatch env fee taken problem matchId).Ensures server world fun _ world' =>
      world'.memory = world.memory ∧ world'.db = world.db := by
  refine works.frame (R := fun world world' => world'.memory = world.memory ∧ world'.db = world.db)
    (fun _ => ⟨rfl, rfl⟩) (fun first second => ⟨second.1.trans first.1, second.2.trans first.2⟩)
    (fun op asked => ?_) (fun {op} _ _ _ asked performed => ?_)
    (announceMatch_announces env fee taken problem matchId) world
  · cases op <;> first | rfl | cases asked
  · cases op
    case set => cases performed; exact ⟨rfl, rfl⟩
    case emit => cases performed; exact ⟨rfl, rfl⟩
    case dateNow => cases performed; exact ⟨rfl, rfl⟩
    case fork => cases performed; exact ⟨rfl, rfl⟩
    all_goals cases asked

theorem line_served {world' : World} {matchId : MatchId} {row : MatchRow}
    (distinct : taken.playerA.userId ≠ taken.playerB.userId)
    (unused : {matchId | world.db.matches_ matchId = none}.Infinite)
    (problems : ∀ entry ∈ taken.playerA :: taken.playerB :: world.memory.live fee,
      world.db.candidates (difficultyOf fee) (categoryOf entry.category) ≠ [])
    (paid : world.db.CanPay fee taken.playerA.userId ∧ world.db.CanPay fee taken.playerB.userId)
    (memory : world'.memory = world.memory)
    (balance : world'.db.balance = (feeRules env fee).charge ((feeRules env fee).charge world.db.balance
      taken.playerA.userId) taken.playerB.userId)
    (matches_ : world'.db.matches_ = Function.update world.db.matches_ matchId (some row))
    (pool : world'.db.problems = world.db.problems) :
    world'.line fee = (feeRules env fee).attempt
      ⟨taken.playerA :: taken.playerB :: world.memory.live fee, world.db.balance⟩ ∧ Supplied world' fee := by
  refine ⟨?_, ?_, fun entry member => ?_⟩
  · rw [(feeRules env fee).attempt_served distinct
      (Bool.and_eq_true_iff.mpr ⟨pays_iff.mpr paid.1, pays_iff.mpr paid.2⟩)]
    unfold World.line
    rw [memory, balance]
    rfl
  · -- every identifier that was unused still is, but the one of the new match
    refine (unused.sdiff (Set.finite_singleton matchId)).mono fun id other => ?_
    show world'.db.matches_ id = none
    rw [matches_, Function.update_of_ne other.2]
    exact other.1
  · rw [memory] at member
    have drawn := problems entry (.tail _ (.tail _ member))
    unfold Db.candidates at drawn ⊢
    rw [pool]
    exact drawn

theorem createFor_attempts {rest : List QueueEntry} (left : world.memory.live fee = rest)
    (held : taken.queue = world.memory.memoryQueues fee)
    (distinct : taken.playerA.userId ≠ taken.playerB.userId)
    (unused : {matchId | world.db.matches_ matchId = none}.Infinite)
    (problems : ∀ entry ∈ taken.playerA :: taken.playerB :: rest,
      world.db.candidates (difficultyOf fee) (categoryOf entry.category) ≠ []) :
    (createFor env fee taken).Ensures (unfailing env) world fun _ world' =>
      world'.line fee = (feeRules env fee).attempt
        ⟨taken.playerA :: taken.playerB :: rest, world.db.balance⟩ ∧ Supplied world' fee := by
  subst left
  have works := unfailing_works env
  refine works.del_bind.mpr (works.del_bind.mpr ((ensures_bind _ _ _ _).mpr
    (unfailing_pick (problems _ (.head _)) fun problem _ => ?_)))
  refine (ensures_bind _ _ _ _).mpr (unfailing_uuid unused.nonempty fun matchId fresh => ?_)
  by_cases paid : world.db.CanPay fee taken.playerA.userId ∧ world.db.CanPay fee taken.playerB.userId
  · obtain ⟨row, db, ran, balance, matches_, pool⟩ :=
      createMatch_served problem.id env distinct fresh paid.1 paid.2
    refine (ensures_bind _ _ _ _).mpr (commitMatch_served works ran ((ensures_bind _ _ _ _).mpr
      ((announceMatch_keeps works _).mono ?_)))
    rintro result world' ⟨memory, same⟩
    have same : world'.db = db := same
    rw [← same] at balance matches_ pool
    have served := line_served distinct unused problems paid memory balance matches_ pool
    cases result with
    | ok _ => exact served
    | error _ => exact served
  · obtain ⟨err, ran⟩ := createMatch_refused problem.id env matchId distinct paid
    refine (ensures_bind _ _ _ _).mpr (commitMatch_refused works ran ?_)
    have back : Memory.live ((MemoryOp.putBack taken).exec world.memory).2 fee =
        taken.playerA :: taken.playerB :: world.memory.live fee := by
      show Function.update _ taken.queue _ (world.memory.memoryQueues fee) = _
      rw [← held, Function.update_self, held]
      rfl
    refine ⟨?_, unused, fun entry member => problems entry (back ▸ member)⟩
    rw [(feeRules env fee).attempt_blocked distinct (unpaid_iff.mpr paid)]
    exact congrArg (Line.mk · world.db.balance) back

/-- **A call is an attempt** at the line of the players. -/
theorem tryCreateMatch_attempts (valid : fee ∈ validFees) (supplied : Supplied world fee) :
    (tryCreateMatch env fee).Ensures (unfailing env) world fun _ world' =>
      world'.line fee = (feeRules env fee).attempt (world.line fee) ∧ Supplied world' fee := by
  refine (unfailing_works env).memory_bind.mpr ?_
  obtain ⟨unused, problems⟩ := supplied
  have set : ∀ entries, (world.memory.setArray (world.memory.memoryQueues fee) entries).live fee = entries :=
    fun entries => Function.update_self _ _ _
  unfold World.line
  match queue : world.memory.live fee with
  | [] =>
    have stays : (MemoryOp.takeTwo fee).exec world.memory = (none, world.memory) := by
      simp only [MemoryOp.exec, if_pos valid, queue]
    rw [stays]
    exact ⟨congrArg (Line.mk · _) queue, unused, problems⟩
  | [entry] =>
    have stays : (MemoryOp.takeTwo fee).exec world.memory = (none, world.memory) := by
      simp only [MemoryOp.exec, if_pos valid, queue]
    rw [stays]
    exact ⟨congrArg (Line.mk · _) queue, unused, problems⟩
  | first :: second :: rest =>
    rw [queue] at problems
    by_cases same : first.userId = second.userId
    · have dropped : (MemoryOp.takeTwo fee).exec world.memory =
          (none, world.memory.setArray (world.memory.memoryQueues fee) (second :: rest)) := by
        simp only [MemoryOp.exec, if_pos valid, queue, if_pos same]
      rw [dropped, (feeRules env fee).attempt_same same]
      refine ⟨congrArg (Line.mk · _) (set _), unused, fun entry member => problems entry (.tail _ ?_)⟩
      rwa [set] at member
    · have taken : (MemoryOp.takeTwo fee).exec world.memory =
          (some ⟨fee, world.memory.memoryQueues fee, first, second⟩,
          world.memory.setArray (world.memory.memoryQueues fee) rest) := by
        simp only [MemoryOp.exec, if_pos valid, queue, if_neg same]
      rw [taken]
      exact createFor_attempts (set rest) rfl same unused problems

end Call

/-! ### Call after call -/

/-- The worker of a fee, a number of turns on end. -/
def turns (env : Env) (fee : ℕ) : ℕ → Promise Unit
  | 0 => pure ()
  | n + 1 => do
    worker env fee
    turns env fee n

theorem worker_attempts (valid : fee ∈ validFees) (supplied : Supplied world fee) :
    (worker env fee).Ensures (unfailing env) world fun result world' => result = .ok () ∧
      world'.line fee = (feeRules env fee).attempt (world.line fee) ∧ Supplied world' fee := by
  refine (ensures_attempt _ _ _ _).mpr ((ensures_bind _ _ _ _).mpr
    ((tryCreateMatch_attempts valid supplied).mono ?_))
  rintro (err | created) world' attempted
  · exact ⟨rfl, attempted⟩
  · exact ⟨rfl, attempted⟩

/-- **So many turns are as many attempts.** -/
theorem turns_attempts (valid : fee ∈ validFees) (n : ℕ) (supplied : Supplied world fee) :
    (turns env fee n).Ensures (unfailing env) world fun _ world' =>
      world'.line fee = (feeRules env fee).attempt^[n] (world.line fee) ∧ Supplied world' fee := by
  induction n generalizing world with
  | zero => exact ⟨rfl, supplied⟩
  | succ n ih =>
    refine (ensures_bind _ _ _ _).mpr ((worker_attempts valid supplied).mono ?_)
    rintro _ between ⟨rfl, attempted, still⟩
    rw [Function.iterate_succ_apply, ← attempted]
    exact ih still

/-- Two entries of different users who can both pay. -/
def World.SolventPair (world : World) (fee : ℕ) : Prop :=
  ∃ first ∈ world.memory.live fee, ∃ second ∈ world.memory.live fee, first.userId ≠ second.userId ∧
    world.db.CanPay fee first.userId ∧ world.db.CanPay fee second.userId

/-- The first two entries are of different users, of whom one cannot pay. -/
def World.BlockedHead (world : World) (fee : ℕ) : Prop :=
  ∃ first second rest, world.memory.live fee = first :: second :: rest ∧ first.userId ≠ second.userId ∧
    ¬ (world.db.CanPay fee first.userId ∧ world.db.CanPay fee second.userId)

/-- How many entries a user has in the queue. -/
def World.entries (world : World) (fee : ℕ) (user : UserId) : ℕ :=
  ((world.memory.live fee).map QueueEntry.userId).count user

/-- **Every balance covers the fee for each of the user's entries.** -/
def World.Covers (world : World) (fee : ℕ) : Prop :=
  ∀ entry ∈ world.memory.live fee, ∃ W, world.db.wallets entry.userId = some W ∧
    (world.entries fee entry.userId * fee : ℚ) ≤ W.balance

theorem blocked_iff : (feeRules env fee).Blocked (world.line fee) ↔ world.BlockedHead fee := by
  constructor
  · rintro ⟨first, second, rest, shape, distinct, unpaid⟩
    exact ⟨first, second, rest, shape, distinct, unpaid_iff.mp unpaid⟩
  · rintro ⟨first, second, rest, shape, distinct, unpaid⟩
    exact ⟨first, second, rest, shape, distinct, unpaid_iff.mpr unpaid⟩

theorem solventPair_of_line {world' : World} (same : world'.line fee = world.line fee)
    (pair : world.SolventPair fee) :
    world'.SolventPair fee := by
  have queue : world'.memory.live fee = world.memory.live fee := congrArg Line.queue same
  have funds : world'.db.balance = world.db.balance := congrArg Line.funds same
  obtain ⟨first, inFirst, second, inSecond, distinct, paysFirst, paysSecond⟩ := pair
  have pays : ∀ user, world.db.CanPay fee user → world'.db.CanPay fee user := by
    rintro user ⟨W, found, rich⟩
    have balance : world'.db.balance user = some W.balance := by
      rw [funds, Db.balance, found]
      rfl
    obtain ⟨W', found', same⟩ := Option.map_eq_some_iff.mp balance
    exact ⟨W', found', same ▸ rich⟩
  rw [← queue] at inFirst inSecond
  exact ⟨first, inFirst, second, inSecond, distinct, pays _ paysFirst, pays _ paysSecond⟩

theorem lasts_of_le (whole : env.numeric.store fee = fee) {n : ℕ} {balance : ℚ} (enough : (n * fee : ℚ) ≤ balance) :
    (feeRules env fee).Lasts (some balance) n := by
  induction n generalizing balance with
  | zero => trivial
  | succ n ih =>
    have nonneg : (0 : ℚ) ≤ n * fee := by positivity
    push_cast at enough
    refine ⟨decide_eq_true (by linarith), ih ?_⟩
    rw [← env.numeric.store_natCast_mul whole n]
    exact env.numeric.store_mono (by linarith)

theorem covered_of_covers (whole : env.numeric.store fee = fee) (covers : world.Covers fee) :
    (feeRules env fee).Covered (world.line fee) := by
  intro user
  rcases Nat.eq_zero_or_pos (world.entries fee user) with none | some
  · show (feeRules env fee).Lasts _ (world.entries fee user)
    rw [none]
    trivial
  · obtain ⟨entry, member, rfl⟩ := List.mem_map.mp (List.count_pos_iff.mp some)
    obtain ⟨W, found, enough⟩ := covers entry member
    have balance : (world.line fee).funds entry.userId = Option.some W.balance := by
      show (world.db.wallets entry.userId).map _ = _
      rw [found]
      rfl
    show (feeRules env fee).Lasts ((world.line fee).funds entry.userId) _
    rw [balance]
    exact lasts_of_le whole enough

theorem solventPair_long (pair : world.SolventPair fee) : ¬ (world.memory.live fee).length ≤ 1 := by
  obtain ⟨first, inFirst, second, inSecond, distinct, -⟩ := pair
  intro short
  match queue : world.memory.live fee with
  | [] =>
    rw [queue] at inFirst
    cases inFirst
  | [entry] =>
    rw [queue, List.mem_singleton] at inFirst inSecond
    exact distinct (by rw [inFirst, inSecond])
  | _ :: _ :: _ =>
    rw [queue, List.length_cons, List.length_cons] at short
    omega

/-- A problem of every difficulty. -/
def problemPool : List Problem :=
  ["easy", "medium", "hard"].map fun difficulty =>
    { id := 0, title := "", slug := "", description := "", difficulty, category := "arrays" }

/-- Users who wait for a match of ten rupees; user 1 has five, the others a hundred. -/
def waiting (users : List UserId) : World where
  now := 0
  db := { wallets := fun user => some ⟨if user = 1 then 5 else 100, 0, 0, 0, by split <;> norm_num, none_locked⟩,
          problems := problemPool }
  memory := { arrays := fun ref => if ref = 10 then users.map fun user => ⟨user, "", "all", user⟩ else [] }

theorem waiting_live (users : List UserId) :
    (waiting users).memory.live 10 = users.map fun user => ⟨user, "", "all", user⟩ :=
  rfl

theorem waiting_supplied (users : List UserId) : Supplied (waiting users) 10 := by
  refine ⟨Set.infinite_univ.mono fun _ _ => rfl, fun entry member => ?_⟩
  rw [waiting_live] at member
  obtain ⟨user, -, rfl⟩ := List.mem_map.mp member
  have easy : Db.candidates { problems := problemPool } "easy" none ≠ [] := by decide
  exact easy

theorem waiting_canPay {users : List UserId} {user : UserId} (rich : user ≠ 1) :
    (waiting users).db.CanPay 10 user := by
  refine ⟨_, rfl, ?_⟩
  show _ ≤ (if user = 1 then (5 : ℚ) else 100)
  rw [if_neg rich]
  norm_num

end SkillArena
