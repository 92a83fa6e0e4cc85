/-
**At most one pending withdrawal.**

`POST /wallet/withdraw` looks for a pending withdrawal of the user before its transaction, not in it. Two requests
of a user that both look before either commits find none, and both commit (`two_pending`). If a request looks only
while no other request of the user stands between its look and the end of its transaction, every user has at most
one pending withdrawal in every reachable state (`one_pending`).

The rules of the route are a contract: a request that found nothing is `cleared` until its transaction ends. The
pending rows of a user and the cleared requests of this user are at most one together.
-/

import SkillArena.Model.Withdraw
import SkillArena.Proof.Transactions
import SkillArena.Proof.Guard

namespace SkillArena

open Async

/-! ### The rows -/

def Db.pendingOf (db : Db) (user : UserId) : ℕ :=
  (db.withdrawals.filter fun row => row.userId == user && row.pending).length

theorem run_pending (env : Env) (transaction : Transaction) (db : Db) (user : UserId) :
    (transaction.run env db).2.pendingOf user ≤ db.pendingOf user + match transaction with
      | .withdraw owner _ _ => if owner = user then 1 else 0
      | _ => 0 := by
  rcases run_cases env transaction db with ⟨reply, db', ran⟩ | ⟨err, ran⟩
  · rw [ran]
    unfold Db.pendingOf
    rw [run_withdrawals ran, List.filter_append, List.length_append]
    refine Nat.add_le_add_left ?_ _
    cases transaction with
    | withdraw owner amount upiId =>
      by_cases same : owner = user
      · simp [Transaction.requests, same]
      · simp [Transaction.requests, same]
    | _ => exact le_rfl
  · rw [ran]
    exact Nat.le_add_right _ _

/-! ### The rules of the route -/

/-- **Where a request stands**: before its look for a pending withdrawal, between a look that found none and the end
of its transaction, or past it. -/
inductive WithdrawStage
  | looking (user : UserId)
  | cleared (user : UserId)
  | served
  deriving DecidableEq

namespace WithdrawStage

/-- The request is about to withdraw for a user. -/
def clears (user : UserId) : WithdrawStage → Bool
  | cleared user' => user' = user
  | _ => false

def may : WithdrawStage → WithdrawOp → Prop
  | looking user, .pendingCheck user' => user' = user
  | looking _, .respond .. => True
  | cleared user, .withdraw user' _ _ => user' = user
  | served, .selectContact _ => True
  | served, .respond .. => True
  | _, _ => False

def after (stage : WithdrawStage) : (op : WithdrawOp) → Except Err op.Reply → WithdrawStage
  | .pendingCheck user, .ok 0 => cleared user
  | .pendingCheck _, _ => served
  | .withdraw .., _ => served
  | _, _ => stage

end WithdrawStage

/-- **The rules of the route.** -/
@[reducible] def counter : Contract withdrawSignature where
  Phase := WithdrawStage
  may := WithdrawStage.may
  answers _ _ _ := True
  after := WithdrawStage.after

theorem counter_call {β : Type} {stage : WithdrawStage} {op : WithdrawOp}
    {rest : op.Reply → Task withdrawSignature Err β} {post : Except Err β → WithdrawStage → Prop}
    (may : stage.may op) (next : ∀ value, (rest value).Keeps counter (stage.after op (.ok value)) post)
    (failed : ∀ err, post (.error err) (stage.after op (.error err))) :
    (op.call >>= rest).Keeps counter stage post := by
  refine (Task.keeps_bind _ _ _ _).mpr ⟨may, fun reply _ => ?_⟩
  cases reply with
  | error err => exact failed err
  | ok value => exact next value

/-- The stages a request can be answered in. -/
def WithdrawStage.rests (user : UserId) (stage : WithdrawStage) : Prop := stage = .looking user ∨ stage = .served

theorem requestWithdrawal_keeps (userId : UserId) (amount : ℚ) (upiId : Text) :
    (requestWithdrawal userId amount upiId).Keeps counter (.looking userId)
      fun _ => WithdrawStage.rests userId := by
  refine counter_call rfl (fun pendingCheck => ?_) fun _ => .inr rfl
  cases pendingCheck with
  | succ rows => exact .inr rfl
  | zero =>
    refine counter_call rfl (fun result => ?_) fun _ => .inr rfl
    exact counter_call trivial (fun _ => .inr rfl) fun _ => .inr rfl

theorem withdrawBody_keeps (request : WithdrawRequest) :
    (withdrawBody request).Keeps counter (.looking request.userId) fun _ => WithdrawStage.rests request.userId := by
  unfold withdrawBody
  split
  · exact .inl rfl
  · exact .inl rfl
  · split
    · exact .inl rfl
    · split
      · exact .inl rfl
      · split
        · exact .inl rfl
        · split
          · exact .inl rfl
          · split
            · exact .inl rfl
            · split
              · exact requestWithdrawal_keeps _ _ _
              · exact .inl rfl
  · exact .inl rfl

/-- **Every request keeps the rules**, and is not about to withdraw when it ends. -/
theorem withdrawRoute_keeps (request : WithdrawRequest) :
    (withdrawRoute request).run.Keeps counter (.looking request.userId) fun _ stage =>
      ∀ user, stage.clears user = false := by
  refine (Task.keeps_run _ _ _).mpr ((Task.keeps_bind _ _ _ _).mpr ((Task.keeps_attempt _ _ _ _).mpr ?_))
  have answers : ∀ stage : WithdrawStage, stage.rests request.userId → ∀ response,
      (WithdrawOp.respond request.userId response).call.Keeps counter stage fun _ stage =>
        ∀ user, stage.clears user = false := by
    rintro stage (rfl | rfl) response
    · exact ⟨trivial, fun _ _ _ => rfl⟩
    · exact ⟨trivial, fun _ _ _ => rfl⟩
  refine (withdrawBody_keeps request).mono ?_
  rintro (err | response) stage rests
  · exact answers stage rests _
  · exact answers stage rests _

/-! ### One request at a time -/

/-- The request is about to run the transaction of a user. -/
def aboutToWithdraw (user : UserId) (thread : WithdrawRequest × Prog withdrawSignature Unit) : Bool :=
  match thread.2.head with
  | some (.withdraw user' _ _) => user' = user
  | _ => false

/-- **A request looks for a pending withdrawal only while no other request of the user stands between its look and
the end of its transaction.** -/
def looksAlone (c : Config withdrawSignature WithdrawState WithdrawRequest) :
    Move WithdrawRequest Bool Transaction → Bool
  | .step index _ =>
    match c.threads[index]?.bind (·.2.head) with
    | some (.pendingCheck user) => !c.threads.any (aboutToWithdraw user)
    | _ => true
  | _ => true

theorem aboutToWithdraw_of_clears {user : UserId} {thread : WithdrawRequest × Prog withdrawSignature Unit}
    {stage : WithdrawStage} (keeps : thread.2.Keeps counter stage fun _ stage => ∀ user, stage.clears user = false)
    (clears : stage.clears user = true) : aboutToWithdraw user thread = true := by
  obtain ⟨request, prog⟩ := thread
  cases stage with
  | looking user' => cases clears
  | served => cases clears
  | cleared user' =>
    cases prog with
    | done value => exact absurd clears (Bool.eq_false_iff.mp (keeps user))
    | await op next =>
      cases op with
      | withdraw user'' amount upiId =>
        have own : user'' = user' := keeps.1
        subst own
        exact clears
      | _ => exact absurd keeps.1 id

/-- The requests that are about to withdraw for a user. -/
def clearedFor (user : UserId) (phases : List (WithdrawRequest × WithdrawStage)) : ℕ :=
  phases.countP fun p => p.2.clears user

theorem clearedFor_eq_zero {c : Config withdrawSignature WithdrawState WithdrawRequest}
    {phases : List (WithdrawRequest × WithdrawStage)} {user : UserId}
    (tracks : Tracks counter (fun stage : WithdrawStage => ∀ user, stage.clears user = false) c phases)
    (alone : c.threads.any (aboutToWithdraw user) = false) : clearedFor user phases = 0 := by
  refine List.countP_eq_zero.mpr ?_
  rintro ⟨request, stage⟩ member clears
  obtain ⟨index, found⟩ := List.getElem?_of_mem member
  obtain ⟨prog, thread, keeps⟩ := tracks.get_of_phase found
  have about : aboutToWithdraw user (request, prog) = true := aboutToWithdraw_of_clears keeps clears
  exact Bool.eq_false_iff.mp alone (List.any_eq_true.mpr ⟨_, List.mem_of_getElem? thread, about⟩)

/-- **One operation** makes a row pending at the cost of a cleared request; only a look that finds no pending row
clears one. -/
theorem perform_sparse {env : Env} {fails : Bool} {op : WithdrawOp} {state state' : WithdrawState}
    {stage : WithdrawStage} {reply : Except Err op.Reply} (may : stage.may op)
    (performed : op.perform env fails state = some (reply, state')) (user : UserId) :
    state'.db.pendingOf user + (if (stage.after op reply).clears user then 1 else 0) ≤
        state.db.pendingOf user + (if stage.clears user then 1 else 0) ∨
      op = .pendingCheck user ∧
        state'.db.pendingOf user + (if (stage.after op reply).clears user then 1 else 0) ≤ 1 := by
  unfold WithdrawOp.perform at performed
  cases fails with
  | true =>
    cases op with
    | respond => cases performed
    | selectContact =>
      cases performed
      exact .inl le_rfl
    | pendingCheck =>
      cases performed
      exact .inl (Nat.le_add_right _ _)
    | withdraw =>
      cases performed
      exact .inl (Nat.le_add_right _ _)
  | false =>
    cases op with
    | respond =>
      cases performed
      exact .inl le_rfl
    | selectContact =>
      cases performed
      exact .inl le_rfl
    | pendingCheck owner =>
      have looked : some (Except.ok (state.db.pendingOf owner), state) = some (reply, state') := performed
      obtain ⟨rfl, rfl⟩ := Prod.mk.inj (Option.some.inj looked)
      cases rows : state.db.pendingOf owner with
      | succ more => exact .inl (Nat.le_add_right _ _)
      | zero =>
        by_cases same : owner = user
        · subst same
          exact .inr ⟨rfl, by simp [WithdrawStage.after, WithdrawStage.clears, rows]⟩
        · exact .inl (by simp [WithdrawStage.after, WithdrawStage.clears, same])
    | withdraw owner amount upiId =>
      cases performed
      left
      have more := run_pending env (.withdraw owner amount upiId) state.db user
      cases stage with
      | looking => cases may
      | served => cases may
      | cleared owner' =>
        have own : owner = owner' := may
        subst own
        simpa [WithdrawStage.clears, WithdrawStage.after] using more

/-- **The discipline of the pending rows**: the pending rows of a user and the requests about to add one are at most
one together. -/
def pendingDiscipline (env : Env) :
    Discipline (withdrawServer env) (fun c m => looksAlone c m = true) counter where
  enter request := .looking request.userId
  finished stage := ∀ user, stage.clears user = false
  Inv state phases := ∀ user, state.db.pendingOf user + clearedFor user phases ≤ 1
  keeps _ request _ := withdrawRoute_keeps request
  start c phases request state _ inv _ arrived user := by
    cases arrived
    simpa [clearedFor, WithdrawStage.clears] using inv user
  step c phases index fails request op next stage reply state tracks inv allowed found inPhase may performed := by
    refine ⟨trivial, List.forall_mem_nil _, fun user => ?_⟩
    have counts : clearedFor user (phases.set index (request, stage.after op reply)) +
        (if stage.clears user then 1 else 0) =
        clearedFor user phases + (if (stage.after op reply).clears user then 1 else 0) := countP_set inPhase _
    show state.db.pendingOf user + clearedFor user (phases.set index (request, stage.after op reply) ++ []) ≤ 1
    rw [List.append_nil]
    have before : c.state.db.pendingOf user + clearedFor user phases ≤ 1 := inv user
    rcases perform_sparse may performed user with kept | ⟨rfl, sparse⟩
    · omega
    · have alone : c.threads.any (aboutToWithdraw user) = false := by
        simpa [looksAlone, found] using allowed
      have none_ : clearedFor user phases = 0 := clearedFor_eq_zero tracks alone
      omega
  outside c phases transaction state _ inv _ acted user := by
    have same : state.db.pendingOf user ≤ c.state.db.pendingOf user := by
      have more := run_pending env transaction c.state.db user
      cases transaction with
      | withdraw => cases acted
      | _ =>
        cases acted
        exact more
    exact (Nat.add_le_add_right same _).trans (inv user)

/-- **Every user has at most one pending withdrawal** in every state that requests reach which look for one only
while no other request of their user stands between its look and the end of its transaction. -/
theorem one_pending (env : Env) {start : WithdrawState} {c : Config withdrawSignature WithdrawState WithdrawRequest}
    (initial : ∀ user, start.db.pendingOf user ≤ 1)
    (run : Reaches (withdrawServer env) (fun c m => looksAlone c m = true) ⟨start, []⟩ c) (user : UserId) :
    c.state.db.pendingOf user ≤ 1 := by
  have idle : (pendingDiscipline env).Inv start [] := initial
  obtain ⟨phases, _, inv⟩ := (pendingDiscipline env).holds ⟨[], tracks_nil rfl, idle⟩ run
  exact (Nat.le_add_right _ _).trans (inv user)

/-! ### Two requests -/

/-- A request of the first user for fifty rupees. -/
def fiftyToUpi : WithdrawRequest :=
  { userId := 1, amount := ⟨true, .finite 50, .finite 50⟩, upiId := .str "player@upi".toList }

/-- Both requests look for a pending withdrawal before either runs its transaction. -/
def bothLook : List (Move WithdrawRequest Bool Transaction) :=
  [.start fiftyToUpi, .start fiftyToUpi, .step 0 false, .step 1 false, .step 0 false, .step 1 false]

/-- **Two requests of a user leave two pending withdrawals.** -/
theorem two_pending : ∃ c, Reaches (withdrawServer sampleEnv) (fun _ _ => True) ⟨⟨twoPlayers, []⟩, []⟩ c ∧
    twoPlayers.withdrawals = [] ∧ c.state.db.pendingOf 1 = 2 := by
  obtain ⟨c, run, ended⟩ := (withdrawServer sampleEnv).exists_run (fun _ _ => true) ⟨⟨twoPlayers, []⟩, []⟩ bothLook
    (fun c => c.state.db.pendingOf 1 = 2) (by decide +kernel)
  exact ⟨c, run.mono fun _ _ _ => trivial, rfl, of_decide_eq_true ended⟩

/-- The second request comes while the first withdrawal is pending. -/
def oneAfterTheOther : List (Move WithdrawRequest Bool Transaction) :=
  [.start fiftyToUpi, .start fiftyToUpi, .step 0 false, .step 0 false, .step 1 false, .step 1 false]

/-- One after the other, the first request leaves its withdrawal pending and the second is turned away. -/
theorem one_pending_turned_away : ∃ c,
    Reaches (withdrawServer sampleEnv) (fun c m => looksAlone c m = true) ⟨⟨twoPlayers, []⟩, []⟩ c ∧
    c.state.responses =
      [(1, .error "You already have a pending withdrawal. Wait for it to process." 400)] ∧
    1 ≤ c.state.db.pendingOf 1 ∧ c.state.db.pendingOf 1 ≤ 1 := by
  obtain ⟨c, run, ended⟩ := (withdrawServer sampleEnv).exists_run looksAlone ⟨⟨twoPlayers, []⟩, []⟩ oneAfterTheOther
    (fun c => c.state.responses =
      [(1, .error "You already have a pending withdrawal. Wait for it to process." 400)] ∧
      1 ≤ c.state.db.pendingOf 1) (by decide +kernel)
  obtain ⟨answered, pending⟩ := of_decide_eq_true ended
  exact ⟨c, run, answered, pending, one_pending sampleEnv (fun user => Nat.zero_le _) run 1⟩

end SkillArena
