/-
**What a user who does not play a match can do to it.**

Of the events a client can send about a match only `match:join` compares the sender with the two
players. A stranger's `match:forfeit_request` resolves the match, with the stranger as the loser
(`stranger_forfeits`), and a stranger's submission refunds it when it cannot be judged, and decides it
when both players' scores are recorded. Where none of these branches is taken, no step of a stranger's
handler changes the match state, the flag, the row of the match or any wallet (`stranger_leaves_match`),
whatever everybody else does in between.
-/

import SkillArena.Proof.Guard

namespace SkillArena

open Async Expiring

/-! ### The contract of a stranger -/

/-- What a stranger's handler is about: reading, forfeiting, submitting, or submitting after the score
of player A was found. -/
inductive Stance
  | passive
  | forfeiting
  | submitting
  | sawFirst
  deriving DecidableEq

def Op.isDel : Op → Bool
  | del _ => true
  | _ => false

/-- The operation leaves the match, its keys and all wallets alone; it deletes and forks nothing. -/
def Op.harmless (matchId : MatchId) (op : Op) : Bool :=
  !op.writes (.state matchId) && !op.writes (.resolved matchId) && !op.rewrites matchId &&
    !(op.commits fun _ => true) && !op.isDel && op.forks.isEmpty

/-- The match state an operation read. -/
def Op.readState (matchId : MatchId) : (op : Op) → Except Err op.Reply → Option MatchState
  | get (.state matchId'), .ok stored => if matchId' = matchId then stored else none
  | _, _ => none

/-- The operation found a user's score. -/
def Op.foundScore (matchId : MatchId) (user : UserId) : (op : Op) → Except Err op.Reply → Bool
  | get (.score matchId' user'), .ok (some _) => matchId' = matchId && user' = user
  | _, _ => false

def Op.readsScore : Op → Bool
  | get (.score ..) => true
  | _ => false

/-- The operation found that the match has no problem. -/
def Op.noProblem (matchId : MatchId) : (op : Op) → Except Err op.Reply → Bool
  | query (.problemIdOf matchId'), .ok none => matchId' = matchId
  | _, _ => false

/-- The judge gave no verdict. -/
def Op.unjudged : (op : Op) → Except Err op.Reply → Bool
  | evaluateCode .., .ok result => result.status = .judgeError
  | _, _ => false

/-- **The contract of a stranger**: as long as the branches that settle the match are not taken, every
operation is harmless. -/
def stranger (matchId : MatchId) (playerA playerB : UserId) : Contract signature where
  Phase := Stance
  may _ op := op.harmless matchId = true
  answers phase op reply :=
    (∀ matchState, op.readState matchId reply = some matchState →
      matchState.playerAId = playerA ∧ matchState.playerBId = playerB ∧
        (phase = .forfeiting → matchState.status ≠ .inProgress)) ∧
    op.noProblem matchId reply = false ∧ op.unjudged reply = false ∧
    (phase = .sawFirst → op.foundScore matchId playerB reply = false)
  after phase op reply :=
    if phase = .submitting ∧ op.foundScore matchId playerA reply = true then .sawFirst else phase

section Contract

variable {matchId : MatchId} {playerA playerB : UserId}

open Async.Task (stable_pure stable_bind stable_attempt)

theorem stranger_after_cases (matchId : MatchId) (playerA playerB : UserId) (phase : Stance) (op : Op)
    (reply : Except Err op.Reply) :
    (stranger matchId playerA playerB).after phase op reply = phase ∨
      ((stranger matchId playerA playerB).after phase op reply = .sawFirst ∧
        op.foundScore matchId playerA reply = true) := by
  by_cases both : phase = .submitting ∧ op.foundScore matchId playerA reply = true
  · exact .inr ⟨if_pos both, both.2⟩
  · exact .inl (if_neg both)

theorem stranger_after {phase : Stance} (other : phase ≠ .submitting) (op : Op)
    (reply : Except Err op.Reply) : (stranger matchId playerA playerB).after phase op reply = phase :=
  if_neg fun both => other both.1

theorem stranger_idle (stance : Stance) (phase : Stance) (op : Op) (here : phase = stance)
    (harmless : op.harmless matchId = true ∧ op.readsScore = false) :
    (stranger matchId playerA playerB).may phase op ∧
      ∀ reply, (stranger matchId playerA playerB).answers phase op reply →
        (stranger matchId playerA playerB).after phase op reply = stance := by
  refine ⟨harmless.1, fun reply _ => ?_⟩
  have unscored : op.foundScore matchId playerA reply = false := by
    unfold Op.foundScore
    split
    · cases harmless.2
    · rfl
  subst here
  exact if_neg fun both => by rw [unscored] at both; cases both.2

theorem stranger_call {stance : Stance} {op : Op} (harmless : op.harmless matchId = true)
    (unscored : op.readsScore = false) :
    op.call.Stable (stranger matchId playerA playerB) (· = stance) :=
  (asks_call ⟨harmless, unscored⟩).stable (stranger_idle stance)

theorem harmless_of_passive {op : Op} (passive : op.passive) : op.harmless matchId = true := by
  cases op with
  | query sql =>
    cases sql
    case testCasesOfMatch => rfl
    all_goals cases passive
  | get => rfl
  | executeCode => rfl
  | dateNow => rfl
  | emit => rfl
  | _ => cases passive

theorem stranger_passive {task : Promise Unit} (asks : task.Asks Op.passive) :
    task.Stable (stranger matchId playerA playerB) (· = .passive) := by
  refine asks.stable fun phase op here passive => ⟨harmless_of_passive passive, fun reply _ => ?_⟩
  subst here
  exact stranger_after (show Stance.passive ≠ .submitting from nofun) op reply

theorem forfeitRequest_stranger (userId : UserId) (reason : String) :
    (forfeitRequest userId matchId reason).Keeps (stranger matchId playerA playerB) .forfeiting
      fun _ _ => True := by
  refine (Task.keeps_attempt _ _ _ _).mpr
    (keeps_call_bind rfl (fun stored answers => ?_) fun _ _ => trivial)
  cases stored with
  | none => trivial
  | some matchState =>
    obtain ⟨_, _, closed⟩ := answers.1 matchState (if_pos rfl)
    dsimp only
    rw [if_pos (closed rfl)]
    trivial

/-- The tail of a submission, once the verdict is there: the scores of both players are not found. -/
theorem afterEvaluation_stranger (userId : UserId) {matchState : MatchState} {evalResult : EvalResult}
    (isA : matchState.playerAId = playerA) (isB : matchState.playerBId = playerB)
    (judged : evalResult.status ≠ .judgeError) :
    (afterEvaluation userId matchId matchState evalResult).Keeps (stranger matchId playerA playerB)
      .submitting fun _ _ => True := by
  unfold afterEvaluation
  rw [if_neg judged, isA, isB]
  refine (stranger_call rfl rfl).keeps_bind (fun _ => ?_) fun _ => trivial
  refine (stranger_call rfl rfl).keeps_bind (fun _ => ?_) fun _ => trivial
  refine (stranger_call rfl rfl).keeps_bind (fun _ => ?_) fun _ => trivial
  refine keeps_call_bind rfl (fun scoreA _ => ?_) fun _ _ => trivial
  refine keeps_call_bind rfl (fun scoreB answers => ?_) fun _ _ => trivial
  have notBoth : (scoreA.isSome && scoreB.isSome) = false := by
    cases scoreA with
    | none => rfl
    | some a =>
      cases scoreB with
      | none => rfl
      | some b =>
        have saw : (stranger matchId playerA playerB).after .submitting (.get (.score matchId playerA))
            (.ok (some a)) = .sawFirst := if_pos ⟨rfl, by simp [Op.foundScore]⟩
        have unfound := answers.2.2.2 saw
        simp [Op.foundScore] at unfound
  rw [notBoth]
  exact ⟨rfl, fun _ _ => trivial⟩

theorem submitLocked_stranger (userId : UserId) (language code : JsVal) {matchState : MatchState}
    (isA : matchState.playerAId = playerA) (isB : matchState.playerBId = playerB) :
    (submitLocked userId matchId language code matchState).Keeps (stranger matchId playerA playerB)
      .submitting fun _ _ => True := by
  refine (stranger_call rfl rfl).keeps_bind (fun _ => ?_) fun _ => trivial
  refine (stranger_call rfl rfl).keeps_bind (fun _ => ?_) fun _ => trivial
  refine (stranger_call rfl rfl).keeps_bind (fun startTs => ?_) fun _ => trivial
  refine (stranger_call rfl rfl).keeps_bind (fun now => ?_) fun _ => trivial
  refine (stranger_call rfl rfl).keeps_bind (fun _ => ?_) fun _ => trivial
  refine (stranger_call rfl rfl).keeps_bind (fun _ => ?_) fun _ => trivial
  refine keeps_call_bind rfl (fun problemId answers => ?_) fun _ _ => trivial
  cases problemId with
  | none => exact absurd answers.2.1 (by simp [Op.noProblem])
  | some problemId =>
    refine (stranger_call rfl rfl).keeps_bind (fun _ => ?_) fun _ => trivial
    refine keeps_call_bind rfl (fun evalResult answers => ?_) fun _ _ => trivial
    have judged : evalResult.status ≠ .judgeError := by simpa [Op.unjudged] using answers.2.2.1
    exact afterEvaluation_stranger userId isA isB judged

theorem codeSubmit_stranger (userId : UserId) (language code : JsVal) :
    (codeSubmit userId matchId language code).Keeps (stranger matchId playerA playerB) .submitting
      fun _ _ => True := by
  have sends : ∀ (phase : Stance) (event : Event), (emit (.sender userId) event).Keeps
      (stranger matchId playerA playerB) phase fun _ _ => True :=
    fun _ _ => ⟨rfl, fun _ _ => trivial⟩
  refine (Task.keeps_attempt _ _ _ _).mpr (Task.Keeps.mono (?_ : Task.Keeps _ _ _ fun _ _ => True) ?_)
  · refine keeps_call_bind rfl (fun stored answers => ?_) fun _ _ => trivial
    cases stored with
    | none => exact sends _ _
    | some matchState =>
      obtain ⟨isA, isB, _⟩ := answers.1 matchState (if_pos rfl)
      dsimp only
      split
      · exact sends _ _
      · have timer : (getMatchTimer matchId).Stable (stranger matchId playerA playerB)
            (· = .submitting) :=
          (getMatchTimer_asks matchId ⟨rfl, rfl⟩ ⟨rfl, rfl⟩ ⟨rfl, rfl⟩).stable
            (stranger_idle .submitting)
        refine timer.keeps_bind (fun timer => ?_) fun _ => trivial
        split
        · exact sends _ _
        · refine (stranger_call rfl rfl).keeps_bind (fun locked => ?_) fun _ => trivial
          cases locked with
          | false => exact sends _ _
          | true => exact submitLocked_stranger userId language code isA isB
  · rintro (err | value) phase _
    · exact sends _ _
    · trivial

end Contract

/-! ### The condition -/

/-- What a handler is about when it starts. -/
def Handler.stance : Handler → Stance
  | forfeitRequest .. => .forfeiting
  | codeSubmit .. => .submitting
  | _ => .passive

/-- One of the five events a user can send about a match. -/
def Handler.sentAbout (user : UserId) (matchId : MatchId) : Handler → Bool
  | matchJoin user' matchId' => user' = user && matchId' = matchId
  | codeRun user' matchId' _ _ => user' = user && matchId' = matchId
  | codeSubmit user' matchId' _ _ => user' = user && matchId' = matchId
  | forfeitRequest user' matchId' _ => user' = user && matchId' = matchId
  | matchLeave user' matchId' => user' = user && matchId' = matchId
  | _ => false

/-- **The condition on a step of a stranger**: a forfeit does not find the match in progress, a
submission finds a problem and gets a verdict, and it does not find the scores of both players. -/
def Op.spared (matchId : MatchId) (playerA playerB : UserId) (event : Handler) (choice : Choice)
    (world : World) : Op → Bool
  | get key =>
    (key ≠ .state matchId || event.stance ≠ .forfeiting ||
      (world.redis.read world.now (.state matchId)).all (·.status ≠ .inProgress)) &&
    (key ≠ .score matchId playerB || (world.redis (.score matchId playerA)).isNone ||
      (world.redis.read world.now (.score matchId playerB)).isNone)
  | query (.problemIdOf matchId') =>
    matchId' ≠ matchId || ((world.db.matches_ matchId).bind (·.problemId)).isSome
  | evaluateCode .. => match choice with
    | .verdict result => result.status ≠ .judgeError
    | _ => true
  | _ => true

/-- What everybody else does keeps the players of the match, and deletes no score. -/
def Op.keepsPlayers (matchId : MatchId) (playerA playerB : UserId) : Op → Bool
  | set (.state matchId') matchState _ | setNx (.state matchId') matchState _ =>
    matchId' ≠ matchId || (matchState.playerAId = playerA && matchState.playerBId = playerB)
  | op => !op.deletes (.score matchId playerA)

/-- **The condition on a run**: the handlers of the pool are a stranger's, about one match, and their
steps meet the condition; everything else in the system acts from outside. -/
def strangerSpared (matchId : MatchId) (playerA playerB user : UserId) (c : BackendConfig) :
    BackendMove → Bool
  | .start handler => handler.sentAbout user matchId
  | .step index choice => match c.threads[index]? with
    | some (event, .await op _) => op.spared matchId playerA playerB event choice c.state
    | _ => true
  | .outside (.tick _) => true
  | .outside (.act _ op) => op.keepsPlayers matchId playerA playerB

/-! ### The invariant -/

/-- The players of the match are the given ones, a forfeit is known for one, and a score that was seen
was written. -/
structure StrangerInv (matchId : MatchId) (playerA playerB : UserId) (world : World)
    (phases : List (Handler × Stance)) : Prop where
  players : ∀ cell, world.redis (.state matchId) = some cell →
    cell.value.playerAId = playerA ∧ cell.value.playerBId = playerB
  stances : ∀ entry ∈ phases, entry.2 = .forfeiting → entry.1.stance = .forfeiting
  seen : ∀ entry ∈ phases, entry.2 = .sawFirst → world.redis (.score matchId playerA) ≠ none

section Inv

variable {env : Env} {choice : Choice} {matchId : MatchId} {playerA playerB user : UserId}
  {world world' : World} {phases : List (Handler × Stance)} {index : ℕ} {event : Handler}
  {phase : Stance} {op : Op} {reply : Except Err op.Reply}

theorem harmless_parts (harmless : op.harmless matchId = true) :
    op.writes (.state matchId) = false ∧ op.writes (.resolved matchId) = false ∧
      op.rewrites matchId = false ∧ (op.commits fun _ => true) = false ∧ op.isDel = false ∧
      op.forks = [] := by
  simpa [Op.harmless, and_assoc] using harmless

theorem foundScore_read (performed : op.perform env choice world = some (reply, world'))
    (found : op.foundScore matchId user reply = true) :
    op = .get (.score matchId user) ∧ (world.redis.read world.now (.score matchId user)).isSome := by
  unfold Op.foundScore at found
  split at found
  · rename_i matchId' user' score
    obtain ⟨rfl, rfl⟩ : matchId' = matchId ∧ user' = user := by simpa using found
    obtain ⟨read, _⟩ := perform_get_ok performed
    rw [← read]
    exact ⟨rfl, rfl⟩
  · cases found

theorem spared_answers (inv : StrangerInv matchId playerA playerB world phases)
    (found : phases[index]? = some (event, phase))
    (performed : op.perform env choice world = some (reply, world'))
    (spared : op.spared matchId playerA playerB event choice world = true) :
    (stranger matchId playerA playerB).answers phase op reply := by
  have member : (event, phase) ∈ phases := List.mem_of_getElem? found
  refine ⟨fun matchState read => ?_, ?_, ?_, fun saw => ?_⟩
  · unfold Op.readState at read
    split at read
    · rename_i matchId' stored
      split at read
      · rename_i same
        subst same read
        obtain ⟨stored, rfl⟩ := perform_get_ok performed
        obtain ⟨cell, raw, _, rfl⟩ := Store.read_eq_some.mp stored.symm
        refine ⟨(inv.players cell raw).1, (inv.players cell raw).2, fun forfeiting => ?_⟩
        have stance := inv.stances _ member forfeiting
        have closed : (world'.redis.read world'.now (.state matchId')).all (·.status ≠ .inProgress) = true := by
          simpa [Op.spared, stance] using spared
        rw [← stored] at closed
        simpa using closed
      · cases read
    · cases read
  · refine Bool.eq_false_iff.mpr fun missing => ?_
    unfold Op.noProblem at missing
    split at missing
    · rename_i matchId'
      obtain rfl : matchId' = matchId := by simpa using missing
      obtain ⟨pick, db', ran, rfl⟩ := perform_query_ok performed
      have absent : (world.db.matches_ matchId').bind (·.problemId) = none := by
        simp only [Query.exec, Except.ok.injEq, Prod.mk.injEq] at ran
        exact ran.1
      simp [Op.spared, absent] at spared
    · cases missing
  · refine Bool.eq_false_iff.mpr fun unjudged => ?_
    unfold Op.unjudged at unjudged
    split at unjudged
    · rename_i result
      have proceeded := proceed_of_ok performed
      simp only [Op.proceed] at proceeded
      split at proceeded
      · cases proceeded
        simp_all [Op.spared]
      · cases proceeded
    · cases unjudged
  · refine Bool.eq_false_iff.mpr fun foundB => ?_
    obtain ⟨rfl, read⟩ := foundScore_read performed foundB
    have written := inv.seen _ member saw
    have either : world.redis (.score matchId playerA) = none ∨
        world.redis.read world.now (.score matchId playerB) = none := by
      simpa [Op.spared] using spared
    rcases either with unwritten | unread
    · exact written unwritten
    · rw [unread] at read
      cases read

/-- **One step of a stranger keeps the invariant.** -/
theorem StrangerInv.step (inv : StrangerInv matchId playerA playerB world phases)
    (found : phases[index]? = some (event, phase)) (harmless : op.harmless matchId = true)
    (performed : op.perform env choice world = some (reply, world')) :
    StrangerInv matchId playerA playerB world'
      (phases.set index (event, (stranger matchId playerA playerB).after phase op reply)) := by
  obtain ⟨state, _, _, _, noDel, _⟩ := harmless_parts harmless
  have member : (event, phase) ∈ phases := List.mem_of_getElem? found
  have kept : op.deletes (.score matchId playerA) = false := by
    cases op
    case del => cases noDel
    all_goals rfl
  refine ⟨?_, fun entry inside forfeiting => ?_, fun entry inside saw => ?_⟩
  · rw [redis_frame performed state]
    exact inv.players
  · rcases List.mem_or_eq_of_mem_set inside with old | rfl
    · exact inv.stances entry old forfeiting
    · rcases stranger_after_cases matchId playerA playerB phase op reply with same | ⟨saw, _⟩
      · exact inv.stances (event, phase) member (same.symm.trans forfeiting)
      · cases saw.symm.trans forfeiting
  · rcases List.mem_or_eq_of_mem_set inside with old | rfl
    · exact written_frame performed kept (inv.seen entry old saw)
    · rcases stranger_after_cases matchId playerA playerB phase op reply with same | ⟨_, foundA⟩
      · exact written_frame performed kept (inv.seen (event, phase) member (same.symm.trans saw))
      · obtain ⟨_, read⟩ := foundScore_read performed foundA
        refine written_frame performed kept fun unwritten => ?_
        rw [Store.read_of_none unwritten] at read
        cases read

theorem StrangerInv.append (inv : StrangerInv matchId playerA playerB world phases)
    (events : List Handler) :
    StrangerInv matchId playerA playerB world (phases ++ events.map fun event => (event, event.stance)) := by
  refine ⟨inv.players, fun entry inside forfeiting => ?_, fun entry inside saw => ?_⟩
  · rcases List.mem_append.mp inside with old | new
    · exact inv.stances entry old forfeiting
    · obtain ⟨event, _, rfl⟩ := List.mem_map.mp new
      exact forfeiting
  · rcases List.mem_append.mp inside with old | new
    · exact inv.seen entry old saw
    · obtain ⟨event, _, rfl⟩ := List.mem_map.mp new
      have never : event.stance ≠ .sawFirst := by cases event <;> exact nofun
      exact absurd saw never

theorem StrangerInv.outside (inv : StrangerInv matchId playerA playerB world phases)
    (keeps : op.keepsPlayers matchId playerA playerB = true)
    (performed : op.perform env choice world = some (reply, world')) :
    StrangerInv matchId playerA playerB world' phases := by
  have kept : op.deletes (.score matchId playerA) = false := by
    unfold Op.keepsPlayers at keeps
    split at keeps
    · rfl
    · rfl
    · simpa using keeps
  refine ⟨fun cell stored => ?_, inv.stances, fun entry inside saw =>
    written_frame performed kept (inv.seen entry inside saw)⟩
  by_cases touches : op.writes (.state matchId) = true
  · cases reply with
    | error err =>
      rw [perform_error performed] at stored
      exact inv.players cell stored
    | ok value =>
      cases op
      case set key matchState seconds =>
        obtain rfl : key = .state matchId := by simpa [Op.writes] using touches
        rw [perform_set_ok performed, withRedis_redis, Store.write_self] at stored
        cases stored
        simpa [Op.keepsPlayers] using keeps
      case setNx key matchState seconds =>
        obtain rfl : key = .state matchId := by simpa [Op.writes] using touches
        rcases perform_setNx_ok performed with ⟨_, _, rfl⟩ | ⟨_, _, rfl⟩
        · exact inv.players cell stored
        · rw [withRedis_redis, Store.write_self] at stored
          cases stored
          simpa [Op.keepsPlayers] using keeps
      case del key =>
        obtain rfl : key = .state matchId := by simpa [Op.writes] using touches
        rw [perform_del_ok performed, withRedis_redis, Store.delete_self] at stored
        cases stored
      all_goals cases touches
  · rw [redis_frame performed (Bool.eq_false_iff.mpr touches)] at stored
    exact inv.players cell stored

end Inv

/-- The handlers of a stranger and their invariant. -/
def strangerDiscipline (env : Env) (matchId : MatchId) (playerA playerB user : UserId) :
    Discipline (backend env)
      (fun c move => strangerSpared matchId playerA playerB user c move = true)
      (stranger matchId playerA playerB) where
  enter := Handler.stance
  finished _ := True
  Inv := StrangerInv matchId playerA playerB
  keeps c event sent := by
    refine (Task.keeps_run _ _ _).mpr ?_
    have passive : ∀ {task : Promise Unit}, task.Asks Op.passive →
        task.Keeps (stranger matchId playerA playerB) .passive fun _ _ => True := fun asks =>
      (stranger_passive asks .passive rfl).mono fun _ _ _ => trivial
    cases event
    case matchJoin => exact passive (matchJoin_passive _ _)
    case codeRun => exact passive (codeRun_passive _ _ _ _)
    case matchLeave => exact passive (asks_call nofun)
    case codeSubmit user' matchId' language code =>
      obtain ⟨_, rfl⟩ : user' = user ∧ matchId' = matchId := by
        simpa [strangerSpared, Handler.sentAbout] using sent
      exact codeSubmit_stranger user' language code
    case forfeitRequest user' matchId' reason =>
      obtain ⟨_, rfl⟩ : user' = user ∧ matchId' = matchId := by
        simpa [strangerSpared, Handler.sentAbout] using sent
      exact forfeitRequest_stranger user' reason
    all_goals cases sent
  start c phases event state _ inv _ arrived := by
    have same := (arrive_frame arrived).1
    have kept : StrangerInv matchId playerA playerB state phases :=
      ⟨by rw [same]; exact inv.players, inv.stances, by rw [same]; exact inv.seen⟩
    exact kept.append [event]
  step c phases index choice event op next phase reply state _ inv spared found inPhase harmless
      performed := by
    have spared : op.spared matchId playerA playerB event choice c.state = true := by
      simpa [strangerSpared, found] using spared
    have alone : op.forks = [] := (harmless_parts harmless).2.2.2.2.2
    refine ⟨spared_answers inv inPhase performed spared, ?_,
      (inv.step inPhase harmless performed).append op.forks⟩
    show ∀ child ∈ op.forks, _
    rw [alone]
    exact nofun
  outside c phases act state _ inv keeps acted := by
    cases act with
    | tick ms =>
      cases acted
      exact ⟨inv.players, inv.stances, inv.seen⟩
    | act choice op =>
      obtain ⟨⟨reply, state'⟩, performed, rfl⟩ := Option.map_eq_some_iff.mp acted
      exact inv.outside keeps performed

/-! ### The match is left alone -/

/-- **What a stranger must not change**: the Redis state and flag of the match, its row, the wallets of
its players, and the stranger's own escrow. -/
structure Untouched (matchId : MatchId) (playerA playerB user : UserId) (world world' : World) : Prop where
  state : world'.redis (.state matchId) = world.redis (.state matchId)
  resolved : world'.redis (.resolved matchId) = world.redis (.resolved matchId)
  row : world'.db.matches_ matchId = world.db.matches_ matchId
  walletA : world'.db.wallets playerA = world.db.wallets playerA
  walletB : world'.db.wallets playerB = world.db.wallets playerB
  escrow : (world'.db.wallets user).map (·.lockedBalance) = (world.db.wallets user).map (·.lockedBalance)

theorem untouched_of_harmless {env : Env} {choice : Choice} {op : Op} {reply : Except Err op.Reply}
    {world world' : World} {matchId : MatchId} (playerA playerB user : UserId)
    (harmless : op.harmless matchId = true)
    (performed : op.perform env choice world = some (reply, world')) :
    Untouched matchId playerA playerB user world world' := by
  obtain ⟨state, resolved, row, money, _, _⟩ := harmless_parts harmless
  have wallets : world'.db.wallets = world.db.wallets := by
    rcases money_frame performed with ⟨same, _⟩ | ⟨transaction, value, rfl, _⟩
    · exact same
    · cases money
  exact ⟨redis_frame performed state, redis_frame performed resolved, matches_frame performed row,
    by rw [wallets], by rw [wallets], by rw [wallets]⟩

/-- **A stranger leaves the match alone** along every run whose steps meet the condition: an event the
stranger sends, and every step of the handlers it starts, changes nothing of the match. -/
theorem stranger_leaves_match (env : Env) (matchId : MatchId) (playerA playerB user : UserId)
    {c₀ c c' : BackendConfig} {move : BackendMove} (idle : c₀.threads = [])
    (players : ∀ cell, c₀.state.redis (.state matchId) = some cell →
      cell.value.playerAId = playerA ∧ cell.value.playerBId = playerB)
    (run : Reaches (backend env) (fun c move => strangerSpared matchId playerA playerB user c move = true)
      c₀ c) (own : ∀ act, move ≠ .outside act) (moved : (backend env).move c move = some c') :
    Untouched matchId playerA playerB user c.state c'.state := by
  rcases Machine.move_cases moved with ⟨event, state, rfl, arrived, rfl⟩ |
    ⟨index, choice, event, op, next, reply, state, rfl, found, performed, rfl⟩ | ⟨act, _, rfl, _, _⟩
  · obtain ⟨redis, db⟩ := arrive_frame arrived
    exact ⟨by rw [redis], by rw [redis], by rw [db], by rw [db], by rw [db], by rw [db]⟩
  · have initial : StrangerInv matchId playerA playerB c₀.state [] := ⟨players, nofun, nofun⟩
    obtain ⟨_, harmless⟩ := (strangerDiscipline env matchId playerA playerB user).may_next
      ⟨[], tracks_nil idle, initial⟩ run found
    exact untouched_of_harmless playerA playerB user harmless performed
  · exact absurd rfl (own act)

/-! ### A stranger's forfeit -/

/-- Users 1 and 2 play match 7, users 3 and 4 play match 8. -/
def twoMatches : World where
  now := 0
  db := [Transaction.createMatch 7 1 2 0 10, .createMatch 8 3 4 0 10].foldl
    (fun db transaction => (transaction.run sampleEnv db).2)
    { wallets := fun user => if user ∈ [1, 2, 3, 4] then some ⟨100, 0, 0, 0, hundred_nonneg, none_locked⟩
        else none
      users := fun user => if user ∈ [1, 2, 3, 4] then some {} else none }
  redis := Store.write (Store.write (Store.write (Store.write (fun _ => none) (.startTs 7) 0 7200000)
    (.endTs 7) 1800000 7200000) (.state 7) (openState 7) 7200000)
    (.state 8) { openState 8 with playerAId := 3, playerBId := 4 } 7200000

/-- The stranger's forfeit of match 7, up to the row of the match. -/
def strangerForfeit : List BackendMove :=
  .start (.forfeitRequest 3 7 "quit") :: List.replicate 12 (.step 0 .proceed)

/-- Nothing but events of a user about a match. -/
def onlyAbout (user : UserId) (matchId : MatchId) : BackendMove → Bool
  | .start handler => handler.sentAbout user matchId
  | _ => true

/-- **A stranger forfeits a match of two others**: user 3 ends match 7 as its loser. The match is
completed, player 1 is paid, and the escrow that user 3 holds for match 8 is gone. -/
theorem stranger_forfeits : (twoMatches.db.wallets 1).map (·.balance) = some 90 ∧
    (twoMatches.db.wallets 3).map (·.lockedBalance) = some 10 ∧ ∃ c, Reaches (backend sampleEnv)
    (fun _ move => ∀ handler, move = .start handler → handler.sentAbout 3 7 = true) ⟨twoMatches, []⟩ c ∧
      (c.state.redis.read c.state.now (.state 7)).map (·.status) = some .completed ∧
      (c.state.redis.read c.state.now (.resolved 7)).isSome ∧
      (c.state.db.matches_ 7).map (·.winnerId) = some (some 1) ∧
      (c.state.db.wallets 1).map (·.balance) = some 108 ∧
      (c.state.db.wallets 3).map (·.lockedBalance) = some 0 := by
  obtain ⟨c, run, ended⟩ := Machine.exists_run (backend sampleEnv)
    (fun _ move => onlyAbout 3 7 move) ⟨twoMatches, []⟩ strangerForfeit
    (fun c => (c.state.redis.read c.state.now (.state 7)).map (·.status) = some .completed ∧
      (c.state.redis.read c.state.now (.resolved 7)).isSome ∧
      (c.state.db.matches_ 7).map (·.winnerId) = some (some 1) ∧
      (c.state.db.wallets 1).map (·.balance) = some 108 ∧
      (c.state.db.wallets 3).map (·.lockedBalance) = some 0) (by decide +kernel)
  refine ⟨by decide +kernel, by decide +kernel, c, run.mono ?_, by simpa using ended⟩
  rintro _ _ sent handler rfl
  exact sent

/-- A stranger's submission to match 7, up to the write of its score. -/
def strangerSubmission : List BackendMove :=
  .start (.codeSubmit 3 7 (.str ['c']) (.str ['x'])) :: List.replicate 13 (.step 0 .proceed) ++
    [.step 0 (.verdict ⟨.int 100, 1, 1, .accepted, some 0, none⟩)]

theorem stranger_leaves_match_submission : ∃ c c', Reaches (backend sampleEnv)
    (fun c move => strangerSpared 7 1 2 3 c move = true) ⟨twoMatches, []⟩ c ∧
      (backend sampleEnv).move c (.step 0 .proceed) = some c' ∧
      (c'.state.redis (.score 7 3)).isSome ∧ Untouched 7 1 2 3 c.state c'.state := by
  obtain ⟨c, run, next⟩ := Machine.exists_run (backend sampleEnv) (strangerSpared 7 1 2 3) ⟨twoMatches, []⟩
    strangerSubmission (fun c => ((backend sampleEnv).move c (.step 0 .proceed)).any
      fun c' => (c'.state.redis (.score 7 3)).isSome) (by decide +kernel)
  obtain ⟨c', moved, scored⟩ := (Option.any_eq_true _ _).mp next
  have players : ∀ cell, twoMatches.redis (.state 7) = some cell →
      cell.value.playerAId = 1 ∧ cell.value.playerBId = 2 := by
    rintro cell stored
    cases stored
    exact ⟨rfl, rfl⟩
  have own : ∀ act, (.step 0 .proceed : BackendMove) ≠ .outside act := by
    intro act same
    cases same
  exact ⟨c, c', run, moved, scored, stranger_leaves_match sampleEnv 7 1 2 3 rfl players run own moved⟩

end SkillArena
