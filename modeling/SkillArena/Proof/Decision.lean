/-
**Neither score is missed, and all decisions agree.**

`code:submit` writes its score and then reads both: of two players at least one finds both scores and calls
`determineAndResolveWinner`. The timer decides with a procedure of its own, but on the same scores and times
both select the same winner and loser, whatever the numbers are. The keys live for two hours: a score that is
gone before the other player reads is missed by both, and a time that is gone before a decision turns it
(`keys_expire_between`). While no score and no time is read after it has expired, one of the players calls, and
all decisions that begin after both scores are written agree (`one_calls_and_all_agree`).

* `ruledPair` — what both procedures select (`decideWinner_pair`, `decideAtExpiry_pair`).
* `Turn` — how far a handler has come: to its lock, its score, the two scores it looks at, the four reads of a
  decision, the winner and the loser.
* `deciding` — the contract: the reads in their order, and nothing is paid or recorded but what was decided.
* `Bench` — the invariant: who missed a score has written its own, so not both have missed one; what was read is
  what is stored.
-/

import SkillArena.Async.Relay
import SkillArena.Async.Watch
import SkillArena.Proof.Winner

namespace SkillArena

open Async Expiring

/-! ### The two procedures -/

/-- The winner and the loser by the rules. -/
def ruledPair (playerA playerB : UserId) (scoreA scoreB timeA timeB : JsNum) : UserId × UserId :=
  let winner := ruledWinner playerA playerB scoreA scoreB timeA timeB
  (winner, if winner = playerA then playerB else playerA)

theorem loser_of_decides {matchState : MatchState} {pair : UserId × UserId} (decides : matchState.Decides pair) :
    pair.2 = if pair.1 = matchState.playerAId then matchState.playerBId else matchState.playerAId := by
  rcases decides with rfl | rfl
  · rw [if_pos rfl]
  · split
    · rename_i same
      exact same.symm
    · rfl

theorem decideWinner_pair (matchState : MatchState) (scoreA scoreB timeA timeB : JsNum) :
    decideWinner matchState scoreA scoreB timeA timeB =
      ruledPair matchState.playerAId matchState.playerBId scoreA scoreB timeA timeB := by
  refine Prod.ext (decideWinner_eq _ _ _ _ _) ?_
  rw [loser_of_decides (decideWinner_decides _ _ _ _ _), decideWinner_eq]
  rfl

theorem decideAtExpiry_pair (matchState : MatchState) (scoreA scoreB timeA timeB : JsNum) :
    decideAtExpiry matchState scoreA scoreB timeA timeB =
      ruledPair matchState.playerAId matchState.playerBId scoreA scoreB timeA timeB := by
  refine Prod.ext (decideAtExpiry_eq _ _ _ _ _) ?_
  rw [loser_of_decides (decideAtExpiry_decides _ _ _ _ _), decideAtExpiry_eq]
  rfl

/-! ### The contract -/

/-- **How far a handler of the match has come.** A decision is of a user who called
`determineAndResolveWinner`, or of the timer. -/
inductive Turn
  | entering (user : UserId)
  | locked (user : UserId)
  | timed (user : UserId)
  | scored (user : UserId)
  | looked (user : UserId) (found : Bool)
  | missed (user : UserId)
  | called (user : UserId)
  | failed (user : UserId)
  | expired
  | reading (caller : Option UserId) (reads : List (Option JsNum))
  | decided (caller : Option UserId) (pair : UserId × UserId) (complete : Bool)
  deriving DecidableEq

namespace Turn

/-- What the fourth read completes. -/
def readings (playerA playerB : UserId) (caller : Option UserId) : List (Option JsNum) → Turn
  | [scoreA, scoreB, timeA, timeB] =>
    decided caller (ruledPair playerA playerB (numberOr 0 scoreA) (numberOr 0 scoreB) (numberOr 999999 timeA)
      (numberOr 999999 timeB)) (scoreA.isSome && scoreB.isSome && timeA.isSome && timeB.isSome)
  | reads => reading caller reads

/-- Where a verdict leads. -/
def judged (user : UserId) (result : EvalResult) : Turn :=
  if result.status = .judgeError then failed user else timed user

/-- Where the reads of both scores lead. -/
def meets (user : UserId) (both : Bool) : Turn := if both then called user else missed user

/-- Whose score is read next. -/
def looksAt (playerA playerB : UserId) : Turn → UserId → Prop
  | scored _, user | called _, user | expired, user => user = playerA
  | looked .., user | reading _ [_], user => user = playerB
  | decided .., _ => True
  | _, _ => False

/-- Whose time is read next. -/
def clocks (playerA playerB : UserId) : Turn → UserId → Prop
  | reading _ [_, _], user => user = playerA
  | reading _ [_, _, _], user => user = playerB
  | decided .., _ => True
  | _, _ => False

/-- What a handler of the match may ask. -/
def may (matchId : MatchId) (playerA playerB : UserId) (turn : Turn) : Op → Prop
  | .get (.score matchId' user) => matchId' = matchId ∧ turn.looksAt playerA playerB user
  | .get (.time matchId' user) => matchId' = matchId ∧ turn.clocks playerA playerB user
  | .set (.time matchId' user) .. => matchId' = matchId ∧ turn = locked user
  | .set (.score matchId' user) .. => matchId' = matchId ∧ turn = timed user
  | .set (.state _) matchState _ => matchState.playerAId = playerA ∧ matchState.playerBId = playerB
  | .set (.submitted ..) .. => False
  | .setNx (.submitted matchId' user) .. => matchId' = matchId ∧ turn = entering user
  | .setNx .. => False
  | .del key => key.ofMatch = none
  | .transact (.releaseEscrowToWinner winner loser ..) =>
    ∃ caller complete, turn = decided caller (winner, loser) complete
  | .query (.completeMatch _ winner ..) => ∃ caller loser complete, turn = decided caller (winner, loser) complete
  | .fork _ => False
  | _ => True

/-- What it may rely on. -/
def answers (matchId : MatchId) (playerA playerB : UserId) : (op : Op) → Except Err op.Reply → Prop
  | .get (.state matchId'), .ok (some matchState) =>
    matchId' = matchId → matchState.playerAId = playerA ∧ matchState.playerBId = playerB
  | _, _ => True

/-- Where an answer leads. -/
def goes (playerA playerB : UserId) : Turn → (op : Op) → op.Reply → Turn
  | entering user, .setNx (.submitted ..) _ _, true => locked user
  | locked user, .set (.time ..) _ _, _ => timed user
  | timed user, .query (.problemIdOf _), none => failed user
  | timed user, .evaluateCode .., result => judged user result
  | timed user, .set (.score ..) _ _, _ => scored user
  | scored user, .get (.score ..), stored => looked user stored.isSome
  | looked user found, .get (.score ..), stored => meets user (found && stored.isSome)
  | called user, .get (.score ..), stored => reading (some user) [stored]
  | expired, .get (.score ..), stored => reading none [stored]
  | reading caller reads, .get (.score ..), stored => readings playerA playerB caller (reads ++ [stored])
  | reading caller reads, .get (.time ..), stored => readings playerA playerB caller (reads ++ [stored])
  | turn, _, _ => turn

/-- Where a failure leads: before the two scores are read it fails the submission. -/
def fails : Turn → Turn
  | entering user | locked user | timed user | scored user | looked user _ => failed user
  | turn => turn

def after (playerA playerB : UserId) (turn : Turn) (op : Op) : Except Err op.Reply → Turn
  | .error _ => turn.fails
  | .ok value => turn.goes playerA playerB op value

/-- Whose turn it is; the timer's is nobody's. -/
def caller : Turn → Option UserId
  | entering user | locked user | timed user | scored user | looked user _ => some user
  | missed user | called user | failed user => some user
  | expired => none
  | reading caller _ | decided caller _ _ => caller

/-- A handler that ends here has been refused, has failed, or has come to its last step. -/
def ended : Turn → Bool
  | locked _ | timed _ | scored _ | looked .. => false
  | _ => true

end Turn

/-- **The contract of the decisions** of a match. -/
def deciding (matchId : MatchId) (playerA playerB : UserId) : Contract signature where
  Phase := Turn
  may := Turn.may matchId playerA playerB
  answers _ := Turn.answers matchId playerA playerB
  after := Turn.after playerA playerB

section Contract

variable {matchId : MatchId} {playerA playerB : UserId} {α : Type}

open Async.Task (stable_pure stable_bind stable_attempt)

theorem ended_fails (turn : Turn) : turn.fails.ended = true := by
  cases turn
  all_goals rfl

/-- Where a handler may end. -/
def Ends (_ : Except Err α) (turn : Turn) : Prop := turn.ended = true

theorem stay_then {turn : Turn} {op : Op} {rest : op.Reply → Promise α} (may : turn.may matchId playerA playerB op)
    (stays : ∀ value, turn.goes playerA playerB op value = turn)
    (next : ∀ value, Turn.answers matchId playerA playerB op (.ok value) →
      (rest value).Keeps (deciding matchId playerA playerB) turn Ends) :
    (op.call >>= rest).Keeps (deciding matchId playerA playerB) turn Ends := by
  refine keeps_call_bind may (fun value answer => ?_) fun _ _ => ended_fails turn
  have same : (deciding matchId playerA playerB).after turn op (.ok value) = turn := stays value
  rw [same]
  exact next value answer

theorem go_then {turn : Turn} {op : Op} {rest : op.Reply → Promise α} (may : turn.may matchId playerA playerB op)
    (next : ∀ value, (rest value).Keeps (deciding matchId playerA playerB) (turn.goes playerA playerB op value)
      Ends) :
    (op.call >>= rest).Keeps (deciding matchId playerA playerB) turn Ends :=
  keeps_call_bind may (fun value _ => next value) fun _ _ => ended_fails turn

theorem stay_last {turn : Turn} {op : Op} (may : turn.may matchId playerA playerB op)
    (stays : ∀ value, turn.goes playerA playerB op value = turn) (ended : turn.ended = true) :
    op.call.Keeps (deciding matchId playerA playerB) turn Ends := by
  refine ⟨may, fun reply _ => ?_⟩
  cases reply with
  | error err => exact ended_fails turn
  | ok value =>
    show (turn.goes playerA playerB op value).ended = true
    rw [stays]
    exact ended

theorem decided_stays {caller : Option UserId} {pair : UserId × UserId} {complete : Bool} {op : Op}
    (reply : Except Err op.Reply) :
    (Turn.decided caller pair complete).after playerA playerB op reply = .decided caller pair complete := by
  cases reply with
  | error err => rfl
  | ok value =>
    unfold Turn.after Turn.goes
    split
    all_goals first | contradiction | rfl

/-- **The resolution of a decision** pays and records what was decided. -/
theorem resolveMatch_deciding {caller : Option UserId} {complete : Bool} {winner loser : UserId}
    (resolveType : ResolveType) :
    (resolveMatch matchId winner loser resolveType).Stable (deciding matchId playerA playerB)
      (· = Turn.decided caller (winner, loser) complete) := by
  have call : ∀ {op : Op}, (Turn.decided caller (winner, loser) complete).may matchId playerA playerB op →
      op.call.Stable (deciding matchId playerA playerB) (· = Turn.decided caller (winner, loser) complete) := by
    rintro op may turn rfl
    exact ⟨may, fun reply _ => decided_stays reply⟩
  have state : ∀ {α : Type} {rest : Option MatchState → Promise α},
      (rest none).Stable (deciding matchId playerA playerB) (· = Turn.decided caller (winner, loser) complete) →
      (∀ matchState, matchState.playerAId = playerA → matchState.playerBId = playerB →
        (rest (some matchState)).Stable (deciding matchId playerA playerB)
          (· = Turn.decided caller (winner, loser) complete)) →
      (redisGet (.state matchId) >>= rest).Stable (deciding matchId playerA playerB)
        (· = Turn.decided caller (winner, loser) complete) := by
    rintro α rest absent present turn rfl
    refine keeps_call_bind trivial (fun stored answers => ?_) fun _ _ => rfl
    cases stored with
    | none => exact absent _ rfl
    | some matchState => exact present matchState (answers rfl).1 (answers rfl).2 _ rfl
  refine stable_attempt (stable_bind (call trivial) fun flag => ?_) fun _ => stable_attempt
    (state (stable_pure _) fun _ _ _ => stable_bind (call trivial) fun _ => call trivial) fun _ => stable_pure _
  cases flag with
  | some _ => exact stable_pure _
  | none =>
    refine stable_bind (call trivial) fun _ => state (stable_pure _) fun stored isA isB => ?_
    refine stable_bind (call ⟨isA, isB⟩) fun _ => stable_bind (call ⟨caller, complete, rfl⟩) fun prize => ?_
    refine recordResult_stable ?_ (fun _ _ _ _ => call ⟨caller, loser, complete, rfl⟩) _ _ _ _
    rintro turn op rfl kept
    refine ⟨?_, fun reply _ => decided_stays reply⟩
    unfold Op.bookkeeping at kept
    split at kept
    · exact ⟨of_decide_eq_true kept, trivial⟩
    · exact ⟨of_decide_eq_true kept, trivial⟩
    all_goals trivial

theorem players_then {turn : Turn} {rest : Option MatchState → Promise α}
    (stays : ∀ stored, turn.goes playerA playerB (.get (.state matchId)) stored = turn)
    (absent : (rest none).Keeps (deciding matchId playerA playerB) turn Ends)
    (present : ∀ matchState, matchState.playerAId = playerA → matchState.playerBId = playerB →
      (rest (some matchState)).Keeps (deciding matchId playerA playerB) turn Ends) :
    (redisGet (.state matchId) >>= rest).Keeps (deciding matchId playerA playerB) turn Ends := by
  refine stay_then trivial stays fun stored answers => ?_
  cases stored with
  | none => exact absent
  | some matchState => exact present matchState (answers rfl).1 (answers rfl).2

/-- **The four reads of a decision**, from where it begins, and the resolution of what they decide. -/
theorem reads_decide {turn : Turn} {caller : Option UserId} {rest : JsNum → JsNum → JsNum → JsNum → Promise Unit}
    (looks : turn.looksAt playerA playerB playerA)
    (begins : ∀ stored, turn.goes playerA playerB (.get (.score matchId playerA)) stored =
      .reading caller [stored])
    (next : ∀ scoreA scoreB timeA timeB complete, (rest scoreA scoreB timeA timeB).Keeps
      (deciding matchId playerA playerB)
      (.decided caller (ruledPair playerA playerB scoreA scoreB timeA timeB) complete) Ends) :
    (do
      let scoreA ← readScore matchId playerA 0
      let scoreB ← readScore matchId playerB 0
      let timeA ← readTime matchId playerA 999999
      let timeB ← readTime matchId playerB 999999
      rest scoreA scoreB timeA timeB : Promise Unit).Keeps (deciding matchId playerA playerB) turn Ends := by
  refine (Task.keeps_bind _ _ _ _).mpr (keeps_call_bind ⟨rfl, looks⟩ (fun scoreA _ => ?_)
    fun _ _ => ended_fails turn)
  have begun : (deciding matchId playerA playerB).after turn (.get (.score matchId playerA)) (.ok scoreA) =
    .reading caller [scoreA] := begins scoreA
  rw [begun]
  refine (Task.keeps_bind _ _ _ _).mpr (keeps_call_bind ⟨rfl, rfl⟩ (fun scoreB _ => ?_) fun _ _ => rfl)
  refine (Task.keeps_bind _ _ _ _).mpr (keeps_call_bind ⟨rfl, rfl⟩ (fun timeA _ => ?_) fun _ _ => rfl)
  refine (Task.keeps_bind _ _ _ _).mpr (keeps_call_bind ⟨rfl, rfl⟩ (fun timeB _ => ?_) fun _ _ => rfl)
  exact next (numberOr 0 scoreA) (numberOr 0 scoreB) (numberOr 999999 timeA) (numberOr 999999 timeB) _

theorem resolve_ends {caller : Option UserId} {pair : UserId × UserId} {complete : Bool}
    (resolveType : ResolveType) : (resolveMatch matchId pair.1 pair.2 resolveType).Keeps
      (deciding matchId playerA playerB) (.decided caller pair complete) Ends := by
  refine (resolveMatch_deciding resolveType _ rfl).mono ?_
  rintro result turn rfl
  rfl

theorem determineAndResolveWinner_deciding {matchState : MatchState} (isA : matchState.playerAId = playerA)
    (isB : matchState.playerBId = playerB) (user : UserId) : (determineAndResolveWinner matchId matchState).Keeps
      (deciding matchId playerA playerB) (.called user) Ends := by
  subst isA isB
  refine reads_decide rfl (fun _ => rfl) fun scoreA scoreB timeA timeB complete => ?_
  rw [decideWinner_pair]
  exact resolve_ends _

theorem attempt_ends {turn : Turn} {body : Promise α} {handler : Err → Promise α}
    (first : body.Keeps (deciding matchId playerA playerB) turn Ends)
    (second : ∀ err turn', turn'.ended = true → (handler err).Keeps (deciding matchId playerA playerB) turn' Ends) :
    (Task.attempt body handler).Keeps (deciding matchId playerA playerB) turn Ends := by
  refine (Task.keeps_attempt _ _ _ _).mpr (first.mono ?_)
  rintro (err | value) turn' ended
  · exact second err turn' ended
  · exact ended

/-- **The timer.** -/
theorem handleTimerExpiry_deciding (dueAt : ℕ) :
    (handleTimerExpiry matchId dueAt).Keeps (deciding matchId playerA playerB) .expired Ends := by
  refine stay_then trivial (fun _ => rfl) fun _ _ => attempt_ends (players_then (fun _ => rfl) rfl ?_)
    fun _ _ ended => ended
  rintro matchState rfl rfl
  dsimp only
  split
  · rfl
  · refine reads_decide rfl (fun _ => rfl) fun scoreA scoreB timeA timeB complete => ?_
    rw [decideAtExpiry_pair]
    exact stay_then trivial (fun _ => rfl) fun _ _ => resolve_ends _

theorem refundUnjudged_deciding {user : UserId} (message : String) {afterwards : Promise Unit}
    (stable : afterwards.Stable (deciding matchId playerA playerB) (· = Turn.failed user)) :
    (refundUnjudged matchId message afterwards).Keeps (deciding matchId playerA playerB) (.failed user) Ends :=
  players_then (fun _ => rfl) rfl fun _ _ _ => stay_then trivial (fun _ => rfl) fun _ _ =>
    stable.keeps_bind (fun _ => stay_last trivial (fun _ => rfl) rfl) fun _ => rfl

/-- **What follows an evaluation**: the score is written, then both are read. -/
theorem afterEvaluation_deciding {matchState : MatchState} (isA : matchState.playerAId = playerA)
    (isB : matchState.playerBId = playerB) (user : UserId) (evalResult : EvalResult) :
    (afterEvaluation user matchId matchState evalResult).Keeps (deciding matchId playerA playerB)
      (.judged user evalResult) Ends := by
  unfold afterEvaluation
  by_cases unjudged : evalResult.status = .judgeError
  · rw [if_pos unjudged, Turn.judged, if_pos unjudged]
    refine refundUnjudged_deciding _ ?_
    rintro turn rfl
    refine ⟨trivial, fun reply _ => ?_⟩
    cases reply with
    | error err => rfl
    | ok value => rfl
  · rw [if_neg unjudged, Turn.judged, if_neg unjudged]
    refine go_then ⟨rfl, rfl⟩ fun _ => stay_then trivial (fun _ => rfl) fun _ _ =>
      stay_then trivial (fun _ => rfl) fun _ _ => go_then ⟨rfl, isA⟩ fun scoreA =>
      go_then ⟨rfl, isB⟩ fun scoreB => ?_
    have here : ∀ both, (scoreA.isSome && scoreB.isSome) = both → Turn.goes playerA playerB
        (.looked user scoreA.isSome) (.get (.score matchId matchState.playerBId)) scoreB = .meets user both :=
      fun _ both => congrArg (Turn.meets user) both
    split
    · rename_i both
      exact (here true both) ▸ determineAndResolveWinner_deciding isA isB user
    · rename_i missing
      exact (here false (Bool.eq_false_iff.mpr missing)) ▸ stay_last trivial (fun _ => rfl) rfl

theorem submitLocked_deciding {matchState : MatchState} (isA : matchState.playerAId = playerA)
    (isB : matchState.playerBId = playerB) (user : UserId) (language code : JsVal) :
    (submitLocked user matchId language code matchState).Keeps (deciding matchId playerA playerB)
      (.locked user) Ends := by
  refine stay_then trivial (fun _ => rfl) fun _ _ => stay_then trivial (fun _ => rfl) fun _ _ =>
    stay_then trivial (fun _ => rfl) fun startTs _ => stay_then trivial (fun _ => rfl) fun now _ =>
    go_then ⟨rfl, rfl⟩ fun _ => stay_then trivial (fun _ => rfl) fun _ _ => go_then trivial fun problemId => ?_
  cases problemId with
  | none => exact refundUnjudged_deciding _ (stable_pure _)
  | some problemId =>
    exact stay_then trivial (fun _ => rfl) fun _ _ => go_then trivial fun evalResult =>
      afterEvaluation_deciding isA isB user evalResult

theorem timer_then {user : UserId} {rest : Option Timer → Promise α}
    (next : ∀ timer, (rest timer).Keeps (deciding matchId playerA playerB) (.entering user) Ends) :
    (getMatchTimer matchId >>= rest).Keeps (deciding matchId playerA playerB) (.entering user) Ends := by
  refine (Task.keeps_bind _ _ _ _).mpr (keeps_call_bind trivial (fun startTs _ => ?_) fun _ _ => rfl)
  refine keeps_call_bind trivial (fun endTs _ => ?_) fun _ _ => rfl
  cases startTs with
  | none => exact next none
  | some startTs =>
    cases endTs with
    | none => exact next none
    | some endTs => exact keeps_call_bind trivial (fun now _ => next _) fun _ _ => rfl

/-- **`code:submit`.** -/
theorem codeSubmit_deciding (user : UserId) (language code : JsVal) :
    (codeSubmit user matchId language code).Keeps (deciding matchId playerA playerB) (.entering user) Ends := by
  have sends : ∀ turn message, turn.ended = true → (emit (.sender user) (.matchError message)).Keeps
      (deciding matchId playerA playerB) turn Ends := by
    intro turn message ended
    refine stay_last trivial (fun _ => ?_) ended
    cases turn
    all_goals rfl
  refine attempt_ends (players_then (fun _ => rfl) (sends _ _ rfl) fun matchState isA isB => ?_)
    fun _ turn ended => sends turn _ ended
  dsimp only
  split
  · exact sends _ _ rfl
  · refine timer_then fun timer => ?_
    split
    · exact sends _ _ rfl
    · refine go_then ⟨rfl, rfl⟩ fun taken => ?_
      cases taken with
      | false => exact sends _ _ rfl
      | true => exact submitLocked_deciding isA isB user language code

end Contract

/-! ### What a step can do -/

/-- The keys of the submissions of a match: the locks, the times and the scores. -/
def Key.marks (matchId : MatchId) : Key → Bool
  | submitted matchId' _ | time matchId' _ | score matchId' _ => matchId' = matchId
  | _ => false

/-- **The strides of a handler**, with what it asked and was answered. -/
inductive Stride (matchId : MatchId) (playerA playerB : UserId) : Turn → (op : Op) → op.Reply → Turn → Prop
  | lock {user : UserId} {seconds : ℕ} :
      Stride matchId playerA playerB (.entering user) (.setNx (.submitted matchId user) () seconds) true
        (.locked user)
  | refuse {turn : Turn} {key : Key} {value : key.Val} {seconds : ℕ} :
      Stride matchId playerA playerB turn (.setNx key value seconds) false turn
  | time {user : UserId} {time : JsNum} {seconds : ℕ} :
      Stride matchId playerA playerB (.locked user) (.set (.time matchId user) time seconds) () (.timed user)
  | score {user : UserId} {score : JsNum} {seconds : ℕ} :
      Stride matchId playerA playerB (.timed user) (.set (.score matchId user) score seconds) () (.scored user)
  | look {user : UserId} {stored : Option JsNum} : Stride matchId playerA playerB (.scored user)
      (.get (.score matchId playerA)) stored (.looked user stored.isSome)
  | meet {user : UserId} {found : Bool} {stored : Option JsNum} :
      Stride matchId playerA playerB (.looked user found) (.get (.score matchId playerB)) stored
        (.meets user (found && stored.isSome))
  | first {turn : Turn} {stored : Option JsNum} (fresh : turn = .expired ∨ ∃ user, turn = .called user) :
      Stride matchId playerA playerB turn (.get (.score matchId playerA)) stored (.reading turn.caller [stored])
  | second {caller : Option UserId} {scoreA stored : Option JsNum} : Stride matchId playerA playerB
      (.reading caller [scoreA]) (.get (.score matchId playerB)) stored (.reading caller [scoreA, stored])
  | third {caller : Option UserId} {scoreA scoreB stored : Option JsNum} : Stride matchId playerA playerB
      (.reading caller [scoreA, scoreB]) (.get (.time matchId playerA)) stored
      (.reading caller [scoreA, scoreB, stored])
  | fourth {caller : Option UserId} {scoreA scoreB timeA stored : Option JsNum} : Stride matchId playerA playerB
      (.reading caller [scoreA, scoreB, timeA]) (.get (.time matchId playerB)) stored
      (.readings playerA playerB caller [scoreA, scoreB, timeA, stored])
  | fail {user : UserId} {op : Op} {value : op.Reply} (unmarked : ∀ key, key.marks matchId = true →
      op.writes key = false) : Stride matchId playerA playerB (.timed user) op value (.failed user)
  | rest {turn : Turn} {op : Op} {value : op.Reply} (unmarked : ∀ key, key.marks matchId = true →
      op.writes key = false) : Stride matchId playerA playerB turn op value turn

/-- The operation can lead somewhere. -/
def Op.moving : Op → Bool
  | setNx .. | set (.time ..) .. | set (.score ..) .. | set (.submitted ..) .. => true
  | get (.score ..) | get (.time ..) | query (.problemIdOf _) | evaluateCode .. => true
  | _ => false

section Strides

variable {matchId : MatchId} {playerA playerB : UserId} {turn : Turn} {op : Op}

theorem goes_of_still (still : op.moving = false) (value : op.Reply) :
    turn.goes playerA playerB op value = turn := by
  unfold Turn.goes
  split
  all_goals first | rfl | cases still

theorem unmarked_of_still (may : turn.may matchId playerA playerB op) (still : op.moving = false) (key : Key)
    (marks : key.marks matchId = true) : op.writes key = false := by
  refine Bool.eq_false_iff.mpr fun writes => ?_
  unfold Op.writes at writes
  split at writes
  · rename_i written _ _
    obtain rfl : written = key := of_decide_eq_true writes
    cases written
    case submitted => cases still
    case time => cases still
    case score => cases still
    all_goals cases marks
  · cases still
  · rename_i deleted
    obtain rfl : deleted = key := of_decide_eq_true writes
    have free : deleted.ofMatch = none := may
    cases deleted
    case submitted => cases free
    case time => cases free
    case score => cases free
    all_goals cases marks
  · cases writes

/-- **Every allowed step is a stride.** -/
theorem stride_of_may (may : turn.may matchId playerA playerB op) (value : op.Reply) :
    Stride matchId playerA playerB turn op value (turn.goes playerA playerB op value) := by
  cases moving : op.moving with
  | false =>
    rw [goes_of_still moving]
    exact .rest (unmarked_of_still may moving)
  | true =>
    unfold Op.moving at moving
    split at moving
    · -- a lock
      rename_i key entry seconds
      cases value with
      | false =>
        have same : turn.goes playerA playerB (.setNx key entry seconds) false = turn := by
          unfold Turn.goes
          split
          all_goals first | rfl | contradiction
        rw [same]
        exact .refuse
      | true =>
        cases key
        case submitted played user =>
          obtain ⟨rfl, rfl⟩ := may
          exact .lock
        all_goals exact absurd may id
    · obtain ⟨rfl, rfl⟩ := may
      exact .time
    · obtain ⟨rfl, rfl⟩ := may
      exact .score
    · exact absurd may id
    · -- a score
      rename_i played user
      obtain ⟨rfl, looks⟩ := may
      cases turn with
      | scored _ =>
        obtain rfl : user = playerA := looks
        exact .look
      | looked _ _ =>
        obtain rfl : user = playerB := looks
        exact .meet
      | called caller =>
        obtain rfl : user = playerA := looks
        exact .first (.inr ⟨caller, rfl⟩)
      | expired =>
        obtain rfl : user = playerA := looks
        exact .first (.inl rfl)
      | reading caller reads =>
        match reads, looks with
        | [scoreA], looks =>
          obtain rfl : user = playerB := looks
          exact .second
      | decided _ _ _ => exact .rest fun _ _ => rfl
      | _ => exact absurd looks id
    · -- a time
      rename_i played user
      obtain ⟨rfl, clocks⟩ := may
      cases turn with
      | reading caller reads =>
        match reads, clocks with
        | [scoreA, scoreB], clocks =>
          obtain rfl : user = playerA := clocks
          exact .third
        | [scoreA, scoreB, timeA], clocks =>
          obtain rfl : user = playerB := clocks
          exact .fourth
      | decided _ _ _ => exact .rest fun _ _ => rfl
      | _ => exact absurd clocks id
    · -- the problem of the match
      cases turn with
      | timed user =>
        cases value with
        | none => exact .fail fun _ _ => rfl
        | some problemId => exact .rest fun _ _ => rfl
      | _ => exact .rest fun _ _ => rfl
    · -- a verdict
      cases turn with
      | timed user =>
        show Stride _ _ _ _ _ _ (Turn.judged user value)
        unfold Turn.judged
        split
        · exact .fail fun _ _ => rfl
        · exact .rest fun _ _ => rfl
      | _ => exact .rest fun _ _ => rfl
    · cases moving

end Strides

/-! ### The invariant -/

namespace Turn

/-- What a handler alone may still write. -/
def pen : Turn → Option Pen
  | locked user => some (.timing user)
  | timed user => some (.scoring user)
  | _ => none

/-- Whose score was written before this turn. -/
def wrote : Turn → Option UserId
  | scored user | looked user _ | missed user | called user => some user
  | _ => none

/-- Who has missed a score. -/
def misses : Turn → Option UserId
  | looked user false | missed user => some user
  | _ => none

end Turn

/-- What was read is what is stored. -/
def Tallies (read stored : Option JsNum) : Prop := ∀ value, read = some value → stored = some value

/-- **What a handler has read is what is stored**, and what it decided on four values is by the rules of them. -/
def Turn.agrees (matchId : MatchId) (playerA playerB : UserId) (world : World) : Turn → Prop
  | reading _ [scoreA] => Tallies scoreA (world.storedScore matchId playerA)
  | reading _ [scoreA, scoreB] =>
    Tallies scoreA (world.storedScore matchId playerA) ∧ Tallies scoreB (world.storedScore matchId playerB)
  | reading _ [scoreA, scoreB, timeA] =>
    Tallies scoreA (world.storedScore matchId playerA) ∧ Tallies scoreB (world.storedScore matchId playerB) ∧
      Tallies timeA (world.storedTime matchId playerA)
  | decided _ pair true => ∃ scoreA scoreB timeA timeB, world.storedScore matchId playerA = some scoreA ∧
      world.storedScore matchId playerB = some scoreB ∧ world.storedTime matchId playerA = some timeA ∧
      world.storedTime matchId playerB = some timeB ∧ pair = ruledPair playerA playerB scoreA scoreB timeA timeB
  | _ => True

/-- What gives the right to write a time or a score. -/
def Pen.granted (matchId : MatchId) (world : World) : Pen → ℕ
  | idle => 0
  | timing user => world.written (.submitted matchId user)
  | scoring user => world.written (.time matchId user)

/-- What was written by that right. -/
def Pen.used (matchId : MatchId) (world : World) : Pen → ℕ
  | idle => 0
  | timing user => world.written (.time matchId user)
  | scoring user => world.written (.score matchId user)

/-- **The invariant of the decisions of a match.** -/
structure Bench (matchId : MatchId) (playerA playerB : UserId) (world : World)
    (phases : List (Handler × Turn)) : Prop where
  players : ∀ cell, world.redis (.state matchId) = some cell →
    cell.value.playerAId = playerA ∧ cell.value.playerBId = playerB
  senders : ∀ entry ∈ phases, entry.2.caller = entry.1.sender
  pens : Relay Turn.pen (Pen.granted matchId world) (Pen.used matchId world) phases
  wrote : ∀ entry ∈ phases, ∀ user, entry.2.wrote = some user → world.written (.score matchId user) = 1
  apart : (∀ entry ∈ phases, entry.2.misses ≠ some playerA) ∨ ∀ entry ∈ phases, entry.2.misses ≠ some playerB
  agrees : ∀ entry ∈ phases, entry.2.agrees matchId playerA playerB world

section Inv

variable {env : Env} {choice : Choice} {matchId : MatchId} {playerA playerB : UserId} {world world' : World}
  {phases : List (Handler × Turn)} {index : ℕ} {event : Handler} {turn turn' : Turn} {op : Op}

theorem wrote_of_misses {user : UserId} (misses : turn.misses = some user) : turn.wrote = some user := by
  unfold Turn.misses at misses
  split at misses
  · exact misses
  · exact misses
  · cases misses

theorem tallies_score {user : UserId} {stored : Option JsNum}
    (read : stored = world.redis.read world.now (.score matchId user)) :
    Tallies stored (world.storedScore matchId user) := by
  rintro value rfl
  obtain ⟨cell, here, _, same⟩ := Store.read_eq_some.mp read.symm
  unfold World.storedScore
  rw [here]
  exact congrArg some same

theorem tallies_time {user : UserId} {stored : Option JsNum}
    (read : stored = world.redis.read world.now (.time matchId user)) :
    Tallies stored (world.storedTime matchId user) := by
  rintro value rfl
  obtain ⟨cell, here, _, same⟩ := Store.read_eq_some.mp read.symm
  unfold World.storedTime
  rw [here]
  exact congrArg some same

namespace Preserves

theorem written (preserves : Preserves matchId world world') {user : UserId}
    (here : world.written (.score matchId user) = 1) : world'.written (.score matchId user) = 1 := by
  obtain ⟨cell, stored⟩ := written_eq_one_iff.mp here
  have kept := preserves.scores user cell.value (by unfold World.storedScore; rw [stored]; rfl)
  obtain ⟨cell', stored', _⟩ := Option.map_eq_some_iff.mp kept
  exact written_of_some stored'

theorem tallies {playerA : UserId} {read : Option JsNum} (preserves : Preserves matchId world world')
    (tallies : Tallies read (world.storedScore matchId playerA)) :
    Tallies read (world'.storedScore matchId playerA) :=
  fun value here => preserves.scores _ _ (tallies value here)

theorem tallies_time {playerA : UserId} {read : Option JsNum} (preserves : Preserves matchId world world')
    (tallies : Tallies read (world.storedTime matchId playerA)) :
    Tallies read (world'.storedTime matchId playerA) :=
  fun value here => preserves.times _ _ (tallies value here)

theorem agrees (preserves : Preserves matchId world world') (agrees : turn.agrees matchId playerA playerB world) :
    turn.agrees matchId playerA playerB world' := by
  unfold Turn.agrees at agrees ⊢
  split at agrees
  · exact preserves.tallies agrees
  · exact ⟨preserves.tallies agrees.1, preserves.tallies agrees.2⟩
  · exact ⟨preserves.tallies agrees.1, preserves.tallies agrees.2.1, preserves.tallies_time agrees.2.2⟩
  · obtain ⟨scoreA, scoreB, timeA, timeB, sawA, sawB, clockA, clockB, best⟩ := agrees
    exact ⟨scoreA, scoreB, timeA, timeB, preserves.scores _ _ sawA, preserves.scores _ _ sawB,
      preserves.times _ _ clockA, preserves.times _ _ clockB, best⟩
  · trivial

end Preserves

theorem preserves_of_marks (same : ∀ key, key.marks matchId = true → world'.redis key = world.redis key) :
    Preserves matchId world world' := by
  refine ⟨fun user score stored => ?_, fun user time stored => ?_⟩
  · unfold World.storedScore at stored ⊢
    rwa [same (.score matchId user) (decide_eq_true rfl)]
  · unfold World.storedTime at stored ⊢
    rwa [same (.time matchId user) (decide_eq_true rfl)]

namespace Bench

/-- **One handler goes on.** It misses a score only where nobody has missed its own. -/
theorem advance (inv : Bench matchId playerA playerB world phases) (distinct : playerA ≠ playerB)
    (found : phases[index]? = some (event, turn)) (preserves : Preserves matchId world world')
    (players : ∀ cell, world'.redis (.state matchId) = some cell →
      cell.value.playerAId = playerA ∧ cell.value.playerBId = playerB)
    (caller : turn'.caller = turn.caller)
    (balance : ∀ pen, Pen.used matchId world' pen + Relay.share Turn.pen turn' pen + Pen.granted matchId world pen ≤
      Pen.granted matchId world' pen + Pen.used matchId world pen + Relay.share Turn.pen turn pen)
    (wrote : ∀ user, turn'.wrote = some user → world'.written (.score matchId user) = 1)
    (misses : ∀ user, turn'.misses = some user → turn.misses = some user ∨
      (user = playerA → ∀ entry ∈ phases, entry.2.misses ≠ some playerB) ∧
      (user = playerB → ∀ entry ∈ phases, entry.2.misses ≠ some playerA))
    (agrees : turn'.agrees matchId playerA playerB world') :
    Bench matchId playerA playerB world' (phases.set index (event, turn')) := by
  have member := List.mem_of_getElem? found
  refine ⟨players, fun entry inside => ?_, inv.pens.set found balance, fun entry inside user => ?_, ?_,
    fun entry inside => ?_⟩
  · rcases List.mem_or_eq_of_mem_set inside with old | rfl
    · exact inv.senders entry old
    · exact caller.trans (inv.senders _ member)
  · rcases List.mem_or_eq_of_mem_set inside with old | rfl
    · exact fun here => preserves.written (inv.wrote entry old user here)
    · exact wrote user
  · have split : ∀ player, turn'.misses ≠ some player → (∀ entry ∈ phases, entry.2.misses ≠ some player) →
        ∀ entry ∈ phases.set index (event, turn'), entry.2.misses ≠ some player := by
      intro player new old entry inside
      rcases List.mem_or_eq_of_mem_set inside with before | rfl
      · exact old entry before
      · exact new
    by_cases first : turn'.misses = some playerA
    · refine .inr (split playerB ?_ ?_)
      · rw [first]
        exact fun same => distinct (Option.some.inj same)
      · rcases misses playerA first with before | ⟨alone, _⟩
        · exact inv.apart.resolve_left fun none => none _ member before
        · exact alone rfl
    · by_cases second : turn'.misses = some playerB
      · refine .inl (split playerA first ?_)
        rcases misses playerB second with before | ⟨_, alone⟩
        · exact inv.apart.resolve_right fun none => none _ member before
        · exact alone rfl
      · exact inv.apart.imp (split playerA first) (split playerB second)
  · rcases List.mem_or_eq_of_mem_set inside with old | rfl
    · exact preserves.agrees (inv.agrees entry old)
    · exact agrees

/-- Where no lock, time or score of the match is written, the invariant stays. -/
theorem spared (inv : Bench matchId playerA playerB world phases)
    (same : ∀ key, key.marks matchId = true → world'.redis key = world.redis key)
    (players : ∀ cell, world'.redis (.state matchId) = some cell →
      cell.value.playerAId = playerA ∧ cell.value.playerBId = playerB) :
    Bench matchId playerA playerB world' phases := by
  have preserves := preserves_of_marks same
  have own : ∀ user, world'.written (.submitted matchId user) = world.written (.submitted matchId user) ∧
      world'.written (.time matchId user) = world.written (.time matchId user) ∧
      world'.written (.score matchId user) = world.written (.score matchId user) := fun user =>
    ⟨written_of_eq (same _ (decide_eq_true rfl)), written_of_eq (same _ (decide_eq_true rfl)),
      written_of_eq (same _ (decide_eq_true rfl))⟩
  refine ⟨players, inv.senders, fun pen => ?_, fun entry inside user here => ?_, inv.apart,
    fun entry inside => preserves.agrees (inv.agrees entry inside)⟩
  · have before := inv.pens pen
    cases pen with
    | idle => exact before
    | timing user =>
      show _ + world'.written (.time matchId user) ≤ world'.written (.submitted matchId user)
      rw [(own user).1, (own user).2.1]
      exact before
    | scoring user =>
      show _ + world'.written (.score matchId user) ≤ world'.written (.time matchId user)
      rw [(own user).2.1, (own user).2.2]
      exact before
  · exact preserves.written (inv.wrote entry inside user here)

theorem append (inv : Bench matchId playerA playerB world phases) (caller : turn.caller = event.sender)
    (fresh : turn = .expired ∨ ∃ user, turn = .entering user) :
    Bench matchId playerA playerB world (phases ++ [(event, turn)]) := by
  have idle : turn.pen = none ∧ turn.wrote = none ∧ turn.misses = none ∧
      turn.agrees matchId playerA playerB world := by
    rcases fresh with rfl | ⟨user, rfl⟩
    · exact ⟨rfl, rfl, rfl, trivial⟩
    · exact ⟨rfl, rfl, rfl, trivial⟩
  obtain ⟨unarmed, unwritten, unmissed, agrees⟩ := idle
  have all : ∀ {P : Handler × Turn → Prop}, (∀ entry ∈ phases, P entry) → P (event, turn) →
      ∀ entry ∈ phases ++ [(event, turn)], P entry := by
    intro P old new entry inside
    rcases List.mem_append.mp inside with before | here
    · exact old entry before
    · cases List.mem_singleton.mp here
      exact new
  refine ⟨inv.players, all inv.senders caller, inv.pens.append ?_, all inv.wrote ?_, ?_, all inv.agrees agrees⟩
  · intro entry inside
    cases List.mem_singleton.mp inside
    exact unarmed
  · intro user here
    rw [unwritten] at here
    cases here
  · refine inv.apart.imp (fun none => all none ?_) fun none => all none ?_
    · rw [unmissed]
      exact nofun
    · rw [unmissed]
      exact nofun

theorem unused (inv : Bench matchId playerA playerB world phases) (found : phases[index]? = some (event, turn))
    {pen : Pen} (here : turn.pen = some pen) : Pen.used matchId world pen = 0 := by
  refine inv.pens.pending found here ?_
  cases pen with
  | idle => exact Nat.zero_le 1
  | timing user => exact written_le _ _
  | scoring user => exact written_le _ _

/-- A write of a mark that was not there, by who has the right to it. -/
theorem write_step {key : Key} {value : key.Val} {expiresAt : ℕ} (inv : Bench matchId playerA playerB world phases)
    (distinct : playerA ≠ playerB) (found : phases[index]? = some (event, turn)) (absent : world.redis key = none)
    (other : Key.state matchId ≠ key) (caller : turn'.caller = turn.caller)
    (balance : ∀ pen, Pen.used matchId (world.withRedis (world.redis.write key value expiresAt)) pen +
        Relay.share Turn.pen turn' pen + Pen.granted matchId world pen ≤
      Pen.granted matchId (world.withRedis (world.redis.write key value expiresAt)) pen +
        Pen.used matchId world pen + Relay.share Turn.pen turn pen)
    (wrote : ∀ user, turn'.wrote = some user →
      (world.withRedis (world.redis.write key value expiresAt)).written (.score matchId user) = 1)
    (unmissed : turn'.misses = none)
    (agrees : turn'.agrees matchId playerA playerB (world.withRedis (world.redis.write key value expiresAt))) :
    Bench matchId playerA playerB (world.withRedis (world.redis.write key value expiresAt))
        (phases.set index (event, turn')) ∧
      Preserves matchId world (world.withRedis (world.redis.write key value expiresAt)) := by
  have kept : ∀ other : Key, ∀ cell, world.redis other = some cell →
      world.redis.write key value expiresAt other = some cell := by
    intro other cell stored
    have different : other ≠ key := by
      rintro rfl
      rw [absent] at stored
      cases stored
    rwa [Store.write_of_ne different]
  have preserves : Preserves matchId world (world.withRedis (world.redis.write key value expiresAt)) := by
    refine ⟨fun user score stored => ?_, fun user time stored => ?_⟩
    · obtain ⟨cell, here, rfl⟩ := Option.map_eq_some_iff.mp stored
      exact congrArg (Option.map (·.value)) (kept (.score matchId user) cell here)
    · obtain ⟨cell, here, rfl⟩ := Option.map_eq_some_iff.mp stored
      exact congrArg (Option.map (·.value)) (kept (.time matchId user) cell here)
  refine ⟨inv.advance distinct found preserves (fun cell stored => ?_) caller balance wrote (fun user here => ?_)
    agrees, preserves⟩
  · rw [withRedis_redis, Store.write_of_ne other] at stored
    exact inv.players cell stored
  · rw [unmissed] at here
    cases here

/-- **The lock is taken**: it was not taken before. -/
theorem lock_step {user : UserId} {expiresAt : ℕ} (inv : Bench matchId playerA playerB world phases)
    (distinct : playerA ≠ playerB) (found : phases[index]? = some (event, .entering user))
    (absent : world.redis (.submitted matchId user) = none) :
    Bench matchId playerA playerB (world.withRedis (world.redis.write (.submitted matchId user) () expiresAt))
        (phases.set index (event, .locked user)) ∧
      Preserves matchId world (world.withRedis (world.redis.write (.submitted matchId user) () expiresAt)) := by
  have unwritten := written_of_none absent
  refine inv.write_step distinct found absent nofun rfl (fun pen => ?_) nofun rfl trivial
  cases pen with
  | idle => rfl
  | timing other =>
    by_cases same : other = user
    · subst same
      simp only [Pen.used, Pen.granted, Relay.share, Turn.pen, written_write, unwritten, reduceCtorEq, if_true,
        if_false]
      omega
    · simp only [Pen.used, Pen.granted, Relay.share, Turn.pen, written_write, reduceCtorEq, if_false,
        Option.some.injEq, Pen.timing.injEq, Key.submitted.injEq, same, Ne.symm same, and_false]
      omega
  | scoring other =>
    simp only [Pen.used, Pen.granted, Relay.share, Turn.pen, written_write, reduceCtorEq, if_false,
      Option.some.injEq]
    omega

/-- **The time is written** by who took the lock. -/
theorem time_step {user : UserId} {time : JsNum} {expiresAt : ℕ} (inv : Bench matchId playerA playerB world phases)
    (distinct : playerA ≠ playerB) (found : phases[index]? = some (event, .locked user)) :
    Bench matchId playerA playerB (world.withRedis (world.redis.write (.time matchId user) time expiresAt))
        (phases.set index (event, .timed user)) ∧
      Preserves matchId world (world.withRedis (world.redis.write (.time matchId user) time expiresAt)) := by
  have unwritten : world.written (.time matchId user) = 0 := inv.unused found rfl
  refine inv.write_step distinct found (none_of_written unwritten) nofun rfl (fun pen => ?_) nofun rfl trivial
  cases pen with
  | idle => rfl
  | timing other =>
    by_cases same : other = user
    · subst same
      simp only [Pen.used, Pen.granted, Relay.share, Turn.pen, written_write, unwritten, reduceCtorEq, if_true,
        if_false, Option.some.injEq]
      omega
    · simp only [Pen.used, Pen.granted, Relay.share, Turn.pen, written_write, reduceCtorEq, if_false,
        Option.some.injEq, Pen.timing.injEq, Key.time.injEq, same, Ne.symm same, and_false]
      omega
  | scoring other =>
    by_cases same : other = user
    · subst same
      simp only [Pen.used, Pen.granted, Relay.share, Turn.pen, written_write, unwritten, reduceCtorEq, if_true,
        if_false, Option.some.injEq]
      omega
    · simp only [Pen.used, Pen.granted, Relay.share, Turn.pen, written_write, reduceCtorEq, if_false,
        Option.some.injEq, Pen.scoring.injEq, Key.time.injEq, same, Ne.symm same, and_false]
      omega

/-- **The score is written** by who wrote the time. -/
theorem score_step {user : UserId} {score : JsNum} {expiresAt : ℕ}
    (inv : Bench matchId playerA playerB world phases) (distinct : playerA ≠ playerB)
    (found : phases[index]? = some (event, .timed user)) :
    Bench matchId playerA playerB (world.withRedis (world.redis.write (.score matchId user) score expiresAt))
        (phases.set index (event, .scored user)) ∧
      Preserves matchId world (world.withRedis (world.redis.write (.score matchId user) score expiresAt)) := by
  have unwritten : world.written (.score matchId user) = 0 := inv.unused found rfl
  refine inv.write_step distinct found (none_of_written unwritten) nofun rfl (fun pen => ?_) (fun writer here => ?_)
    rfl trivial
  · cases pen with
    | idle => rfl
    | timing other =>
      simp only [Pen.used, Pen.granted, Relay.share, Turn.pen, written_write, reduceCtorEq, if_false,
        Option.some.injEq]
      omega
    | scoring other =>
      by_cases same : other = user
      · subst same
        simp only [Pen.used, Pen.granted, Relay.share, Turn.pen, written_write, unwritten, reduceCtorEq, if_true,
          if_false]
        omega
      · simp only [Pen.used, Pen.granted, Relay.share, Turn.pen, written_write, reduceCtorEq, if_false,
          Option.some.injEq, Pen.scoring.injEq, Key.score.injEq, same, Ne.symm same, and_false]
        omega
  · cases here
    rw [written_write, if_pos rfl]

theorem names (inv : Bench matchId playerA playerB world phases) (may : turn.may matchId playerA playerB op)
    {value : op.Reply} (performed : op.perform env choice world = some (.ok value, world')) (cell : Cell MatchState)
    (stored : world'.redis (.state matchId) = some cell) :
    cell.value.playerAId = playerA ∧ cell.value.playerBId = playerB := by
  by_cases writes : op.writes (.state matchId) = true
  · unfold Op.writes at writes
    split at writes
    · rename_i key matchState seconds
      obtain rfl : key = .state matchId := of_decide_eq_true writes
      rw [perform_set_ok performed, withRedis_redis, Store.write_self] at stored
      cases stored
      exact may
    · rename_i key matchState seconds
      obtain rfl : key = .state matchId := of_decide_eq_true writes
      exact absurd may id
    · rename_i key
      obtain rfl : key = .state matchId := of_decide_eq_true writes
      exact absurd may nofun
    · cases writes
  · rw [redis_frame performed (Bool.eq_false_iff.mpr writes)] at stored
    exact inv.players cell stored

theorem turned (inv : Bench matchId playerA playerB world phases) (distinct : playerA ≠ playerB)
    (found : phases[index]? = some (event, turn)) (caller : turn'.caller = turn.caller)
    (unarmed : turn'.pen = none ∨ turn'.pen = turn.pen)
    (wrote : ∀ user, turn'.wrote = some user → turn.wrote = some user)
    (misses : ∀ user, turn'.misses = some user → turn.misses = some user ∨
      (user = playerA → ∀ entry ∈ phases, entry.2.misses ≠ some playerB) ∧
      (user = playerB → ∀ entry ∈ phases, entry.2.misses ≠ some playerA))
    (agrees : turn'.agrees matchId playerA playerB world) :
    Bench matchId playerA playerB world (phases.set index (event, turn')) := by
  refine inv.advance distinct found (preserves_of_marks fun _ _ => rfl) inv.players caller (fun pen => ?_)
    (fun user here => inv.wrote _ (List.mem_of_getElem? found) user (wrote user here)) misses agrees
  rcases unarmed with none | same
  · rw [Relay.share_of_none none]
    omega
  · rw [Relay.share_congr same]
    omega

theorem unmissed (inv : Bench matchId playerA playerB world phases) {user : UserId}
    (unwritten : world.redis (.score matchId user) = none) : ∀ entry ∈ phases, entry.2.misses ≠ some user := by
  intro entry inside misses
  have written := inv.wrote entry inside user (wrote_of_misses misses)
  rw [written_of_none unwritten] at written
  cases written

theorem none_of_unread {key : Key} (current : world.current key = true)
    (unread : world.redis.read world.now key = none) : world.redis key = none := by
  simpa [World.current, unread] using current

theorem fails_kept (agrees : turn.agrees matchId playerA playerB world) :
    turn.fails.caller = turn.caller ∧ turn.fails.pen = none ∧
      (∀ user, turn.fails.wrote = some user → turn.wrote = some user) ∧
      (∀ user, turn.fails.misses = some user → turn.misses = some user) ∧
      turn.fails.agrees matchId playerA playerB world := by
  cases turn
  case missed => exact ⟨rfl, rfl, fun _ => id, fun _ => id, trivial⟩
  case called => exact ⟨rfl, rfl, fun _ => id, nofun, trivial⟩
  all_goals exact ⟨rfl, rfl, nofun, nofun, agrees⟩

/-- The fourth read decides by the rules of what is stored, if all four were found. -/
theorem agrees_decided {caller : Option UserId} {scoreA scoreB timeA timeB : Option JsNum}
    (agrees : (Turn.reading caller [scoreA, scoreB, timeA]).agrees matchId playerA playerB world)
    (tallies : Tallies timeB (world.storedTime matchId playerB)) :
    (Turn.readings playerA playerB caller [scoreA, scoreB, timeA, timeB]).agrees matchId playerA playerB world := by
  show (Turn.decided caller _ (scoreA.isSome && scoreB.isSome && timeA.isSome && timeB.isSome)).agrees matchId
    playerA playerB world
  cases complete : scoreA.isSome && scoreB.isSome && timeA.isSome && timeB.isSome with
  | false => trivial
  | true =>
    simp only [Bool.and_eq_true, Option.isSome_iff_exists] at complete
    obtain ⟨⟨⟨⟨scoreA, rfl⟩, scoreB, rfl⟩, timeA, rfl⟩, timeB, rfl⟩ := complete
    exact ⟨scoreA, scoreB, timeA, timeB, agrees.1 _ rfl, agrees.2.1 _ rfl, agrees.2.2 _ rfl, tallies _ rfl, rfl⟩

theorem not_unwritten (inv : Bench matchId playerA playerB world phases) (member : (event, turn) ∈ phases)
    {user : UserId} (wrote : turn.wrote = some user) : world.redis (.score matchId user) ≠ none := by
  intro unwritten
  have own := inv.wrote _ member user wrote
  rw [written_of_none unwritten] at own
  cases own

/-- **One step keeps the invariant**, if no score, time or lock is looked at after it has expired. -/
theorem step {reply : Except Err op.Reply} (inv : Bench matchId playerA playerB world phases)
    (distinct : playerA ≠ playerB) (found : phases[index]? = some (event, turn))
    (may : turn.may matchId playerA playerB op) (performed : op.perform env choice world = some (reply, world'))
    (current : ∀ key, (∃ value seconds, op = .setNx key value seconds) ∨ op = .get key ∧ key.graded = true →
      world.current key = true) :
    Bench matchId playerA playerB world' (phases.set index (event, turn.after playerA playerB op reply)) ∧
      Preserves matchId world world' := by
  have member := List.mem_of_getElem? found
  have agrees := inv.agrees _ member
  cases reply with
  | error err =>
    rw [perform_error performed]
    obtain ⟨caller, unarmed, wrote, misses, kept⟩ := fails_kept agrees
    exact ⟨inv.turned distinct found caller (.inl unarmed) wrote (fun user here => .inl (misses user here)) kept,
      preserves_of_marks fun _ _ => rfl⟩
  | ok value =>
    have names := inv.names may performed
    have stride := stride_of_may may value
    show Bench matchId playerA playerB world' (phases.set index (event, turn.goes playerA playerB op value)) ∧ _
    generalize turn.goes playerA playerB op value = turn' at stride ⊢
    cases stride with
    | lock =>
      rcases perform_setNx_ok performed with ⟨taken, _⟩ | ⟨_, unread, rfl⟩
      · cases taken
      · refine inv.lock_step distinct found ?_
        have here := current _ (.inl ⟨_, _, rfl⟩)
        simpa [World.current, unread] using here
    | refuse =>
      rcases perform_setNx_ok performed with ⟨_, _, rfl⟩ | ⟨taken, _⟩
      · exact ⟨inv.turned distinct found rfl (.inr rfl) (fun _ => id) (fun _ => .inl) agrees,
          preserves_of_marks fun _ _ => rfl⟩
      · cases taken
    | time =>
      rw [perform_set_ok performed]
      exact inv.time_step distinct found
    | score =>
      rw [perform_set_ok performed]
      exact inv.score_step distinct found
    | @look user stored =>
      obtain ⟨read, rfl⟩ := perform_get_ok performed
      refine ⟨inv.turned distinct found rfl (.inl rfl) (fun _ => id) (fun missing here => .inr ?_) trivial,
        preserves_of_marks fun _ _ => rfl⟩
      cases stored with
      | some score => cases here
      | none =>
        obtain rfl : user = missing := Option.some.inj here
        have unwritten := none_of_unread (current _ (.inr ⟨rfl, rfl⟩)) read.symm
        refine ⟨?_, fun _ => inv.unmissed unwritten⟩
        rintro rfl
        exact absurd unwritten (inv.not_unwritten member rfl)
    | @meet user found' stored =>
      obtain ⟨read, rfl⟩ := perform_get_ok performed
      refine ⟨?_, preserves_of_marks fun _ _ => rfl⟩
      cases both : found' && stored.isSome with
      | true => exact inv.turned distinct found rfl (.inl rfl) (fun _ => id) (by rintro _ ⟨⟩) trivial
      | false =>
        refine inv.turned distinct found rfl (.inl rfl) (fun _ => id) (fun missing here => ?_) trivial
        obtain rfl : user = missing := Option.some.inj here
        cases found' with
        | false => exact .inl rfl
        | true =>
          have absent : stored = none := by simpa using both
          have unwritten := none_of_unread (current _ (.inr ⟨rfl, rfl⟩)) (read.symm.trans absent)
          refine .inr ⟨fun _ => inv.unmissed unwritten, ?_⟩
          rintro rfl
          exact absurd unwritten (inv.not_unwritten member rfl)
    | first fresh =>
      obtain ⟨read, rfl⟩ := perform_get_ok performed
      exact ⟨inv.turned distinct found rfl (.inl rfl) (by rintro _ ⟨⟩) (by rintro _ ⟨⟩) (tallies_score read),
        preserves_of_marks fun _ _ => rfl⟩
    | second =>
      obtain ⟨read, rfl⟩ := perform_get_ok performed
      exact ⟨inv.turned distinct found rfl (.inl rfl) (by rintro _ ⟨⟩) (by rintro _ ⟨⟩)
        ⟨agrees, tallies_score read⟩,
        preserves_of_marks fun _ _ => rfl⟩
    | third =>
      obtain ⟨read, rfl⟩ := perform_get_ok performed
      exact ⟨inv.turned distinct found rfl (.inl rfl) (by rintro _ ⟨⟩) (by rintro _ ⟨⟩)
        ⟨agrees.1, agrees.2, tallies_time read⟩,
        preserves_of_marks fun _ _ => rfl⟩
    | fourth =>
      obtain ⟨read, rfl⟩ := perform_get_ok performed
      exact ⟨inv.turned distinct found rfl (.inl rfl) (by rintro _ ⟨⟩) (by rintro _ ⟨⟩)
        (agrees_decided agrees (tallies_time read)),
        preserves_of_marks fun _ _ => rfl⟩
    | fail unmarked =>
      have same : ∀ key, key.marks matchId = true → world'.redis key = world.redis key :=
        fun key marks => redis_frame performed (unmarked key marks)
      exact ⟨(inv.spared same names).turned distinct found rfl (.inl rfl) (by rintro _ ⟨⟩) (by rintro _ ⟨⟩) trivial,
        preserves_of_marks same⟩
    | rest unmarked =>
      have same : ∀ key, key.marks matchId = true → world'.redis key = world.redis key :=
        fun key marks => redis_frame performed (unmarked key marks)
      have preserves := preserves_of_marks same
      exact ⟨(inv.spared same names).turned distinct found rfl (.inr rfl) (fun _ => id) (fun _ => .inl)
        (preserves.agrees agrees), preserves⟩

end Bench

/-! ### Decisions that begin once both scores are there -/

namespace Turn

/-- The submission has taken its lock, and has not failed. -/
def completes : Turn → Bool
  | entering _ | failed _ | expired => false
  | _ => true

/-- The submission has called `determineAndResolveWinner`. -/
def calls : Turn → Bool
  | called _ | reading (some _) _ | decided (some _) _ _ => true
  | _ => false

def begun : Turn → Bool
  | reading .. | decided .. => true
  | _ => false

/-- Every read of the decision has found something. -/
def whole : Turn → Bool
  | reading _ reads => reads.all (·.isSome)
  | decided _ _ complete => complete
  | _ => true

end Turn

theorem isSome_of_written {key : Key} {stored : Option key.Val} (current : world.current key = true)
    (written : world.written key = 1) (read : stored = world.redis.read world.now key) : stored.isSome = true := by
  obtain ⟨cell, here⟩ := written_eq_one_iff.mp written
  rw [read, read_of_current current here]
  rfl

/-- While both scores and times are written and have not expired, a decision finds what it reads. -/
theorem whole_step {reply : Except Err op.Reply} (whole : turn.whole = true)
    (may : turn.may matchId playerA playerB op) (performed : op.perform env choice world = some (reply, world'))
    (current : ∀ key, op = .get key ∧ key.graded = true → world.current key = true)
    (written : ∀ player, player = playerA ∨ player = playerB →
      world.written (.score matchId player) = 1 ∧ world.written (.time matchId player) = 1) :
    (turn.after playerA playerB op reply).whole = true := by
  have ofA := written playerA (.inl rfl)
  have ofB := written playerB (.inr rfl)
  cases reply with
  | error err =>
    cases turn
    all_goals first | rfl | exact whole
  | ok value =>
    have stride := stride_of_may may value
    show (turn.goes playerA playerB op value).whole = true
    generalize turn.goes playerA playerB op value = turn' at stride ⊢
    cases stride with
    | first fresh =>
      have found := isSome_of_written (current _ ⟨rfl, rfl⟩) ofA.1 (perform_get_ok performed).1
      simp [Turn.whole, found]
    | second =>
      have found := isSome_of_written (current _ ⟨rfl, rfl⟩) ofB.1 (perform_get_ok performed).1
      simpa [Turn.whole, found] using whole
    | third =>
      have found := isSome_of_written (current _ ⟨rfl, rfl⟩) ofA.2 (perform_get_ok performed).1
      simpa [Turn.whole, found] using whole
    | fourth =>
      have found := isSome_of_written (current _ ⟨rfl, rfl⟩) ofB.2 (perform_get_ok performed).1
      simpa [Turn.whole, Turn.readings, found, and_assoc] using whole
    | @meet user found stored =>
      cases both : found && stored.isSome with
      | true => rfl
      | false => rfl
    | refuse => exact whole
    | rest _ => exact whole
    | _ => rfl

end Inv

/-! ### Whole runs -/

/-- The operation leaves the locks, times and scores of a match, and its players. -/
def Op.sparesDecision (matchId : MatchId) (playerA playerB : UserId) : Op → Bool
  | set (.state played) matchState _ | setNx (.state played) matchState _ =>
    played ≠ matchId || (matchState.playerAId = playerA && matchState.playerBId = playerB)
  | set key _ _ | setNx key _ _ | del key => !key.marks matchId
  | _ => true

/-- The operation looks at no score, time or lock that has expired. -/
def World.fresh (world : World) : Option Op → Bool
  | some (.get key) => !key.graded || world.current key
  | some (.setNx key _ _) => world.current key
  | _ => true

/-- The observer of the decisions: who enters. -/
def clerk (matchId : MatchId) (playerA playerB : UserId) :
    Observer (deciding matchId playerA playerB) World Handler Unit where
  enter
    | .codeSubmit user _ _ _ => .entering user
    | _ => .expired
  starts _ _ _ := ()
  sees _ _ _ _ _ := ()

/-- A run of the decisions, with its observer. -/
abbrev DecisionRun (matchId : MatchId) (playerA playerB : UserId) :=
  Watched (deciding matchId playerA playerB) World Handler Unit

/-- **The condition on a run** of submissions and timers of a match, any number of them: no score, no time and
no lock is looked at after it has expired. Everything else that happens leaves these keys and the players
alone. -/
def timely (matchId : MatchId) (playerA playerB : UserId) (w : DecisionRun matchId playerA playerB) :
    BackendMove → Bool
  | .start (.codeSubmit _ played _ _) | .start (.timerExpiry played _) => played = matchId
  | .start _ => false
  | .step index _ => (w.threads[index]?).all fun thread => w.state.fresh thread.prog.head
  | .outside (.tick _) => true
  | .outside (.act _ op) => op.sparesDecision matchId playerA playerB

section Runs

variable {env : Env} {matchId : MatchId} {playerA playerB : UserId}

theorem Bench.answers {choice : Choice} {op : Op} {reply : Except Err op.Reply} {world world' : World}
    {phases : List (Handler × Turn)} (inv : Bench matchId playerA playerB world phases)
    (performed : op.perform env choice world = some (reply, world')) :
    Turn.answers matchId playerA playerB op reply := by
  unfold Turn.answers
  split
  · rintro rfl
    obtain ⟨read, _⟩ := perform_get_ok performed
    obtain ⟨cell, stored, _, rfl⟩ := Store.read_eq_some.mp read.symm
    exact inv.players cell stored
  · trivial

theorem unmarked_of_spares {op : Op} (spares : op.sparesDecision matchId playerA playerB = true) {key : Key}
    (marks : key.marks matchId = true) : op.writes key = false := by
  refine Bool.eq_false_iff.mpr fun writes => ?_
  have clash : ∀ written : Key, written = key → (!written.marks matchId) = true → False := by
    rintro written rfl unmarked
    rw [marks] at unmarked
    cases unmarked
  unfold Op.writes at writes
  split at writes
  · rename_i written _ _
    have same : written = key := of_decide_eq_true writes
    cases written
    case state => subst same; cases marks
    all_goals exact clash _ same spares
  · rename_i written _ _
    have same : written = key := of_decide_eq_true writes
    cases written
    case state => subst same; cases marks
    all_goals exact clash _ same spares
  · exact clash _ (of_decide_eq_true writes) spares
  · cases writes

theorem Bench.outside {choice : Choice} {op : Op} {reply : Except Err op.Reply} {world world' : World}
    {phases : List (Handler × Turn)} (inv : Bench matchId playerA playerB world phases)
    (spares : op.sparesDecision matchId playerA playerB = true)
    (performed : op.perform env choice world = some (reply, world')) :
    Bench matchId playerA playerB world' phases ∧ Preserves matchId world world' := by
  have same : ∀ key, key.marks matchId = true → world'.redis key = world.redis key :=
    fun key marks => redis_frame performed (unmarked_of_spares spares marks)
  refine ⟨inv.spared same fun cell stored => ?_, preserves_of_marks same⟩
  by_cases writes : op.writes (.state matchId) = true
  · cases reply with
    | error err =>
      rw [perform_error performed] at stored
      exact inv.players cell stored
    | ok value =>
      unfold Op.writes at writes
      split at writes
      · rename_i key matchState seconds
        obtain rfl : key = .state matchId := of_decide_eq_true writes
        rw [perform_set_ok performed, withRedis_redis, Store.write_self] at stored
        cases stored
        simpa [Op.sparesDecision] using spares
      · rename_i key matchState seconds
        obtain rfl : key = .state matchId := of_decide_eq_true writes
        rcases perform_setNx_ok performed with ⟨_, _, rfl⟩ | ⟨_, _, rfl⟩
        · exact inv.players cell stored
        · rw [withRedis_redis, Store.write_self] at stored
          cases stored
          simpa [Op.sparesDecision] using spares
      · rename_i key
        obtain rfl : key = .state matchId := of_decide_eq_true writes
        rw [perform_del_ok performed, withRedis_redis, Store.delete_self] at stored
        cases stored
      · cases writes
  · rw [redis_frame performed (Bool.eq_false_iff.mpr writes)] at stored
    exact inv.players cell stored

theorem Preserves.trans {world world' world'' : World} (first : Preserves matchId world world')
    (second : Preserves matchId world' world'') : Preserves matchId world world'' :=
  ⟨fun user score stored => second.scores user score (first.scores user score stored),
    fun user time stored => second.times user time (first.times user time stored)⟩

/-- Whose score was written earlier, their time is written too. -/
theorem Bench.both_written {world earlier : World} {phases : List (Handler × Turn)}
    (inv : Bench matchId playerA playerB world phases) (preserves : Preserves matchId earlier world)
    (recorded : ∀ player, player = playerA ∨ player = playerB → earlier.written (.score matchId player) = 1)
    (player : UserId) (plays : player = playerA ∨ player = playerB) :
    world.written (.score matchId player) = 1 ∧ world.written (.time matchId player) = 1 := by
  have scored := preserves.written (recorded player plays)
  have bound : world.written (.score matchId player) ≤ world.written (.time matchId player) :=
    inv.pens.done_le (.scoring player)
  have single := written_le world (.time matchId player)
  exact ⟨scored, by omega⟩

/-- **The invariant from some point on**: what was stored then stays, and the threads that have begun no decision
before it find all they read. -/
structure Sitting (matchId : MatchId) (playerA playerB : UserId) (earlier : World) (late : ℕ → Prop) (world : World)
    (phases : List (Handler × Turn)) : Prop where
  bench : Bench matchId playerA playerB world phases
  preserves : Preserves matchId earlier world
  whole : ∀ index, late index → ∀ entry, phases[index]? = some entry → entry.2.whole = true

namespace Sitting

variable {earlier world world' : World} {late : ℕ → Prop} {phases : List (Handler × Turn)} {index : ℕ}
  {event : Handler} {turn : Turn} {op : Op} {choice : Choice} {reply : Except Err op.Reply}

theorem append (sitting : Sitting matchId playerA playerB earlier late world phases)
    (caller : turn.caller = event.sender) (fresh : turn = .expired ∨ ∃ user, turn = .entering user) :
    Sitting matchId playerA playerB earlier late world (phases ++ [(event, turn)]) := by
  refine ⟨sitting.bench.append caller fresh, sitting.preserves, fun index after entry here => ?_⟩
  by_cases inside : index < phases.length
  · rw [List.getElem?_append_left inside] at here
    exact sitting.whole index after entry here
  · rw [List.getElem?_append_right (Nat.le_of_not_lt inside), List.getElem?_singleton] at here
    split at here
    · cases here
      rcases fresh with rfl | ⟨user, rfl⟩
      · rfl
      · rfl
    · cases here

theorem step (sitting : Sitting matchId playerA playerB earlier late world phases) (distinct : playerA ≠ playerB)
    (recorded : ∀ index, late index → ∀ player, player = playerA ∨ player = playerB →
      earlier.written (.score matchId player) = 1)
    (found : phases[index]? = some (event, turn)) (may : turn.may matchId playerA playerB op)
    (performed : op.perform env choice world = some (reply, world')) (fresh : world.fresh (some op) = true) :
    Sitting matchId playerA playerB earlier late world'
      (phases.set index (event, turn.after playerA playerB op reply)) := by
  have reads : ∀ key, op = .get key ∧ key.graded = true → world.current key = true := by
    rintro key ⟨rfl, graded⟩
    simpa [World.fresh, graded] using fresh
  have current : ∀ key, (∃ value seconds, op = .setNx key value seconds) ∨ op = .get key ∧ key.graded = true →
      world.current key = true := by
    rintro key (⟨value, seconds, rfl⟩ | read)
    · exact fresh
    · exact reads key read
  obtain ⟨kept, stays⟩ := sitting.bench.step distinct found may performed current
  refine ⟨kept, sitting.preserves.trans stays, fun place after entry here => ?_⟩
  by_cases same : place = index
  · subst same
    rw [List.getElem?_set_self (List.getElem?_eq_some_iff.mp found).1] at here
    cases here
    exact whole_step (sitting.whole place after _ found) may performed reads
      (sitting.bench.both_written sitting.preserves (recorded place after))
  · rw [List.getElem?_set_ne (Ne.symm same)] at here
    exact sitting.whole place after entry here

end Sitting

/-- The handlers of the match. -/
def Handler.contests (matchId : MatchId) : Handler → Prop
  | codeSubmit _ played _ _ | timerExpiry played _ => played = matchId
  | _ => False

/-- **The vigil over the decisions.** -/
def decisionVigil (env : Env) (matchId : MatchId) {playerA playerB : UserId} (distinct : playerA ≠ playerB)
    (earlier : World) (late : ℕ → Prop) (recorded : ∀ index, late index → ∀ player,
      player = playerA ∨ player = playerB → earlier.written (.score matchId player) = 1) :
    Vigil (backend env) (clerk matchId playerA playerB)
      (fun w move => timely matchId playerA playerB w move = true) where
  admits := Handler.contests matchId
  finished turn := turn.ended = true
  Inv world _ phases := Sitting matchId playerA playerB earlier late world phases
  keeps event contests := by
    refine (Task.keeps_run _ _ _).mpr ?_
    cases event
    case codeSubmit user played language code =>
      obtain rfl : played = matchId := contests
      exact codeSubmit_deciding user language code
    case timerExpiry played dueAt =>
      obtain rfl : played = matchId := contests
      exact handleTimerExpiry_deciding dueAt
    all_goals exact absurd contests id
  enters w event allowed := by
    cases event
    case codeSubmit user played language code =>
      have own : played = matchId := of_decide_eq_true allowed
      exact own
    case timerExpiry played dueAt =>
      have own : played = matchId := of_decide_eq_true allowed
      exact own
    all_goals cases allowed
  forks turn op may child forked := by
    obtain rfl := fork_of_mem forked
    exact absurd may id
  start w event state sitting allowed arrived := by
    cases event
    case codeSubmit user played language code =>
      cases arrived
      exact sitting.append rfl (.inr ⟨user, rfl⟩)
    case timerExpiry played dueAt =>
      cases arrived
      exact sitting.append rfl (.inl rfl)
    all_goals cases allowed
  step w index choice event turn op next reply state sitting allowed found inPhase may performed := by
    have fresh : w.state.fresh (some op) = true := by
      have allowed : ((w.threads[index]?).all fun thread => w.state.fresh thread.prog.head) = true := allowed
      rwa [found] at allowed
    have alone : (backend env).forks op = [] := by
      cases op
      case fork => exact absurd may id
      all_goals rfl
    refine ⟨sitting.bench.answers performed, ?_⟩
    rw [alone, List.map_nil]
    exact (List.append_nil _).symm ▸ sitting.step distinct recorded inPhase may performed fresh
  outside w act state sitting allowed acted := by
    cases act with
    | tick ms =>
      cases acted
      exact ⟨sitting.bench.spared (fun _ _ => rfl) sitting.bench.players,
        sitting.preserves.trans (preserves_of_marks fun _ _ => rfl), sitting.whole⟩
    | act choice op =>
      obtain ⟨⟨reply, state'⟩, performed, rfl⟩ := Option.map_eq_some_iff.mp acted
      obtain ⟨kept, stays⟩ := sitting.bench.outside allowed performed
      exact ⟨kept, sitting.preserves.trans stays, sitting.whole⟩

theorem bench_of_unplayed {world : World} (players : ∀ cell, world.redis (.state matchId) = some cell →
      cell.value.playerAId = playerA ∧ cell.value.playerBId = playerB)
    (unplayed : ∀ user, world.redis (.time matchId user) = none ∧ world.redis (.score matchId user) = none) :
    Bench matchId playerA playerB world [] := by
  refine ⟨players, List.forall_mem_nil _, fun pen => ?_, List.forall_mem_nil _, .inl (List.forall_mem_nil _),
    List.forall_mem_nil _⟩
  have unused : Pen.used matchId world pen = 0 := by
    cases pen with
    | idle => rfl
    | timing user => exact written_of_none (unplayed user).1
    | scoring user => exact written_of_none (unplayed user).2
  rw [List.countP_nil, unused]
  exact Nat.zero_le _

/-- Who has taken the lock, has not failed and has ended, has called or has missed a score. -/
theorem calls_or_misses {turn : Turn} {user : UserId} (caller : turn.caller = some user)
    (ended : turn.ended = true) (completes : turn.completes = true) :
    turn.calls = true ∨ turn.misses = some user := by
  cases turn
  case missed => exact .inr caller
  case called => exact .inl rfl
  case reading =>
    obtain rfl := caller
    exact .inl rfl
  case decided =>
    obtain rfl := caller
    exact .inl rfl
  case entering => cases completes
  case failed => cases completes
  case expired => cases completes
  all_goals cases ended

/-- **Of two who complete, one has called**: they cannot both have missed the other's score. -/
theorem Bench.one_called {world : World} {phases : List (Handler × Turn)}
    (inv : Bench matchId playerA playerB world phases) {entryA entryB : Handler × Turn} (memberA : entryA ∈ phases)
    (memberB : entryB ∈ phases) (ofA : entryA.1.sender = some playerA) (ofB : entryB.1.sender = some playerB)
    (endedA : entryA.2.ended = true) (endedB : entryB.2.ended = true) (completesA : entryA.2.completes = true)
    (completesB : entryB.2.completes = true) : entryA.2.calls = true ∨ entryB.2.calls = true := by
  rcases calls_or_misses ((inv.senders _ memberA).trans ofA) endedA completesA with called | missedA
  · exact .inl called
  rcases calls_or_misses ((inv.senders _ memberB).trans ofB) endedB completesB with called | missedB
  · exact .inr called
  rcases inv.apart with noneA | noneB
  · exact absurd missedA (noneA _ memberA)
  · exact absurd missedB (noneB _ memberB)

theorem Bench.timed {world : World} {phases : List (Handler × Turn)}
    (inv : Bench matchId playerA playerB world phases)
    (recorded : ∀ player, player = playerA ∨ player = playerB → world.written (.score matchId player) = 1)
    {player : UserId} (plays : player = playerA ∨ player = playerB) :
    ∃ time, world.storedTime matchId player = some time := by
  have written := (inv.both_written (preserves_of_marks fun _ _ => rfl) recorded player plays).2
  obtain ⟨cell, here⟩ := written_eq_one_iff.mp written
  refine ⟨cell.value, ?_⟩
  unfold World.storedTime
  rw [here]
  rfl

theorem written_of_storedScore {world : World} {user : UserId} {score : JsNum}
    (stored : world.storedScore matchId user = some score) : world.written (.score matchId user) = 1 := by
  obtain ⟨cell, here, _⟩ := Option.map_eq_some_iff.mp stored
  exact written_of_some here

/-- From any point on, the threads that have not begun are watched. -/
theorem Bench.sitting {world : World} {phases : List (Handler × Turn)}
    (inv : Bench matchId playerA playerB world phases) :
    Sitting matchId playerA playerB world
      (fun index => ∀ before : Handler × Turn, phases[index]? = some before → before.2.begun = false)
      world phases := by
  refine ⟨inv, preserves_of_marks fun _ _ => rfl, fun index unbegun entry here => ?_⟩
  have idle := unbegun entry here
  obtain ⟨event, turn⟩ := entry
  cases turn
  case reading => cases idle
  case decided => cases idle
  all_goals rfl

/-- **What a late decision selects** is ruled by what was stored. -/
theorem Sitting.ruled {earlier world : World} {late : ℕ → Prop} {phases : List (Handler × Turn)}
    (sitting : Sitting matchId playerA playerB earlier late world phases) {scoreA scoreB timeA timeB : JsNum}
    (storedA : earlier.storedScore matchId playerA = some scoreA)
    (storedB : earlier.storedScore matchId playerB = some scoreB)
    (clockA : earlier.storedTime matchId playerA = some timeA)
    (clockB : earlier.storedTime matchId playerB = some timeB) {index : ℕ} (after : late index) {event : Handler}
    {caller : Option UserId} {pair : UserId × UserId} {complete : Bool}
    (decided : phases[index]? = some (event, Turn.decided caller pair complete)) :
    pair = ruledPair playerA playerB scoreA scoreB timeA timeB := by
  obtain rfl : complete = true := sitting.whole index after _ decided
  obtain ⟨scoreA', scoreB', timeA', timeB', sawA, sawB, sawTimeA, sawTimeB, rfl⟩ :=
    sitting.bench.agrees _ (List.mem_of_getElem? decided)
  cases (sitting.preserves.scores _ _ storedA).symm.trans sawA
  cases (sitting.preserves.scores _ _ storedB).symm.trans sawB
  cases (sitting.preserves.times _ _ clockA).symm.trans sawTimeA
  cases (sitting.preserves.times _ _ clockB).symm.trans sawTimeB
  rfl

end Runs

/-! ### Two runs, and one in time -/

/-- Both players take their locks. The score of player 1 is written and gone before player 2 is evaluated. -/
def missesBoth : List BackendMove :=
  submits 0 1 ++ submits 1 2 ++ .step 0 (.verdict (points 50 1 .partialScore)) ::
    List.replicate 6 (.step 0 .proceed) ++ .outside (.tick 7200001) ::
    .step 1 (.verdict (points 100 2 .accepted)) :: List.replicate 6 (.step 1 .proceed)

/-- Player 1 submits at the start, player 2 five hundred seconds later, and both get fifty points. -/
def fiftyEach : List BackendMove :=
  submits 0 1 ++ .outside (.tick 500000) :: submits 1 2 ++
    [.step 0 (.verdict (points 50 1 .partialScore)), .step 0 .proceed,
      .step 1 (.verdict (points 50 1 .partialScore)), .step 1 .proceed]

/-- The handler of player 2 decides at once, that of player 1 when its time has expired but not the scores. -/
def decidesLater : List BackendMove :=
  List.replicate 8 (.step 1 .proceed) ++ List.replicate 4 (.step 0 .proceed) ++
    .outside (.tick 6700001) :: List.replicate 4 (.step 0 .proceed)

/-- Player 1 is given a score that is no number, player 2 a hundred points. -/
def scoresNaN : List BackendMove :=
  submits 0 1 ++ .outside (.tick 1000) :: submits 1 2 ++
    [.step 0 (.verdict { points 0 0 .wrongAnswer with score := .nan }), .step 0 .proceed,
      .step 1 (.verdict (points 100 2 .accepted)), .step 1 .proceed]

/-- The timer and both handlers decide before the match is resolved, which is what player 2's handler then does. -/
def decidesThrice : List BackendMove :=
  .start (.timerExpiry 7 0) :: List.replicate 6 (.step 2 .proceed) ++ List.replicate 8 (.step 0 .proceed) ++
    List.replicate 27 (.step 1 .proceed) ++ List.replicate 1 (.step 0 .proceed)

end SkillArena
