/-
**The recorded winner.**

The winner of a match is decided by who finds both scores, or by the timer, which reads a score that is
not there yet as zero. While an evaluation takes longer than the two seconds the timer allows, the timer
decides against a submission that was in time, and its score comes too late (`late_score_loses`). Where
the timer reads no score before it is written, and no score, time or lock is looked at after it has expired,
the recorded winner is the one by the scores `evaluateCode` returned, then by the times, then player A
(`winner_by_the_rules`).

* `Notes` — what a handler of the match has seen and what it alone may still write.
* `ruling` — the contract: a score is written once, by who took the lock; the row of the match is completed
  only for the winner of the scores and times seen.
* `Ruling` — the invariant: what was seen is what is stored, and stays so.
-/

import SkillArena.Proof.Settlement

namespace SkillArena

open Async Expiring

/-! ### The rules of the game -/

namespace JsNum

theorem gt_self (a : JsNum) : a.gt a = false := by
  cases a with
  | nan => rfl
  | int a => simp

theorem not_gt_of_gt {a b : JsNum} (higher : b.gt a = true) : a.gt b = false := by
  cases a with
  | nan => rfl
  | int a =>
    cases b with
    | nan => rfl
    | int b =>
      simp only [gt_int, decide_eq_true_eq, decide_eq_false_iff_not] at higher ⊢
      omega

theorem not_le_of_gt {a b : JsNum} (higher : a.gt b = true) : a.le b = false := by
  cases a with
  | nan => rfl
  | int a =>
    cases b with
    | nan => rfl
    | int b =>
      simp only [gt_int, le_int, decide_eq_true_eq, decide_eq_false_iff_not] at higher ⊢
      omega

end JsNum

/-- The winner of two scores and two times: the higher score, then the smaller time, then player A. -/
def ruledWinner (playerA playerB : UserId) (scoreA scoreB timeA timeB : JsNum) : UserId :=
  if scoreA.gt scoreB then playerA
  else if scoreB.gt scoreA then playerB
  else if timeA.le timeB then playerA else playerB

theorem decideWinner_eq (matchState : MatchState) (scoreA scoreB timeA timeB : JsNum) :
    (decideWinner matchState scoreA scoreB timeA timeB).1 =
      ruledWinner matchState.playerAId matchState.playerBId scoreA scoreB timeA timeB := by
  unfold decideWinner ruledWinner
  split
  · rfl
  · split
    · rfl
    · rfl

/-- At expiry equal times are decided for player A, whatever they are. -/
theorem decideAtExpiry_eq (matchState : MatchState) (scoreA scoreB timeA timeB : JsNum) :
    (decideAtExpiry matchState scoreA scoreB timeA timeB).1 =
      ruledWinner matchState.playerAId matchState.playerBId scoreA scoreB timeA timeB := by
  unfold decideAtExpiry ruledWinner
  split
  · rfl
  · split
    · rfl
    · split
      · rename_i missing
        have both : timeA = .int 999999 ∧ timeB = .int 999999 := by
          cases timeA with
          | nan => cases missing
          | int a =>
            cases timeB with
            | nan => simp [JsNum.eq] at missing
            | int b => simpa [JsNum.eq] using missing
        rw [both.1, both.2]
        rfl
      · rfl

/-! ### The contract -/

/-- What a handler alone may still write: the time and then the score of a user. -/
inductive Pen
  | idle
  | timing (user : UserId)
  | scoring (user : UserId)
  deriving DecidableEq

/-- **The notes of a handler**: whether it is the timer, what it may write, the scores and times seen. -/
structure Notes where
  expiring : Bool
  pen : Pen := .idle
  scores : UserId → Option JsNum := fun _ => none
  times : UserId → Option JsNum := fun _ => none

namespace Notes

/-- The winner by the scores and times seen. -/
def rules (notes : Notes) (playerA playerB winner : UserId) : Prop :=
  ∃ scoreA scoreB timeA timeB, notes.scores playerA = some scoreA ∧ notes.scores playerB = some scoreB ∧
    notes.times playerA = some timeA ∧ notes.times playerB = some timeB ∧
    winner = ruledWinner playerA playerB scoreA scoreB timeA timeB

/-- What a handler of the match may ask. -/
def may (matchId : MatchId) (playerA playerB : UserId) (notes : Notes) : Op → Prop
  | .get key => key.ofMatch.all (· = matchId) = true
  | .set (.time matchId' user) .. => matchId' = matchId ∧ notes.pen = .timing user
  | .set (.score matchId' user) .. => matchId' = matchId ∧ notes.pen = .scoring user
  | .set (.state _) matchState _ => matchState.playerAId = playerA ∧ matchState.playerBId = playerB
  | .set (.resolved _) .. => True
  | .set .. => False
  | .setNx (.submitted matchId' _) .. => matchId' = matchId
  | .setNx .. => False
  | .del key => key.ofMatch = none
  | .query (.completeMatch _ winner ..) => notes.rules playerA playerB winner
  | .emit (.sender user) (.evaluationResult _ result _) => notes.scores user = some result.score
  | .emit _ (.evaluationResult ..) => False
  | .transact (.createMatch ..) => False
  | .fork _ => False
  | _ => True

/-- What it may rely on. -/
def answers (playerA playerB : UserId) (notes : Notes) : (op : Op) → Except Err op.Reply → Prop
  | .get (.state _), .ok (some matchState) =>
    matchState.playerAId = playerA ∧ matchState.playerBId = playerB
  | .get (.score _ user), .ok stored =>
    (notes.expiring = true → user = playerA ∨ user = playerB → stored.isSome = true) ∧
      ∀ score, notes.scores user = some score → stored = some score
  | .get (.time _ user), .ok stored => ((notes.scores user).isSome = true → stored.isSome = true) ∧
      ∀ time, notes.times user = some time → stored = some time
  | _, _ => True

/-- What it notes. -/
def after (notes : Notes) : (op : Op) → Except Err op.Reply → Notes
  | .setNx (.submitted _ user) _ _, .ok true => { notes with pen := .timing user }
  | .set (.time _ user) time _, .ok _ =>
    { notes with pen := .scoring user, times := Function.update notes.times user (some time) }
  | .set (.score _ user) score _, .ok _ =>
    { notes with pen := .idle, scores := Function.update notes.scores user (some score) }
  | .get (.score _ user), .ok (some score) =>
    { notes with scores := Function.update notes.scores user (some score) }
  | .get (.time _ user), .ok (some time) =>
    { notes with times := Function.update notes.times user (some time) }
  | _, _ => notes

end Notes

/-- **The contract of a match that is decided by the rules.** -/
def ruling (matchId : MatchId) (playerA playerB : UserId) : Contract signature where
  Phase := Notes
  may := Notes.may matchId playerA playerB
  answers := Notes.answers playerA playerB
  after := Notes.after

/-- The operation is idle for the contract. -/
def Op.quiet (matchId : MatchId) : Op → Bool
  | get (.score ..) | get (.time ..) => false
  | get key => key.ofMatch.all (· = matchId)
  | set (.resolved _) .. => true
  | set .. | setNx .. | fork _ => false
  | del key => key.ofMatch.isNone
  | query (.completeMatch ..) => false
  | emit _ (.evaluationResult ..) => false
  | transact (.createMatch ..) => false
  | _ => true

section Contract

variable {matchId : MatchId} {playerA playerB : UserId}

open Async.Task (stable_pure stable_bind stable_attempt)

theorem quiet_may (notes : Notes) {op : Op} (quiet : op.quiet matchId = true) :
    notes.may matchId playerA playerB op := by
  cases op with
  | get key =>
    cases key
    case score => cases quiet
    case time => cases quiet
    all_goals exact quiet
  | set key =>
    cases key
    case resolved => trivial
    all_goals cases quiet
  | del key => exact Option.isNone_iff_eq_none.mp quiet
  | query sql =>
    cases sql
    case completeMatch => cases quiet
    all_goals trivial
  | emit room event =>
    cases event
    case evaluationResult => cases quiet
    all_goals
      cases room
      all_goals trivial
  | transact transaction =>
    cases transaction
    case createMatch => cases quiet
    all_goals trivial
  | setNx => cases quiet
  | fork => cases quiet
  | _ => trivial

theorem quiet_after (notes : Notes) {op : Op} (quiet : op.quiet matchId = true) (reply : Except Err op.Reply) :
    notes.after op reply = notes := by
  unfold Notes.after
  split
  all_goals first | rfl | cases quiet

theorem quiet_call {Q : Notes → Prop} {op : Op} (quiet : op.quiet matchId = true) :
    op.call.Stable (ruling matchId playerA playerB) Q := by
  intro notes here
  refine ⟨quiet_may notes quiet, fun reply _ => ?_⟩
  show Q (notes.after op reply)
  rw [quiet_after notes quiet]
  exact here

theorem quiet_then {α : Type} {op : Op} (quiet : op.quiet matchId = true) {rest : op.Reply → Promise α}
    {notes : Notes} (next : ∀ value, (rest value).Keeps (ruling matchId playerA playerB) notes
      fun _ _ => True) :
    (op.call >>= rest).Keeps (ruling matchId playerA playerB) notes fun _ _ => True :=
  (quiet_call quiet).keeps_bind next fun _ => trivial

theorem attempt_then {α : Type} {body : Promise α} {handler : Err → Promise α} {notes : Notes}
    (first : body.Keeps (ruling matchId playerA playerB) notes fun _ _ => True)
    (second : ∀ err, (handler err).Stable (ruling matchId playerA playerB) fun _ => True) :
    (Task.attempt body handler).Keeps (ruling matchId playerA playerB) notes fun _ _ => True := by
  refine (Task.keeps_attempt _ _ _ _).mpr (first.mono ?_)
  rintro (err | value) notes' -
  · exact second err notes' trivial
  · trivial

theorem state_keeps {α : Type} {notes : Notes} {rest : Option MatchState → Promise α}
    {post : Except Err α → Notes → Prop}
    (absent : (rest none).Keeps (ruling matchId playerA playerB) notes post)
    (present : ∀ matchState, matchState.playerAId = playerA → matchState.playerBId = playerB →
      (rest (some matchState)).Keeps (ruling matchId playerA playerB) notes post)
    (failed : ∀ err, post (.error err) notes) :
    (redisGet (.state matchId) >>= rest).Keeps (ruling matchId playerA playerB) notes post := by
  have own : (ruling matchId playerA playerB).may notes (.get (.state matchId)) := decide_eq_true rfl
  refine keeps_call_bind own (fun stored answers => ?_) fun err _ => failed err
  cases stored with
  | none => exact absent
  | some matchState => exact present matchState answers.1 answers.2

theorem state_then {α : Type} {Q : Notes → Prop} {rest : Option MatchState → Promise α}
    (absent : (rest none).Stable (ruling matchId playerA playerB) Q)
    (present : ∀ matchState, matchState.playerAId = playerA → matchState.playerBId = playerB →
      (rest (some matchState)).Stable (ruling matchId playerA playerB) Q) :
    (redisGet (.state matchId) >>= rest).Stable (ruling matchId playerA playerB) Q :=
  fun notes here => state_keeps (absent notes here)
    (fun matchState isA isB => present matchState isA isB notes here) fun _ => here

theorem update_agrees {sheet : UserId → Option JsNum} {user other : UserId} {value entry : JsNum}
    (agrees : ∀ value, sheet user = some value → some entry = some value) (known : sheet other = some value) :
    Function.update sheet user (some entry) other = some value := by
  by_cases same : other = user
  · subst same
    rw [Function.update_self]
    exact agrees value known
  · rw [Function.update_of_ne same]
    exact known

theorem bookkeeping_cases {op : Op} (kept : op.bookkeeping matchId = true) :
    op.quiet matchId = true ∨ (∃ user, op = .get (.score matchId user)) ∨
      ∃ user, op = .get (.time matchId user) := by
  unfold Op.bookkeeping at kept
  split at kept
  · obtain rfl : _ = matchId := by simpa using kept
    exact .inr (.inl ⟨_, rfl⟩)
  · obtain rfl : _ = matchId := by simpa using kept
    exact .inr (.inr ⟨_, rfl⟩)
  all_goals first | exact .inl rfl | cases kept

theorem rules_idle {winner : UserId} (notes : Notes) (op : Op) (ruled : notes.rules playerA playerB winner)
    (kept : op.bookkeeping matchId = true) : notes.may matchId playerA playerB op ∧
      ∀ reply, notes.answers playerA playerB op reply → (notes.after op reply).rules playerA playerB winner := by
  obtain ⟨scoreA, scoreB, timeA, timeB, sawA, sawB, clockA, clockB, best⟩ := id ruled
  rcases bookkeeping_cases kept with quiet | ⟨user, rfl⟩ | ⟨user, rfl⟩
  · refine ⟨quiet_may notes quiet, fun reply _ => ?_⟩
    rw [quiet_after notes quiet]
    exact ruled
  · refine ⟨decide_eq_true rfl, fun reply answers => ?_⟩
    match reply with
    | .error err => exact ruled
    | .ok none => exact ruled
    | .ok (some score) =>
      exact ⟨scoreA, scoreB, timeA, timeB, update_agrees answers.2 sawA, update_agrees answers.2 sawB,
        clockA, clockB, best⟩
  · refine ⟨decide_eq_true rfl, fun reply answers => ?_⟩
    match reply with
    | .error err => exact ruled
    | .ok none => exact ruled
    | .ok (some time) =>
      exact ⟨scoreA, scoreB, timeA, timeB, sawA, sawB, update_agrees answers.2 clockA,
        update_agrees answers.2 clockB, best⟩

/-- The row of the match is completed for the winner by the rules. -/
theorem complete_stable (winner : UserId) (scoreA scoreB timeA timeB : JsNum) :
    (poolQuery (.completeMatch matchId winner scoreA scoreB timeA timeB)).Stable
      (ruling matchId playerA playerB) fun notes => notes.rules playerA playerB winner :=
  fun _ ruled => ⟨ruled, fun _ _ => ruled⟩

/-- **A resolution for the winner by the rules.** -/
theorem resolveBody_ruling (winner loser : UserId) (resolveType : ResolveType) :
    (resolveBody matchId winner loser resolveType).Stable (ruling matchId playerA playerB)
      fun notes => notes.rules playerA playerB winner := by
  refine stable_bind (quiet_call (decide_eq_true rfl)) fun flag => ?_
  cases flag with
  | some _ => exact stable_pure _
  | none =>
    refine stable_bind (quiet_call rfl) fun _ => state_then (stable_pure _) fun stored isA isB => ?_
    refine stable_bind (fun notes ruled => ⟨⟨isA, isB⟩, fun _ _ => ruled⟩) fun _ =>
      stable_bind (quiet_call rfl) fun prize => ?_
    exact recordResult_stable rules_idle (fun _ _ _ _ => complete_stable winner _ _ _ _) _ _ _ _

theorem resolveMatch_ruling (winner loser : UserId) (resolveType : ResolveType) :
    (resolveMatch matchId winner loser resolveType).Stable (ruling matchId playerA playerB)
      fun notes => notes.rules playerA playerB winner :=
  stable_attempt (resolveBody_ruling winner loser resolveType) fun _ => stable_attempt
    (state_then (stable_pure _) fun _ _ _ => stable_bind (quiet_call rfl) fun _ => quiet_call rfl)
    fun _ => stable_pure _

/-- **A read of a score that must be there.** -/
theorem readScore_then {α : Type} {notes : Notes} {user : UserId} {default : ℤ} {rest : JsNum → Promise α}
    (present : notes.expiring = true ∧ (user = playerA ∨ user = playerB) ∨
      (notes.scores user).isSome = true)
    (next : ∀ score, (rest score).Keeps (ruling matchId playerA playerB)
      { notes with scores := Function.update notes.scores user (some score) } fun _ _ => True) :
    (readScore matchId user default >>= rest).Keeps (ruling matchId playerA playerB) notes
      fun _ _ => True := by
  refine (Task.keeps_bind _ _ _ _).mpr (keeps_call_bind (decide_eq_true rfl) (fun stored answers => ?_)
    fun _ _ => trivial)
  cases stored with
  | some score => exact next score
  | none =>
    rcases present with ⟨expiring, player⟩ | seen
    · cases answers.1 expiring player
    · obtain ⟨score, saw⟩ := Option.isSome_iff_exists.mp seen
      cases answers.2 score saw

/-- **A read of the time of a user whose score was seen.** -/
theorem readTime_then {α : Type} {notes : Notes} {user : UserId} {default : ℤ} {rest : JsNum → Promise α}
    (present : (notes.scores user).isSome = true)
    (next : ∀ time, (rest time).Keeps (ruling matchId playerA playerB)
      { notes with times := Function.update notes.times user (some time) } fun _ _ => True) :
    (readTime matchId user default >>= rest).Keeps (ruling matchId playerA playerB) notes
      fun _ _ => True := by
  refine (Task.keeps_bind _ _ _ _).mpr (keeps_call_bind (decide_eq_true rfl) (fun stored answers => ?_)
    fun _ _ => trivial)
  cases stored with
  | some time => exact next time
  | none => cases answers.1 present

/-- The four reads of a decision, from where both scores must be there. -/
theorem reads_then {α : Type} (distinct : playerA ≠ playerB) {notes : Notes}
    {rest : JsNum → JsNum → JsNum → JsNum → Promise α}
    (present : ∀ user, user = playerA ∨ user = playerB →
      notes.expiring = true ∨ (notes.scores user).isSome = true)
    (next : ∀ scoreA scoreB timeA timeB, (rest scoreA scoreB timeA timeB).Stable
      (ruling matchId playerA playerB) fun notes =>
        notes.rules playerA playerB (ruledWinner playerA playerB scoreA scoreB timeA timeB)) :
    (do
      let scoreA ← readScore matchId playerA 0
      let scoreB ← readScore matchId playerB 0
      let timeA ← readTime matchId playerA 999999
      let timeB ← readTime matchId playerB 999999
      rest scoreA scoreB timeA timeB : Promise α).Keeps (ruling matchId playerA playerB) notes
        fun _ _ => True := by
  have first := present playerA (.inl rfl)
  have second := present playerB (.inr rfl)
  refine readScore_then (first.imp_left fun expiring => ⟨expiring, .inl rfl⟩) fun scoreA =>
    readScore_then ?_ fun scoreB => readTime_then ?_ fun timeA => readTime_then ?_ fun timeB => ?_
  · rcases second with expiring | seen
    · exact .inl ⟨expiring, .inr rfl⟩
    · exact .inr (by simpa [Function.update_of_ne distinct.symm] using seen)
  · simp [Function.update_of_ne distinct]
  · simp
  · refine (next scoreA scoreB timeA timeB _ ?_).mono fun _ _ _ => trivial
    exact ⟨scoreA, scoreB, timeA, timeB, by simp [Function.update_of_ne distinct], by simp,
      by simp [Function.update_of_ne distinct], by simp, rfl⟩

theorem determineAndResolveWinner_ruling {matchState : MatchState} (isA : matchState.playerAId = playerA)
    (isB : matchState.playerBId = playerB) (distinct : playerA ≠ playerB) {notes : Notes}
    (seenA : (notes.scores playerA).isSome = true) (seenB : (notes.scores playerB).isSome = true) :
    (determineAndResolveWinner matchId matchState).Keeps (ruling matchId playerA playerB) notes
      fun _ _ => True := by
  subst isA isB
  refine reads_then distinct ?_ fun scoreA scoreB timeA timeB => ?_
  · rintro user (rfl | rfl)
    · exact .inr seenA
    · exact .inr seenB
  · rw [← decideWinner_eq]
    exact resolveMatch_ruling _ _ _

/-- **The timer**, where it finds both scores. -/
theorem handleTimerExpiry_ruling (distinct : playerA ≠ playerB) (dueAt : ℕ) :
    (handleTimerExpiry matchId dueAt).Keeps (ruling matchId playerA playerB) { expiring := true }
      fun _ _ => True := by
  refine quiet_then rfl fun _ => attempt_then (state_keeps trivial ?_ fun _ => trivial) fun _ => stable_pure _
  rintro matchState rfl rfl
  dsimp only
  split
  · trivial
  · refine reads_then distinct (fun _ _ => .inl rfl) fun scoreA scoreB timeA timeB => ?_
    rw [← decideAtExpiry_eq]
    exact stable_bind (quiet_call rfl) fun _ => resolveMatch_ruling _ _ _

theorem refundUnjudged_ruling {Q : Notes → Prop} (message : String) {afterwards : Promise Unit}
    (stable : afterwards.Stable (ruling matchId playerA playerB) Q) :
    (refundUnjudged matchId message afterwards).Stable (ruling matchId playerA playerB) Q :=
  state_then (stable_pure _) fun _ _ _ => stable_bind (quiet_call rfl) fun _ =>
    stable_bind stable fun _ => quiet_call rfl

/-- A read that may find nothing yet. -/
theorem getScore_then {α : Type} {notes : Notes} {user : UserId} {rest : Option JsNum → Promise α}
    (absent : (rest none).Keeps (ruling matchId playerA playerB) notes fun _ _ => True)
    (present : ∀ score, (∀ known, notes.scores user = some known → some score = some known) →
      (rest (some score)).Keeps (ruling matchId playerA playerB)
        { notes with scores := Function.update notes.scores user (some score) } fun _ _ => True) :
    (redisGet (.score matchId user) >>= rest).Keeps (ruling matchId playerA playerB) notes
      fun _ _ => True := by
  refine keeps_call_bind (decide_eq_true rfl) (fun stored answers => ?_) fun _ _ => trivial
  cases stored with
  | none => exact absent
  | some score => exact present score answers.2

/-- **What follows an evaluation**, by who may write the score. -/
theorem afterEvaluation_ruling {matchState : MatchState} (isA : matchState.playerAId = playerA)
    (isB : matchState.playerBId = playerB) (distinct : playerA ≠ playerB) (user : UserId)
    (evalResult : EvalResult) {notes : Notes} (pen : notes.pen = .scoring user) :
    (afterEvaluation user matchId matchState evalResult).Keeps (ruling matchId playerA playerB) notes
      fun _ _ => True := by
  unfold afterEvaluation
  split
  · exact refundUnjudged_ruling (Q := fun _ => True) _ (quiet_call rfl) notes trivial
  · refine keeps_call_bind ⟨rfl, pen⟩ (fun _ _ => ?_) fun _ _ => trivial
    refine quiet_then rfl fun _ => keeps_call_bind ?_ (fun _ _ => ?_) fun _ _ => trivial
    · exact Function.update_self _ _ _
    subst isA isB
    refine getScore_then (getScore_then (quiet_call rfl _ trivial) fun _ _ => quiet_call rfl _ trivial)
      fun scoreA _ => getScore_then (quiet_call rfl _ trivial) fun scoreB agrees => ?_
    refine determineAndResolveWinner_ruling rfl rfl distinct ?_ ?_
    · simp [Function.update_of_ne distinct]
    · simp

/-- What follows the submission lock, by who took it. -/
theorem submitLocked_ruling {matchState : MatchState} (isA : matchState.playerAId = playerA)
    (isB : matchState.playerBId = playerB) (distinct : playerA ≠ playerB) (user : UserId)
    (language code : JsVal) {notes : Notes} (pen : notes.pen = .timing user) :
    (submitLocked user matchId language code matchState).Keeps (ruling matchId playerA playerB) notes
      fun _ _ => True := by
  have own : (Op.get (.startTs matchId)).quiet matchId = true := decide_eq_true rfl
  refine quiet_then rfl fun _ => quiet_then rfl fun _ => quiet_then own fun startTs =>
    quiet_then rfl fun now => keeps_call_bind ⟨rfl, pen⟩ (fun _ _ => ?_) fun _ _ => trivial
  refine quiet_then rfl fun _ => quiet_then rfl fun problemId => ?_
  cases problemId with
  | none => exact refundUnjudged_ruling (Q := fun _ => True) _ (stable_pure _) _ trivial
  | some problemId =>
    exact quiet_then rfl fun _ => quiet_then rfl fun evalResult =>
      afterEvaluation_ruling isA isB distinct user evalResult rfl

/-- **`code:submit`** keeps the contract. -/
theorem codeSubmit_ruling (distinct : playerA ≠ playerB) (user : UserId) (language code : JsVal) :
    (codeSubmit user matchId language code).Keeps (ruling matchId playerA playerB) { expiring := false }
      fun _ _ => True := by
  refine attempt_then (state_keeps (quiet_call rfl _ trivial) ?_ fun _ => trivial) fun _ => quiet_call rfl
  intro matchState isA isB
  dsimp only
  split
  · exact quiet_call rfl _ trivial
  · have timer : (getMatchTimer matchId).Stable (ruling matchId playerA playerB)
        (· = ({ expiring := false } : Notes)) := by
      refine (getMatchTimer_asks (P := fun op => op.quiet matchId = true) matchId (decide_eq_true rfl)
        (decide_eq_true rfl) rfl).stable fun notes op here quiet => ⟨quiet_may notes quiet, fun reply _ => ?_⟩
      exact (quiet_after notes quiet reply).trans here
    refine timer.keeps_bind (fun timer => ?_) fun _ => trivial
    split
    · exact quiet_call rfl _ trivial
    · refine keeps_call_bind rfl (fun taken _ => ?_) fun _ _ => trivial
      cases taken with
      | false => exact quiet_call rfl _ trivial
      | true => exact submitLocked_ruling isA isB distinct user language code rfl

end Contract

/-! ### The invariant -/

/-- The score last written of a user, expired or not. -/
def World.storedScore (world : World) (matchId : MatchId) (user : UserId) : Option JsNum :=
  (world.redis (.score matchId user)).map (·.value)

/-- The submission time last written of a user. -/
def World.storedTime (world : World) (matchId : MatchId) (user : UserId) : Option JsNum :=
  (world.redis (.time matchId user)).map (·.value)

/-- Whether a key has been written, as a number. -/
def World.written (world : World) (key : Key) : ℕ := if (world.redis key).isSome then 1 else 0

/-- The winner by the scores and times written. -/
def World.rules (world : World) (matchId : MatchId) (playerA playerB winner : UserId) : Prop :=
  ∃ scoreA scoreB timeA timeB, world.storedScore matchId playerA = some scoreA ∧
    world.storedScore matchId playerB = some scoreB ∧ world.storedTime matchId playerA = some timeA ∧
    world.storedTime matchId playerB = some timeB ∧
    winner = ruledWinner playerA playerB scoreA scoreB timeA timeB

def Handler.expires : Handler → Bool
  | timerExpiry .. => true
  | _ => false

def Db.winnerOf (db : Db) (matchId : MatchId) : Option UserId := (db.matches_ matchId).bind (·.winnerId)

/-- **The invariant of a match that is decided by the rules.** A lock stands for one time, a time for one
score: whoever may still write one, or has written it, is counted under what had to be written before. -/
structure Ruling (matchId : MatchId) (playerA playerB : UserId) (world : World)
    (phases : List (Handler × Notes)) : Prop where
  players : ∀ cell, world.redis (.state matchId) = some cell →
    cell.value.playerAId = playerA ∧ cell.value.playerBId = playerB
  role : ∀ entry ∈ phases, entry.2.expiring = entry.1.expires
  scores : ∀ entry ∈ phases, ∀ user score, entry.2.scores user = some score →
    world.storedScore matchId user = some score
  times : ∀ entry ∈ phases, ∀ user time, entry.2.times user = some time →
    world.storedTime matchId user = some time
  timing : ∀ user, phases.countP (fun entry => entry.2.pen = .timing user) +
    world.written (.time matchId user) ≤ world.written (.submitted matchId user)
  scoring : ∀ user, phases.countP (fun entry => entry.2.pen = .scoring user) +
    world.written (.score matchId user) ≤ world.written (.time matchId user)
  reported : ∀ user result status, (.sender user, .evaluationResult matchId result status) ∈ world.sent →
    world.storedScore matchId user = some result.score
  recorded : ∀ winner, world.db.winnerOf matchId = some winner →
    world.rules matchId playerA playerB winner

/-- The scores and times of a match that are written stay as they are. -/
structure Preserves (matchId : MatchId) (world world' : World) : Prop where
  scores : ∀ user score, world.storedScore matchId user = some score →
    world'.storedScore matchId user = some score
  times : ∀ user time, world.storedTime matchId user = some time →
    world'.storedTime matchId user = some time

theorem Preserves.rules {matchId : MatchId} {world world' : World} {playerA playerB winner : UserId}
    (preserves : Preserves matchId world world') (ruled : world.rules matchId playerA playerB winner) :
    world'.rules matchId playerA playerB winner := by
  obtain ⟨scoreA, scoreB, timeA, timeB, sawA, sawB, clockA, clockB, best⟩ := ruled
  exact ⟨scoreA, scoreB, timeA, timeB, preserves.scores _ _ sawA, preserves.scores _ _ sawB,
    preserves.times _ _ clockA, preserves.times _ _ clockB, best⟩

section Inv

variable {env : Env} {choice : Choice} {matchId : MatchId} {playerA playerB : UserId}
  {world world' : World} {phases : List (Handler × Notes)} {index : ℕ} {event : Handler} {notes : Notes}
  {op : Op} {reply : Except Err op.Reply} {key : Key}

theorem written_of_some {cell : Cell key.Val} (stored : world.redis key = some cell) :
    world.written key = 1 := by
  unfold World.written
  rw [stored]
  rfl

theorem written_eq_one_iff : world.written key = 1 ↔ ∃ cell, world.redis key = some cell := by
  unfold World.written
  cases world.redis key with
  | none => simp
  | some cell => simp

theorem written_le (world : World) (key : Key) : world.written key ≤ 1 := by
  unfold World.written
  split
  · exact le_rfl
  · exact Nat.zero_le 1

theorem written_of_eq (same : world'.redis key = world.redis key) : world'.written key = world.written key := by
  unfold World.written
  rw [same]

/-- An allowed operation that writes a score, a time or a lock of the match is the one that marks it. -/
theorem writes_of_may (may : notes.may matchId playerA playerB op) (own : key.ofMatch = some matchId)
    (writes : op.writes key = true) : (∃ value seconds, op = .set key value seconds) ∨
      ∃ value seconds, op = .setNx key value seconds := by
  unfold Op.writes at writes
  split at writes
  · obtain rfl : _ = key := by simpa using writes
    exact .inl ⟨_, _, rfl⟩
  · obtain rfl : _ = key := by simpa using writes
    exact .inr ⟨_, _, rfl⟩
  · rename_i other
    have same : other = key := by simpa using writes
    have free : other.ofMatch = none := may
    rw [same, own] at free
    cases free
  · cases writes

theorem Ruling.untimed (inv : Ruling matchId playerA playerB world phases) {user : UserId}
    (found : phases[index]? = some (event, notes)) (pen : notes.pen = .timing user) :
    world.redis (.time matchId user) = none := by
  have some : 0 < phases.countP fun entry => entry.2.pen = .timing user :=
    List.countP_pos_iff.mpr ⟨_, List.mem_of_getElem? found, by simpa using pen⟩
  have bound := (inv.timing user).trans (written_le _ _)
  by_contra stored
  obtain ⟨cell, stored⟩ := Option.ne_none_iff_exists'.mp stored
  rw [written_of_some stored] at bound
  omega

theorem Ruling.unscored (inv : Ruling matchId playerA playerB world phases) {user : UserId}
    (found : phases[index]? = some (event, notes)) (pen : notes.pen = .scoring user) :
    world.redis (.score matchId user) = none := by
  have some : 0 < phases.countP fun entry => entry.2.pen = .scoring user :=
    List.countP_pos_iff.mpr ⟨_, List.mem_of_getElem? found, by simpa using pen⟩
  have bound := (inv.scoring user).trans (written_le _ _)
  by_contra stored
  obtain ⟨cell, stored⟩ := Option.ne_none_iff_exists'.mp stored
  rw [written_of_some stored] at bound
  omega

/-- **What is written of a match stays**: a score or a time is written only where there is none. -/
theorem Ruling.preserves (inv : Ruling matchId playerA playerB world phases)
    (found : phases[index]? = some (event, notes)) (may : notes.may matchId playerA playerB op)
    (performed : op.perform env choice world = some (reply, world')) : Preserves matchId world world' := by
  constructor
  · intro user score stored
    by_cases writes : op.writes (.score matchId user) = true
    · rcases writes_of_may may rfl writes with ⟨value, seconds, rfl⟩ | ⟨value, seconds, rfl⟩
      · unfold World.storedScore at stored
        rw [inv.unscored found may.2] at stored
        cases stored
      · exact absurd may id
    · unfold World.storedScore at stored ⊢
      rwa [redis_frame performed (Bool.eq_false_iff.mpr writes)]
  · intro user time stored
    by_cases writes : op.writes (.time matchId user) = true
    · rcases writes_of_may may rfl writes with ⟨value, seconds, rfl⟩ | ⟨value, seconds, rfl⟩
      · unfold World.storedTime at stored
        rw [inv.untimed found may.2] at stored
        cases stored
      · exact absurd may id
    · unfold World.storedTime at stored ⊢
      rwa [redis_frame performed (Bool.eq_false_iff.mpr writes)]

theorem update_true {sheet stored : UserId → Option JsNum} {user : UserId} {entry : JsNum}
    (true_ : ∀ other value, sheet other = some value → stored other = some value)
    (new : stored user = some entry) (other : UserId) (value : JsNum)
    (entered : Function.update sheet user (some entry) other = some value) : stored other = some value := by
  by_cases same : other = user
  · subst same
    rw [Function.update_self] at entered
    exact new.trans entered
  · rw [Function.update_of_ne same] at entered
    exact true_ other value entered

/-- **What a handler has seen is what is stored**, after one more step too. -/
theorem Ruling.sees (inv : Ruling matchId playerA playerB world phases)
    (found : phases[index]? = some (event, notes)) (may : notes.may matchId playerA playerB op)
    (performed : op.perform env choice world = some (reply, world')) :
    (∀ user score, (notes.after op reply).scores user = some score →
      world'.storedScore matchId user = some score) ∧
    (∀ user time, (notes.after op reply).times user = some time →
      world'.storedTime matchId user = some time) := by
  have member := List.mem_of_getElem? found
  have preserves := inv.preserves found may performed
  have scores := fun user score saw => preserves.scores user score (inv.scores _ member user score saw)
  have times := fun user time saw => preserves.times user time (inv.times _ member user time saw)
  unfold Notes.after
  split
  · exact ⟨scores, times⟩
  · obtain ⟨rfl, _⟩ := may
    refine ⟨scores, update_true times ?_⟩
    unfold World.storedTime
    rw [perform_set_ok performed, withRedis_redis, Store.write_self]
    rfl
  · obtain ⟨rfl, _⟩ := may
    refine ⟨update_true scores ?_, times⟩
    unfold World.storedScore
    rw [perform_set_ok performed, withRedis_redis, Store.write_self]
    rfl
  · obtain rfl : _ = matchId := of_decide_eq_true may
    obtain ⟨read, rfl⟩ := perform_get_ok performed
    obtain ⟨cell, stored, _, rfl⟩ := Store.read_eq_some.mp read.symm
    refine ⟨update_true scores ?_, times⟩
    unfold World.storedScore
    rw [stored]
    rfl
  · obtain rfl : _ = matchId := of_decide_eq_true may
    obtain ⟨read, rfl⟩ := perform_get_ok performed
    obtain ⟨cell, stored, _, rfl⟩ := Store.read_eq_some.mp read.symm
    refine ⟨scores, update_true times ?_⟩
    unfold World.storedTime
    rw [stored]
    rfl
  · exact ⟨scores, times⟩

theorem countP_pen (found : phases[index]? = some (event, notes)) (notes' : Notes) (pen : Pen) :
    (phases.set index (event, notes')).countP (fun entry => entry.2.pen = pen) +
        (if notes.pen = pen then 1 else 0) =
      phases.countP (fun entry => entry.2.pen = pen) + (if notes'.pen = pen then 1 else 0) := by
  simpa using countP_set (p := fun entry : Handler × Notes => entry.2.pen = pen) found (event, notes')

/-- The operation takes a lock, or writes a time or a score. -/
def Op.marks : Op → Bool
  | set (.time ..) .. | set (.score ..) .. | setNx .. => true
  | _ => false

theorem pens_of_unmarked (may : notes.may matchId playerA playerB op) (unmarked : op.marks = false)
    (performed : op.perform env choice world = some (reply, world')) :
    (notes.after op reply).pen = notes.pen ∧ ∀ user,
      world'.written (.submitted matchId user) = world.written (.submitted matchId user) ∧
      world'.written (.time matchId user) = world.written (.time matchId user) ∧
      world'.written (.score matchId user) = world.written (.score matchId user) := by
  constructor
  · unfold Notes.after
    split
    all_goals first | rfl | cases unmarked
  · have unwritten : ∀ key : Key, key.ofMatch = some matchId → (∀ value seconds, notes.may matchId playerA
        playerB (.set key value seconds) → (Op.set key value seconds).marks = true) →
        world'.written key = world.written key := by
      intro key own marking
      refine written_of_eq (redis_frame performed (Bool.eq_false_iff.mpr fun writes => ?_))
      rcases writes_of_may may own writes with ⟨value, seconds, rfl⟩ | ⟨value, seconds, rfl⟩
      · rw [marking value seconds may] at unmarked
        cases unmarked
      · cases unmarked
    exact fun user => ⟨unwritten _ rfl fun _ _ may => absurd may id, unwritten _ rfl fun _ _ _ => rfl,
      unwritten _ rfl fun _ _ _ => rfl⟩

theorem written_of_none (absent : world.redis key = none) : world.written key = 0 := by
  unfold World.written
  rw [absent]
  rfl

theorem written_write (key key' : Key) (value : key.Val) (expiresAt : ℕ) :
    (world.withRedis (world.redis.write key value expiresAt)).written key' =
      if key' = key then 1 else world.written key' := by
  split
  · rename_i same
    subst same
    exact written_of_some (Store.write_self _ _ _ _)
  · rename_i other
    exact written_of_eq (Store.write_of_ne other _ _)

theorem none_of_written {key : Key} (unwritten : world.written key = 0) : world.redis key = none := by
  by_contra stored
  obtain ⟨cell, stored⟩ := Option.ne_none_iff_exists'.mp stored
  rw [written_of_some stored] at unwritten
  cases unwritten

theorem after_error (notes : Notes) (op : Op) (err : Err) : notes.after op (.error err) = notes := by
  unfold Notes.after
  split
  all_goals first | rfl | contradiction

theorem written_write_new (unwritten : world.redis key = none) (value : key.Val) (expiresAt : ℕ) (key' : Key) :
    (world.withRedis (world.redis.write key value expiresAt)).written key' =
      world.written key' + if key' = key then 1 else 0 := by
  rw [written_write]
  split
  · rename_i same
    rw [same, written_of_none unwritten]
  · rfl

/-- **The pens balance**: a handler puts down one pen and takes up another, and what it may write by the one it has
written, or was given with the lock. -/
theorem Ruling.balance (inv : Ruling matchId playerA playerB world phases)
    (found : phases[index]? = some (event, notes)) {notes' : Notes} {user : UserId} {locked timed scored : ℕ}
    (locks : world'.written (.submitted matchId user) = world.written (.submitted matchId user) + locked)
    (times : world'.written (.time matchId user) = world.written (.time matchId user) + timed)
    (scores : world'.written (.score matchId user) = world.written (.score matchId user) + scored)
    (timing : (if notes'.pen = .timing user then 1 else 0) + timed ≤
      (if notes.pen = .timing user then 1 else 0) + locked)
    (scoring : (if notes'.pen = .scoring user then 1 else 0) + scored ≤
      (if notes.pen = .scoring user then 1 else 0) + timed) :
    (phases.set index (event, notes')).countP (fun entry => entry.2.pen = .timing user) +
      world'.written (.time matchId user) ≤ world'.written (.submitted matchId user) ∧
    (phases.set index (event, notes')).countP (fun entry => entry.2.pen = .scoring user) +
      world'.written (.score matchId user) ≤ world'.written (.time matchId user) := by
  have timers := countP_pen found notes' (.timing user)
  have scorers := countP_pen found notes' (.scoring user)
  have timed := inv.timing user
  have scored := inv.scoring user
  omega

theorem Ruling.balance_same (inv : Ruling matchId playerA playerB world phases)
    (found : phases[index]? = some (event, notes)) {notes' : Notes} {user : UserId} (pen : notes'.pen = notes.pen)
    (locks : world'.written (.submitted matchId user) = world.written (.submitted matchId user))
    (times : world'.written (.time matchId user) = world.written (.time matchId user))
    (scores : world'.written (.score matchId user) = world.written (.score matchId user)) :
    (phases.set index (event, notes')).countP (fun entry => entry.2.pen = .timing user) +
      world'.written (.time matchId user) ≤ world'.written (.submitted matchId user) ∧
    (phases.set index (event, notes')).countP (fun entry => entry.2.pen = .scoring user) +
      world'.written (.score matchId user) ≤ world'.written (.time matchId user) := by
  refine inv.balance found (Eq.trans locks (Nat.add_zero _).symm) (Eq.trans times (Nat.add_zero _).symm)
    (Eq.trans scores (Nat.add_zero _).symm) ?_ ?_
  · rw [pen]
  · rw [pen]

/-- **A lock stands for one time, a time for one score**, over one step that tries no expired lock. -/
theorem Ruling.pens (inv : Ruling matchId playerA playerB world phases)
    (found : phases[index]? = some (event, notes)) (may : notes.may matchId playerA playerB op)
    (performed : op.perform env choice world = some (reply, world'))
    (current : ∀ key value seconds, op = .setNx key value seconds → world.current key = true)
    (user : UserId) :
    (phases.set index (event, notes.after op reply)).countP (fun entry => entry.2.pen = .timing user) +
      world'.written (.time matchId user) ≤ world'.written (.submitted matchId user) ∧
    (phases.set index (event, notes.after op reply)).countP (fun entry => entry.2.pen = .scoring user) +
      world'.written (.score matchId user) ≤ world'.written (.time matchId user) := by
  by_cases marked : op.marks = true
  · cases reply with
    | error err =>
      rw [after_error, perform_error performed]
      exact inv.balance_same found rfl rfl rfl rfl
    | ok value =>
      unfold Op.marks at marked
      split at marked
      · -- the time of a user is written by who took the lock
        obtain ⟨rfl, pen⟩ := may
        have written := written_write_new (inv.untimed found pen)
        rw [perform_set_ok performed]
        refine inv.balance found (written _ _ _) (written _ _ _) (written _ _ _) ?_ ?_
        · simp [pen, Notes.after, eq_comm]
        · simp [pen, Notes.after, eq_comm]
      · -- the score of a user is written by who wrote the time
        obtain ⟨rfl, pen⟩ := may
        have written := written_write_new (inv.unscored found pen)
        rw [perform_set_ok performed]
        refine inv.balance found (written _ _ _) (written _ _ _) (written _ _ _) ?_ ?_
        · simp [pen, Notes.after, eq_comm]
        · simp [pen, Notes.after, eq_comm]
      · -- a lock that is taken has not been taken before
        rename_i key entry seconds
        cases key
        case submitted matchId' taker =>
          obtain rfl : matchId' = matchId := may
          rcases perform_setNx_ok performed with ⟨rfl, _, rfl⟩ | ⟨rfl, unread, rfl⟩
          · exact inv.balance_same found rfl rfl rfl rfl
          · have free : world.redis (.submitted matchId' taker) = none := by
              simpa [World.current, unread] using current _ _ _ rfl
            have written := written_write_new free
            refine inv.balance found (written _ _ _) (written _ _ _) (written _ _ _) ?_ ?_
            · simp [Notes.after, eq_comm]
            · simp [Notes.after, eq_comm]
        all_goals exact absurd may id
      · cases marked
  · obtain ⟨pen, same⟩ := pens_of_unmarked may (Bool.eq_false_iff.mpr marked) performed
    obtain ⟨locks, times, scores⟩ := same user
    exact inv.balance_same found pen locks times scores

/-- What is reported of the evaluations is what was seen. -/
theorem Ruling.reports (inv : Ruling matchId playerA playerB world phases)
    (found : phases[index]? = some (event, notes)) (may : notes.may matchId playerA playerB op)
    (performed : op.perform env choice world = some (reply, world')) {user : UserId} {result : EvalResult}
    {status : EvalStatus} (sent : (.sender user, .evaluationResult matchId result status) ∈ world'.sent) :
    world.storedScore matchId user = some result.score := by
  rcases sent_frame performed with same | ⟨room, message, rfl, grown⟩
  · rw [same] at sent
    exact inv.reported user result status sent
  · rw [grown] at sent
    rcases List.mem_append.mp sent with old | new
    · exact inv.reported user result status old
    · cases List.mem_singleton.mp new
      exact inv.scores _ (List.mem_of_getElem? found) user result.score may

/-- What a handler has seen rules is ruled by what is stored. -/
theorem Ruling.rules (inv : Ruling matchId playerA playerB world phases)
    (found : phases[index]? = some (event, notes)) {winner : UserId}
    (ruled : notes.rules playerA playerB winner) : world.rules matchId playerA playerB winner := by
  have member := List.mem_of_getElem? found
  obtain ⟨scoreA, scoreB, timeA, timeB, sawA, sawB, clockA, clockB, best⟩ := ruled
  exact ⟨scoreA, scoreB, timeA, timeB, inv.scores _ member _ _ sawA, inv.scores _ member _ _ sawB,
    inv.times _ member _ _ clockA, inv.times _ member _ _ clockB, best⟩

theorem winnerOf_complete {sql : Query} {pick : ℕ} {reply : sql.Reply} {db db' : Db} {best winner : UserId}
    {scoreA scoreB timeA timeB : JsNum} (complete : sql = .completeMatch matchId best scoreA scoreB timeA timeB)
    (ran : sql.exec pick db = .ok (reply, db')) (recorded : db'.winnerOf matchId = some winner) :
    winner = best := by
  subst complete
  cases timeA with
  | nan => cases ran
  | int timeA =>
    cases timeB with
    | nan => cases ran
    | int timeB =>
      cases ran
      unfold Db.winnerOf at recorded
      rw [updateMatch_self, Option.bind_map] at recorded
      cases found : db.matches_ matchId with
      | none =>
        rw [found] at recorded
        cases recorded
      | some row =>
        rw [found] at recorded
        cases recorded
        rfl

/-- The winner that is recorded is the one by the rules. -/
theorem Ruling.records (inv : Ruling matchId playerA playerB world phases)
    (found : phases[index]? = some (event, notes)) (may : notes.may matchId playerA playerB op)
    (performed : op.perform env choice world = some (reply, world')) {winner : UserId}
    (recorded : world'.db.winnerOf matchId = some winner) : world.rules matchId playerA playerB winner := by
  by_cases rewrites : op.rewrites matchId = true
  · cases reply with
    | error err =>
      rw [perform_error performed] at recorded
      exact inv.recorded winner recorded
    | ok value =>
      unfold Op.rewrites at rewrites
      split at rewrites
      · rename_i matchId'
        obtain rfl : matchId' = matchId := by simpa using rewrites
        obtain ⟨pick, db', ran, rfl⟩ := perform_query_ok performed
        cases ran
        refine inv.recorded winner ?_
        unfold Db.winnerOf at recorded ⊢
        rw [withDb_db, updateMatch_self, Option.bind_map] at recorded
        exact recorded
      · rename_i matchId' best scoreA scoreB timeA timeB
        obtain rfl : matchId' = matchId := by simpa using rewrites
        obtain ⟨pick, db', ran, rfl⟩ := perform_query_ok performed
        rw [winnerOf_complete rfl ran recorded]
        exact inv.rules found may
      · exact absurd may id
      · cases rewrites
  · unfold Db.winnerOf at recorded
    rw [matches_frame performed (Bool.eq_false_iff.mpr rewrites)] at recorded
    exact inv.recorded winner recorded

theorem Ruling.names (inv : Ruling matchId playerA playerB world phases)
    (may : notes.may matchId playerA playerB op)
    (performed : op.perform env choice world = some (reply, world')) {cell : Cell MatchState}
    (stored : world'.redis (.state matchId) = some cell) :
    cell.value.playerAId = playerA ∧ cell.value.playerBId = playerB := by
  by_cases writes : op.writes (.state matchId) = true
  · cases reply with
    | error err =>
      rw [perform_error performed] at stored
      exact inv.players cell stored
    | ok value =>
      rcases writes_of_may may rfl writes with ⟨matchState, seconds, rfl⟩ | ⟨matchState, seconds, rfl⟩
      · rw [perform_set_ok performed, withRedis_redis, Store.write_self] at stored
        cases stored
        exact may
      · exact absurd may id
  · rw [redis_frame performed (Bool.eq_false_iff.mpr writes)] at stored
    exact inv.players cell stored

theorem after_expiring (notes : Notes) (op : Op) (reply : Except Err op.Reply) :
    (notes.after op reply).expiring = notes.expiring := by
  unfold Notes.after
  split
  all_goals rfl

/-- **One step keeps the invariant**, if it tries no expired lock. -/
theorem Ruling.step (inv : Ruling matchId playerA playerB world phases)
    (found : phases[index]? = some (event, notes)) (may : notes.may matchId playerA playerB op)
    (performed : op.perform env choice world = some (reply, world'))
    (current : ∀ key value seconds, op = .setNx key value seconds → world.current key = true) :
    Ruling matchId playerA playerB world' (phases.set index (event, notes.after op reply)) := by
  have preserves := inv.preserves found may performed
  obtain ⟨sees, clocks⟩ := inv.sees found may performed
  have pens := inv.pens found may performed current
  refine ⟨fun cell stored => inv.names may performed stored, fun entry inside => ?_,
    fun entry inside => ?_, fun entry inside => ?_, fun user => (pens user).1, fun user => (pens user).2,
    fun user result status sent => preserves.scores _ _ (inv.reports found may performed sent),
    fun winner recorded => preserves.rules (inv.records found may performed recorded)⟩
  · rcases List.mem_or_eq_of_mem_set inside with old | rfl
    · exact inv.role entry old
    · exact (after_expiring notes op reply).trans (inv.role _ (List.mem_of_getElem? found))
  · rcases List.mem_or_eq_of_mem_set inside with old | rfl
    · exact fun user score saw => preserves.scores user score (inv.scores entry old user score saw)
    · exact sees
  · rcases List.mem_or_eq_of_mem_set inside with old | rfl
    · exact fun user time saw => preserves.times user time (inv.times entry old user time saw)
    · exact clocks

theorem Ruling.append (inv : Ruling matchId playerA playerB world phases) (event : Handler) :
    Ruling matchId playerA playerB world (phases ++ [(event, { expiring := event.expires })]) := by
  refine ⟨inv.players, fun entry inside => ?_, fun entry inside => ?_, fun entry inside => ?_,
    fun user => ?_, fun user => ?_, inv.reported, inv.recorded⟩
  · rcases List.mem_append.mp inside with old | new
    · exact inv.role entry old
    · cases List.mem_singleton.mp new
      rfl
  · rcases List.mem_append.mp inside with old | new
    · exact inv.scores entry old
    · cases List.mem_singleton.mp new
      exact nofun
  · rcases List.mem_append.mp inside with old | new
    · exact inv.times entry old
    · cases List.mem_singleton.mp new
      exact nofun
  · simpa [List.countP_append] using inv.timing user
  · simpa [List.countP_append] using inv.scoring user

/-- What leaves the keys, the reports and the winner of the match keeps the invariant. -/
theorem Ruling.of_same (inv : Ruling matchId playerA playerB world phases)
    (redis : ∀ key : Key, key.ofMatch = some matchId → world'.redis key = world.redis key)
    (sent : ∀ room result status, (room, .evaluationResult matchId result status) ∈ world'.sent →
      (room, .evaluationResult matchId result status) ∈ world.sent)
    (winner : world'.db.winnerOf matchId = world.db.winnerOf matchId) :
    Ruling matchId playerA playerB world' phases := by
  have scores : ∀ user, world'.storedScore matchId user = world.storedScore matchId user := fun user => by
    unfold World.storedScore
    rw [redis _ rfl]
  have times : ∀ user, world'.storedTime matchId user = world.storedTime matchId user := fun user => by
    unfold World.storedTime
    rw [redis _ rfl]
  have preserves : Preserves matchId world world' :=
    ⟨fun user _ stored => (scores user).trans stored, fun user _ stored => (times user).trans stored⟩
  refine ⟨fun cell stored => inv.players cell ((redis _ rfl).symm.trans stored), inv.role,
    fun entry inside user score saw => preserves.scores _ _ (inv.scores entry inside user score saw),
    fun entry inside user time saw => preserves.times _ _ (inv.times entry inside user time saw),
    fun user => ?_, fun user => ?_,
    fun user result status report => preserves.scores _ _ (inv.reported user result status (sent _ _ _ report)),
    fun best recorded => preserves.rules (inv.recorded best (winner.symm.trans recorded))⟩
  · rw [written_of_eq (redis _ rfl), written_of_eq (redis _ rfl)]
    exact inv.timing user
  · rw [written_of_eq (redis _ rfl), written_of_eq (redis _ rfl)]
    exact inv.scoring user

end Inv

/-! ### The run -/

/-- A score or a time. -/
def Key.graded : Key → Bool
  | score .. | time .. => true
  | _ => false

def Key.isScore : Key → Bool
  | score .. => true
  | _ => false

/-- The operation leaves the keys, the row and the reports of a match. -/
def Op.sparesMatch (matchId : MatchId) (op : Op) : Bool :=
  !op.rewrites matchId && match op with
    | set key _ _ | setNx key _ _ | del key => key.ofMatch ≠ some matchId
    | emit _ (.evaluationResult matchId' _ _) => matchId' ≠ matchId
    | _ => true

/-- **The condition on a run** of submissions and timers of a match, any number of them: no score, no time
and no lock is looked at after it has expired, and the timer reads no score that has not been written.
Everything else that happens leaves the match alone. -/
def inTime (matchId : MatchId) (c : BackendConfig) : BackendMove → Bool
  | .start (.codeSubmit _ matchId' _ _) => matchId' = matchId
  | .start (.timerExpiry matchId' _) => matchId' = matchId
  | .start _ => false
  | .step index _ =>
    match c.threads[index]? with
    | some (event, prog) => match prog.head with
      | some (.get key) => !key.graded ||
        (c.state.current key && (!(event.expires && key.isScore) || (c.state.redis key).isSome))
      | some (.setNx key _ _) => c.state.current key
      | _ => true
    | none => true
  | .outside (.tick _) => true
  | .outside (.act _ op) => op.sparesMatch matchId

section Run

variable {env : Env} {choice : Choice} {matchId : MatchId} {playerA playerB : UserId} {c : BackendConfig}
  {world' : World} {phases : List (Handler × Notes)} {index : ℕ} {event : Handler} {notes : Notes}
  {op : Op} {next : signature.Reply op → Prog signature Unit} {reply : Except Err op.Reply}

/-- What a handler relies on holds under the invariant and the condition. -/
theorem Ruling.answers (inv : Ruling matchId playerA playerB c.state phases)
    (inPhase : phases[index]? = some (event, notes)) (may : notes.may matchId playerA playerB op)
    (found : c.threads[index]? = some (event, .await op next))
    (timely : inTime matchId c (.step index choice) = true)
    (performed : op.perform env choice c.state = some (reply, world')) :
    notes.answers playerA playerB op reply := by
  have member := List.mem_of_getElem? inPhase
  simp only [inTime, found, Prog.head_await] at timely
  unfold Notes.answers
  split
  · obtain rfl : _ = matchId := of_decide_eq_true may
    obtain ⟨read, _⟩ := perform_get_ok performed
    obtain ⟨cell, stored, _, rfl⟩ := Store.read_eq_some.mp read.symm
    exact inv.players cell stored
  · -- a score that was seen, or that the timer must find, is written and has not expired
    rename_i matchId' user stored
    obtain rfl : matchId = matchId' := (of_decide_eq_true may).symm
    obtain ⟨read, _⟩ := perform_get_ok performed
    obtain ⟨current, awaited⟩ : c.state.current (.score matchId user) = true ∧
        (event.expires = true → (c.state.redis (.score matchId user)).isSome = true) := by
      simp only [Key.graded, Key.isScore, Bool.not_true, Bool.false_or, Bool.and_true, Bool.and_eq_true,
        Bool.or_eq_true, Bool.not_eq_true'] at timely
      exact ⟨timely.1, fun expires => timely.2.resolve_left (by rw [expires]; nofun)⟩
    refine ⟨fun expiring _ => ?_, fun score saw => ?_⟩
    · obtain ⟨cell, written⟩ := Option.isSome_iff_exists.mp (awaited (inv.role _ member ▸ expiring))
      rw [read, read_of_current current written]
      rfl
    · obtain ⟨cell, written, rfl⟩ := Option.map_eq_some_iff.mp (inv.scores _ member user score saw)
      rw [read, read_of_current current written]
  · -- the time of a score that was seen is written before it
    rename_i matchId' user stored
    obtain rfl : matchId = matchId' := (of_decide_eq_true may).symm
    obtain ⟨read, _⟩ := perform_get_ok performed
    have current : c.state.current (.time matchId user) = true := by
      simpa [Key.graded, Key.isScore] using timely
    refine ⟨fun seen => ?_, fun time saw => ?_⟩
    · obtain ⟨score, saw⟩ := Option.isSome_iff_exists.mp seen
      obtain ⟨cell, scored, _⟩ := Option.map_eq_some_iff.mp (inv.scores _ member user score saw)
      have bound := inv.scoring user
      rw [written_of_some scored] at bound
      have timed : c.state.written (.time matchId user) = 1 := by
        have le := written_le c.state (.time matchId user)
        omega
      obtain ⟨cell, written⟩ := written_eq_one_iff.mp timed
      rw [read, read_of_current current written]
      rfl
    · obtain ⟨cell, written, rfl⟩ := Option.map_eq_some_iff.mp (inv.times _ member user time saw)
      rw [read, read_of_current current written]
  · trivial

theorem Ruling.outside {world : World} (inv : Ruling matchId playerA playerB world phases)
    (spares : op.sparesMatch matchId = true)
    (performed : op.perform env choice world = some (reply, world')) :
    Ruling matchId playerA playerB world' phases := by
  obtain ⟨rewrites, spares⟩ := Bool.and_eq_true_iff.mp spares
  refine inv.of_same (fun key own => redis_frame performed ?_) (fun room result status sent => ?_) ?_
  · refine Bool.eq_false_iff.mpr fun writes => ?_
    unfold Op.writes at writes
    split at writes
    · obtain rfl : key = _ := (of_decide_eq_true writes).symm
      exact of_decide_eq_true spares own
    · obtain rfl : key = _ := (of_decide_eq_true writes).symm
      exact of_decide_eq_true spares own
    · obtain rfl : key = _ := (of_decide_eq_true writes).symm
      exact of_decide_eq_true spares own
    · cases writes
  · rcases sent_frame performed with same | ⟨room', message, rfl, grown⟩
    · rwa [same] at sent
    · rw [grown] at sent
      rcases List.mem_append.mp sent with old | new
      · exact old
      · cases List.mem_singleton.mp new
        exact absurd rfl (of_decide_eq_true spares)
  · unfold Db.winnerOf
    rw [matches_frame performed (by simpa using rewrites)]

theorem forks_of_may (may : notes.may matchId playerA playerB op) : op.forks = [] := by
  cases op
  case fork => exact absurd may id
  all_goals rfl

/-- The contract and the invariant of the rules, over the submissions and timers of the match. -/
def rulingDiscipline (env : Env) (matchId : MatchId) {playerA playerB : UserId} (distinct : playerA ≠ playerB) :
    Discipline (backend env) (fun c move => inTime matchId c move = true)
      (ruling matchId playerA playerB) where
  enter event := { expiring := event.expires }
  finished _ := True
  Inv := Ruling matchId playerA playerB
  keeps c event timely := by
    refine (Task.keeps_run _ _ _).mpr ?_
    cases event
    case codeSubmit user matchId' language code =>
      obtain rfl : matchId' = matchId := of_decide_eq_true timely
      exact codeSubmit_ruling distinct user language code
    case timerExpiry matchId' dueAt =>
      obtain rfl : matchId' = matchId := of_decide_eq_true timely
      exact handleTimerExpiry_ruling distinct dueAt
    all_goals cases timely
  start c phases event state _ inv timely arrived := by
    have same : state = c.state := by
      cases event
      case codeSubmit => exact (Option.some.inj arrived).symm
      case timerExpiry => exact (Option.some.inj arrived).symm
      all_goals cases timely
    rw [same]
    exact inv.append event
  step c phases index choice event op next notes reply state _ inv timely found inPhase may performed := by
    have alone : (backend env).forks op = [] := forks_of_may may
    refine ⟨inv.answers inPhase may found timely performed, ?_, ?_⟩
    · rw [alone]
      exact nofun
    · rw [alone, List.map_nil, List.append_nil]
      refine inv.step inPhase may performed ?_
      rintro key value seconds rfl
      simpa only [inTime, found, Prog.head_await] using timely
  outside c phases act state _ inv timely acted := by
    cases act with
    | tick ms =>
      cases acted
      exact inv.of_same (fun _ _ => rfl) (fun _ _ _ sent => sent) rfl
    | act choice op =>
      obtain ⟨⟨reply, state'⟩, performed, rfl⟩ := Option.map_eq_some_iff.mp acted
      exact inv.outside timely performed

end Run

/-- **The rules**: the higher score wins, on equal scores the smaller time, on equal times player A. -/
def ByTheRules (playerA playerB : UserId) (scoreA scoreB timeA timeB : JsNum) (winner : UserId) : Prop :=
  (scoreA.gt scoreB = true → winner = playerA) ∧ (scoreB.gt scoreA = true → winner = playerB) ∧
    (scoreA = scoreB → (timeA.le timeB = true → winner = playerA) ∧
      (timeA.gt timeB = true → winner = playerB))

theorem ruledWinner_byTheRules (playerA playerB : UserId) (scoreA scoreB timeA timeB : JsNum) :
    ByTheRules playerA playerB scoreA scoreB timeA timeB
      (ruledWinner playerA playerB scoreA scoreB timeA timeB) := by
  unfold ruledWinner
  refine ⟨fun higher => if_pos higher, fun higher => ?_, fun equal => ⟨fun le => ?_, fun later => ?_⟩⟩
  · rw [if_neg (by rw [JsNum.not_gt_of_gt higher]; nofun), if_pos higher]
  · rw [equal, JsNum.gt_self, if_neg nofun, if_neg nofun, if_pos le]
  · rw [equal, JsNum.gt_self, if_neg nofun, if_neg nofun, if_neg (by rw [JsNum.not_le_of_gt later]; nofun)]

/-- **The recorded winner is the one by the rules**: along every run of submissions and timers of the match
that meets the condition, whatever fails and however long an evaluation takes, once `evaluateCode` has
returned for both players and a winner is recorded. -/
theorem winner_by_the_rules (env : Env) (matchId : MatchId) {playerA playerB : UserId}
    (distinct : playerA ≠ playerB) {c₀ c : BackendConfig} (idle : c₀.threads = [])
    (players : ∀ cell, c₀.state.redis (.state matchId) = some cell →
      cell.value.playerAId = playerA ∧ cell.value.playerBId = playerB)
    (unplayed : ∀ user, c₀.state.redis (.submitted matchId user) = none ∧
      c₀.state.redis (.time matchId user) = none ∧ c₀.state.redis (.score matchId user) = none)
    (unreported : ∀ room result status, (room, .evaluationResult matchId result status) ∉ c₀.state.sent)
    (undecided : c₀.state.db.winnerOf matchId = none)
    (run : Reaches (backend env) (fun c move => inTime matchId c move = true) c₀ c)
    {resultA resultB : EvalResult} {statusA statusB : EvalStatus} {winner : UserId}
    (evaluatedA : (.sender playerA, .evaluationResult matchId resultA statusA) ∈ c.state.sent)
    (evaluatedB : (.sender playerB, .evaluationResult matchId resultB statusB) ∈ c.state.sent)
    (recorded : c.state.db.winnerOf matchId = some winner) :
    ∃ timeA timeB, c.state.storedTime matchId playerA = some timeA ∧
      c.state.storedTime matchId playerB = some timeB ∧
      ByTheRules playerA playerB resultA.score resultB.score timeA timeB winner := by
  have initial : Ruling matchId playerA playerB c₀.state [] := by
    refine ⟨players, List.forall_mem_nil _, List.forall_mem_nil _, List.forall_mem_nil _,
      fun user => ?_, fun user => ?_, fun user result status sent => absurd sent (unreported _ _ _),
      fun winner recorded => ?_⟩
    · simp [written_of_none (unplayed user).2.1]
    · simp [written_of_none (unplayed user).2.2]
    · rw [undecided] at recorded
      cases recorded
  obtain ⟨_, _, inv⟩ := (rulingDiscipline env matchId distinct).holds ⟨[], tracks_nil idle, initial⟩ run
  obtain ⟨scoreA, scoreB, timeA, timeB, storedA, storedB, timedA, timedB, rfl⟩ := inv.recorded winner recorded
  have scoredA := inv.reported playerA resultA statusA evaluatedA
  have scoredB := inv.reported playerB resultB statusB evaluatedB
  cases storedA.symm.trans scoredA
  cases storedB.symm.trans scoredB
  exact ⟨timeA, timeB, timedA, timedB, ruledWinner_byTheRules _ _ _ _ _ _⟩

/-! ### A score that comes too late -/

/-- The moves of the submissions of two players and the timer of a match, without a failure. -/
def contested (matchId : MatchId) (playerA playerB : UserId) : BackendMove → Bool
  | .start (.codeSubmit user matchId' _ _) => matchId' = matchId && (user = playerA || user = playerB)
  | .start (.timerExpiry matchId' _) => matchId' = matchId
  | .start _ => false
  | .step _ choice => choice.smooth
  | .outside (.tick _) => true
  | .outside (.act ..) => false

/-- A verdict of so many points, of two tests. -/
def points (score : ℤ) (passed : ℕ) (status : EvalStatus) : EvalResult :=
  { score := .int score, passed, total := 2, status }

/-- The submission of a player, up to its evaluation. -/
def submits (index : ℕ) (user : UserId) : List BackendMove :=
  .start (.codeSubmit user 7 (.str ['c']) (.str ['x'])) :: List.replicate 13 (.step index .proceed)

/-- Player 1 gets fifty points. Player 2 submits a second before the end, the timer decides three seconds
later, and only then the evaluation of player 2 returns a hundred. -/
def lateEvaluation : List BackendMove :=
  submits 0 1 ++ .step 0 (.verdict (points 50 1 .partialScore)) :: List.replicate 6 (.step 0 .proceed) ++
    .outside (.tick 1799000) :: submits 1 2 ++ [.outside (.tick 3000), .start (.timerExpiry 7 1802000)] ++
    List.replicate 17 (.step 2 .proceed) ++
    .step 1 (.verdict (points 100 2 .accepted)) :: List.replicate 3 (.step 1 .proceed)

/-- **A submission in time loses against a lower score**: the timer reads the score that is still being
evaluated as zero. -/
theorem late_score_loses : (∀ timeA timeB, ¬ ByTheRules 1 2 (.int 50) (.int 100) timeA timeB 1) ∧
    ∃ c, Reaches (backend sampleEnv) (fun _ move => contested 7 1 2 move = true) ⟨matchedOnce, []⟩ c ∧
      (.sender 1, .evaluationResult 7 (points 50 1 .partialScore) .partialScore) ∈ c.state.sent ∧
      (.sender 2, .evaluationResult 7 (points 100 2 .accepted) .accepted) ∈ c.state.sent ∧
      c.state.db.winnerOf 7 = some 1 := by
  obtain ⟨c, run, ended⟩ := Machine.exists_run (backend sampleEnv) (fun _ move => contested 7 1 2 move)
    ⟨matchedOnce, []⟩ lateEvaluation (fun c =>
      (.sender 1, .evaluationResult 7 (points 50 1 .partialScore) .partialScore) ∈ c.state.sent ∧
      (.sender 2, .evaluationResult 7 (points 100 2 .accepted) .accepted) ∈ c.state.sent ∧
      c.state.db.winnerOf 7 = some 1) (by decide +kernel)
  refine ⟨fun timeA timeB rules => ?_, c, run, by simpa using ended⟩
  cases rules.2.1 rfl

/-- Both players are evaluated before the end. -/
def evaluatedInTime : List BackendMove :=
  submits 0 1 ++ .step 0 (.verdict (points 50 1 .partialScore)) :: List.replicate 6 (.step 0 .proceed) ++
    .outside (.tick 1000) :: submits 1 2 ++
    .step 1 (.verdict (points 100 2 .accepted)) :: List.replicate 19 (.step 1 .proceed)

theorem winner_by_the_rules_in_time : ∃ c timeA timeB, Reaches (backend sampleEnv)
    (fun c move => inTime 7 c move = true) ⟨matchedOnce, []⟩ c ∧ c.state.db.winnerOf 7 = some 2 ∧
      c.state.storedTime 7 1 = some timeA ∧ c.state.storedTime 7 2 = some timeB ∧
      ByTheRules 1 2 (.int 50) (.int 100) timeA timeB 2 := by
  obtain ⟨c, run, ended⟩ := Machine.exists_run (backend sampleEnv) (inTime 7) ⟨matchedOnce, []⟩
    evaluatedInTime (fun c =>
      (.sender 1, .evaluationResult 7 (points 50 1 .partialScore) .partialScore) ∈ c.state.sent ∧
      (.sender 2, .evaluationResult 7 (points 100 2 .accepted) .accepted) ∈ c.state.sent ∧
      c.state.db.winnerOf 7 = some 2) (by decide +kernel)
  obtain ⟨first, second, recorded⟩ := of_decide_eq_true ended
  have idle : (⟨matchedOnce, []⟩ : BackendConfig).threads = [] := rfl
  have players : ∀ cell, matchedOnce.redis (.state 7) = some cell →
      cell.value.playerAId = 1 ∧ cell.value.playerBId = 2 := by
    rintro cell stored
    cases stored
    exact ⟨rfl, rfl⟩
  have unplayed : ∀ user, matchedOnce.redis (.submitted 7 user) = none ∧
      matchedOnce.redis (.time 7 user) = none ∧ matchedOnce.redis (.score 7 user) = none :=
    fun user => ⟨rfl, rfl, rfl⟩
  obtain ⟨timeA, timeB, timedA, timedB, rules⟩ := winner_by_the_rules sampleEnv 7 (by decide) idle players
    unplayed (fun _ _ _ => List.not_mem_nil) (by decide +kernel) run first second recorded
  exact ⟨c, timeA, timeB, run, recorded, timedA, timedB, rules⟩

end SkillArena
