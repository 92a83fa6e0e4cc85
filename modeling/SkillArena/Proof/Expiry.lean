/-
**The decision at the end of the time.**

`handleTimerExpiry` reads the scores and the times of both players and resolves the match for one of them. Meant is
an order (`orderedWinner`): the higher score, then who has submitted before who has not, then the smaller time, then
player A. The code writes the time of a player who has not submitted as 999999, and a match lasts 1800000
milliseconds, so a player who submits after 999999 milliseconds is behind one who never does
(`absent_player_wins`). `expiry_ordered_iff` says exactly when the order is kept.
-/

import SkillArena.Proof.Solo
import SkillArena.Proof.Winner

namespace SkillArena

open Async Expiring

/-- **The order** of two players by what is stored of them; an absent score counts as 0. -/
def orderedWinner (playerA playerB : UserId) (scoreA scoreB : Option JsNum) (timeA timeB : Option ℕ) : UserId :=
  if (numberOr 0 scoreA).gt (numberOr 0 scoreB) then playerA
  else if (numberOr 0 scoreB).gt (numberOr 0 scoreA) then playerB
  else
    match timeA, timeB with
    | some timeA, some timeB => if timeA ≤ timeB then playerA else playerB
    | none, some _ => playerB
    | _, none => playerA

/-- Neither score is higher. -/
def levelScores (scoreA scoreB : Option JsNum) : Bool :=
  !(numberOr 0 scoreA).gt (numberOr 0 scoreB) && !(numberOr 0 scoreB).gt (numberOr 0 scoreA)

/-- The one player who has submitted did so too late to be ahead of the time written for the other. -/
def overtakenByAbsent : Option ℕ → Option ℕ → Bool
  | some timeA, none => 999999 < timeA
  | none, some timeB => 999999 ≤ timeB
  | _, _ => false

/-- A stored time, as Redis has it. -/
def storedMs (time : Option ℕ) : Option JsNum := time.map fun ms => .int ms

/-- The winner and the loser that `handleTimerExpiry` passes on. -/
def selectedAtExpiry (world : World) (matchId : MatchId) (matchState : MatchState) : UserId × UserId :=
  decideAtExpiry matchState
    (numberOr 0 (world.redis.read world.now (.score matchId matchState.playerAId)))
    (numberOr 0 (world.redis.read world.now (.score matchId matchState.playerBId)))
    (numberOr 999999 (world.redis.read world.now (.time matchId matchState.playerAId)))
    (numberOr 999999 (world.redis.read world.now (.time matchId matchState.playerBId)))

/-- The end of the time, once the winner is selected. -/
def resolveAtExpiry (matchId : MatchId) (selected : UserId × UserId) : Promise Unit :=
  Task.attempt
    (do
      emit (.matchRoom matchId) (.timeUp matchId)
      resolveMatch matchId selected.1 selected.2 .timeUp)
    fun _ => pure ()

section Decision

variable {env : Env} {world : World} {matchId : MatchId} {matchState : MatchState}

/-- **`handleTimerExpiry` by itself** does what `resolveMatch` does for the players it selects. -/
theorem handleTimerExpiry_resolves {dueAt : ℕ} (due : dueAt ≤ world.now)
    (stored : world.redis.read world.now (.state matchId) = some matchState)
    (inProgress : matchState.status = .inProgress) (post : Except Err Unit → World → Prop) :
    (handleTimerExpiry matchId dueAt).Ensures (unfailing env) world post ↔
      (resolveAtExpiry matchId (selectedAtExpiry world matchId matchState)).Ensures (unfailing env) world post := by
  have works := unfailing_works env
  have slept : (Op.sleepUntil dueAt).proceed env .proceed world = some (.ok (), world) := if_pos due
  refine (works.call_bind rfl slept).trans ((Task.ensures_attempt _ _ _ _).trans ?_)
  refine Iff.trans ?_ (Task.ensures_attempt _ _ _ _).symm
  refine works.get_bind.trans ?_
  rw [stored]
  dsimp only
  rw [if_neg (not_not.mpr inProgress)]
  rw [works.readScore_bind, works.readScore_bind, works.readTime_bind, works.readTime_bind]
  rfl

theorem numberOr_storedMs (time : Option ℕ) : numberOr 999999 (storedMs time) = .int (time.getD 999999 : ℕ) := by
  cases time with
  | none => rfl
  | some ms => rfl

/-- The selection on level scores: by the times, with 999999 for an absent one. -/
theorem ruledWinner_level {playerA playerB : UserId} {scoreA scoreB : JsNum} (levelA : ¬ scoreA.gt scoreB = true)
    (levelB : ¬ scoreB.gt scoreA = true) (timeA timeB : Option ℕ) :
    ruledWinner playerA playerB scoreA scoreB (numberOr 999999 (storedMs timeA))
        (numberOr 999999 (storedMs timeB)) =
      if timeA.getD 999999 ≤ timeB.getD 999999 then playerA else playerB := by
  unfold ruledWinner
  rw [if_neg levelA, if_neg levelB, numberOr_storedMs, numberOr_storedMs]
  simp

/-- **The order is kept exactly if nobody submits after the time written for the absent**: for all scores and times
stored at the end, `handleTimerExpiry` resolves the match for the players it selects, and these are in order unless,
on level scores, the one who has submitted did so too late. -/
theorem expiry_ordered_iff (env : Env) {dueAt : ℕ} (due : dueAt ≤ world.now)
    (stored : world.redis.read world.now (.state matchId) = some matchState)
    (inProgress : matchState.status = .inProgress) (distinct : matchState.playerAId ≠ matchState.playerBId)
    {scoreA scoreB : Option JsNum} {timeA timeB : Option ℕ}
    (scoredA : world.redis.read world.now (.score matchId matchState.playerAId) = scoreA)
    (scoredB : world.redis.read world.now (.score matchId matchState.playerBId) = scoreB)
    (timedA : world.redis.read world.now (.time matchId matchState.playerAId) = storedMs timeA)
    (timedB : world.redis.read world.now (.time matchId matchState.playerBId) = storedMs timeB) :
    (∀ post, (handleTimerExpiry matchId dueAt).Ensures (unfailing env) world post ↔
      (resolveAtExpiry matchId (selectedAtExpiry world matchId matchState)).Ensures (unfailing env) world post) ∧
    ((selectedAtExpiry world matchId matchState).1 =
        orderedWinner matchState.playerAId matchState.playerBId scoreA scoreB timeA timeB ↔
      ¬ (levelScores scoreA scoreB = true ∧ overtakenByAbsent timeA timeB = true)) := by
  refine ⟨handleTimerExpiry_resolves due stored inProgress, ?_⟩
  unfold selectedAtExpiry orderedWinner levelScores
  rw [scoredA, scoredB, timedA, timedB, decideAtExpiry_eq]
  by_cases higherA : (numberOr 0 scoreA).gt (numberOr 0 scoreB) = true
  · simp [ruledWinner, higherA]
  by_cases higherB : (numberOr 0 scoreB).gt (numberOr 0 scoreA) = true
  · simp [ruledWinner, higherA, higherB]
  rw [ruledWinner_level higherA higherB, if_neg higherA, if_neg higherB]
  cases timeA with
  | none =>
    cases timeB with
    | none => simp [overtakenByAbsent]
    | some timeB =>
      by_cases late : 999999 ≤ timeB
      · simp [overtakenByAbsent, higherA, higherB, late, distinct]
      · simp [overtakenByAbsent, late]
  | some timeA =>
    cases timeB with
    | none =>
      by_cases late : 999999 < timeA
      · simp [overtakenByAbsent, higherA, higherB, late, distinct.symm]
      · simp [overtakenByAbsent, late]
    | some timeB => simp [overtakenByAbsent]

end Decision

/-! ### A late submission against none -/

/-- Player 2 submits after 1500 seconds and gets no points, player 1 never does; the timer ends the match. -/
def lateAgainstAbsent : List BackendMove :=
  .outside (.tick 1500000) :: submits 0 2 ++ .step 0 (.verdict (points 0 0 .wrongAnswer)) ::
    List.replicate 6 (.step 0 .proceed) ++ [.outside (.tick 302000), .start (.timerExpiry 7 1802000)] ++
    List.replicate 17 (.step 1 .proceed)

/-- **Who never submits beats an equally scored player who does**: in the order player 2 is ahead. -/
theorem absent_player_wins : orderedWinner 1 2 none (some (.int 0)) none (some 1500000) = 2 ∧
    ∃ c, Reaches (backend sampleEnv) (fun _ move => contested 7 1 2 move = true) ⟨matchedOnce, []⟩ c ∧
      c.state.redis (.score 7 1) = none ∧ c.state.storedScore 7 2 = some (.int 0) ∧
      c.state.redis (.time 7 1) = none ∧ c.state.storedTime 7 2 = some (.int 1500000) ∧
      c.state.db.winnerOf 7 = some 1 := by
  obtain ⟨c, run, ended⟩ := Machine.exists_run (backend sampleEnv) (fun _ move => contested 7 1 2 move)
    ⟨matchedOnce, []⟩ lateAgainstAbsent (fun c =>
      (c.state.redis (.score 7 1)).isNone && c.state.storedScore 7 2 = some (.int 0) &&
      (c.state.redis (.time 7 1)).isNone && c.state.storedTime 7 2 = some (.int 1500000) &&
      c.state.db.winnerOf 7 = some 1) (by decide +kernel)
  simp only [Bool.and_eq_true, decide_eq_true_eq, Option.isNone_iff_eq_none] at ended
  obtain ⟨⟨⟨⟨unscored, scored⟩, untimed⟩, timed⟩, winner⟩ := ended
  exact ⟨by decide, c, run, unscored, scored, untimed, timed, winner⟩

/-- The end of a match in which only player 2 has submitted, after five seconds. -/
def earlyAgainstAbsent : World :=
  { matchedOnce with
    now := 1802000
    redis := (matchedOnce.redis.write (.time 7 2) (.int 5000) 7205000).write (.score 7 2) (.int 0) 7205000 }

theorem expiry_ordered_early : (selectedAtExpiry earlyAgainstAbsent 7 (openState 7)).1 = 2 ∧
    ((selectedAtExpiry earlyAgainstAbsent 7 (openState 7)).1 =
      orderedWinner 1 2 none (some (.int 0)) none (some 5000)) := by
  have stored : earlyAgainstAbsent.redis.read earlyAgainstAbsent.now (.state 7) = some (openState 7) := rfl
  have unscored : earlyAgainstAbsent.redis.read earlyAgainstAbsent.now (.score 7 1) = none := rfl
  have scored : earlyAgainstAbsent.redis.read earlyAgainstAbsent.now (.score 7 2) = some (.int 0) := rfl
  have untimed : earlyAgainstAbsent.redis.read earlyAgainstAbsent.now (.time 7 1) = storedMs none := rfl
  have timed : earlyAgainstAbsent.redis.read earlyAgainstAbsent.now (.time 7 2) = storedMs (some 5000) := rfl
  have due : 1802000 ≤ earlyAgainstAbsent.now := le_rfl
  exact ⟨by decide +kernel, (expiry_ordered_iff sampleEnv due stored rfl (by decide) unscored scored untimed
    timed).2.mpr (by decide)⟩

end SkillArena
