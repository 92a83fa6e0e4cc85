/-
**The seeding of the problems.**

`seed` of `db/seed-problems.js`: the problems of the file go into the table one after the other, outside a
transaction. A problem whose slug is there is updated, another one is inserted. If a statement of a problem is
rejected, that is logged, and the loop goes on. The slugs are unique, so the table is a function of the slug.
-/

import Mathlib.Logic.Function.Basic
import SkillArena.Model.Types

namespace SkillArena

/-- A problem of the file. -/
structure Seed where
  title : String
  slug : String
  description : String
  difficulty : String
  category : String
  testCases : List TestCase
  deriving DecidableEq

/-- `UPDATE problems SET …`. -/
def Seed.updated (seed : Seed) (row : Problem) : Problem :=
  { row with
    title := seed.title, description := seed.description, difficulty := seed.difficulty, category := seed.category
    testCases := seed.testCases, supportedLanguages := ["javascript", "python", "cpp", "java"], isActive := true }

/-- `INSERT INTO problems …`, with the id that the database generates. -/
def Seed.inserted (seed : Seed) (id : ProblemId) : Problem :=
  ⟨id, seed.title, seed.slug, seed.description, seed.difficulty, seed.category, 1800,
    ["javascript", "python", "cpp", "java"], true, seed.testCases⟩

/-- A turn of the loop: a problem, and the id that a new row would get, or what a statement is rejected with. -/
abbrev SeedTurn := Seed × Except Err ProblemId

/-- What a turn makes of the row of its slug. -/
def SeedTurn.write : SeedTurn → Option Problem → Option Problem
  | (_, .error _), row => row
  | (seed, .ok _), some row => some (seed.updated row)
  | (seed, .ok id), none => some (seed.inserted id)

/-- **One turn of the loop.** -/
def seedOne (table : String → Option Problem) (turn : SeedTurn) : String → Option Problem :=
  Function.update table turn.1.slug (turn.write (table turn.1.slug))

/-- **`seed`.** -/
def seedProblems (turns : List SeedTurn) (table : String → Option Problem) : String → Option Problem :=
  turns.foldl seedOne table

end SkillArena
