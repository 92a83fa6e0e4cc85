/-
**The routes that show problems and judge practice code.**

`routes/practice.js`, `routes/user.js`, `getMatch` of `matchController.js` and the answers of `utils/response.js`. A
route is a function of the rows it reads, of what its query may be rejected with, and of the request;
`POST /practice/run` and `POST /practice/submit` also of the executor. Where a route looks at the clock or draws a
number, the outcome is given (`Timing`).
-/

import Mathlib.Data.List.Infix
import SkillArena.Model.Database
import SkillArena.Model.Executor

namespace SkillArena

/-! ### Requests and answers -/

/-- **What a route answers**: `success`, `error`, or an exception handed to `next`. -/
inductive Response (α : Type)
  | success (data : α)
  | error (message : String) (statusCode : ℕ)
  | next (err : Err)
  deriving DecidableEq

/-- `try { … } catch (err) { next(err); }`. -/
def Response.catching {α : Type} : Except Err (Response α) → Response α
  | .ok response => response
  | .error err => .next err

/-- `pool.query`: the rows, or what the query is rejected with. -/
def answered {α : Type} (rejected : Option Err) (rows : α) : Except Err α :=
  match rejected with
  | some err => .error err
  | none => .ok rows

/-- An identifier in a request: falsy, not a UUID, or one. -/
inductive IdParam
  | missing
  | malformed
  | uuid (id : ℕ)
  deriving DecidableEq

/-- A query by an identifier; Postgres rejects one that is no UUID. -/
def IdParam.lookup {α : Type} (param : IdParam) (rejected : Option Err) (row : ℕ → α) : Except Err α :=
  match param with
  | uuid id => answered rejected (row id)
  | _ => .error .invalidInput

/-- A value is not `undefined`, `null`, `false`, `0` or `''`. -/
def JsVal.truthy : JsVal → Bool
  | undefined | null => false
  | bool value => value
  | num value => value ≠ 0
  | str value => value ≠ []
  | object => true

/-- A JavaScript number, where it may have a fraction. -/
inductive JsFloat
  | nan
  | infinite (negative : Bool)
  | finite (value : ℚ)
  deriving DecidableEq

namespace JsFloat

/-- `x < bound`. -/
def lt : JsFloat → ℚ → Bool
  | nan, _ => false
  | infinite negative, _ => negative
  | finite value, bound => value < bound

/-- `x > bound`. -/
def gt : JsFloat → ℚ → Bool
  | nan, _ => false
  | infinite negative, _ => !negative
  | finite value, bound => bound < value

end JsFloat

/-- The `amount` of a request: whether it is truthy, and what `Number` and `parseFloat` make of it. -/
structure AmountField where
  truthy : Bool
  number : JsFloat
  parsed : JsFloat
  deriving DecidableEq

/-- `text.includes(pattern)`. -/
def includes (text pattern : Text) : Bool := text.tails.any pattern.isPrefixOf

/-! ### Problems -/

/-- The columns of a listed problem. -/
structure ListedProblem where
  id : ProblemId
  title : String
  slug : String
  description : String
  difficulty : String
  category : String
  timeLimitSeconds : ℕ
  testCases : List TestCase
  supportedLanguages : List String
  deriving DecidableEq

/-- A problem as the practice routes show it, with its public tests. -/
def Problem.listed (problem : Problem) : ListedProblem :=
  ⟨problem.id, problem.title, problem.slug, problem.description, problem.difficulty, problem.category,
    problem.timeLimitSeconds, publicTestCases problem.testCases, problem.supportedLanguages⟩

/-- `ORDER BY difficulty, category, title`, in the collation of the database. -/
def Problem.before (collate : String → String → Bool) (first second : Problem) : Bool :=
  if first.difficulty ≠ second.difficulty then collate first.difficulty second.difficulty
  else if first.category ≠ second.category then collate first.category second.category
  else collate first.title second.title

/-- **`GET /practice/problems`**; an absent filter is `''`. -/
def getProblems (collate : String → String → Bool) (rejected : Option Err) (problems : List Problem)
    (difficulty category : String) : Response (List ListedProblem) :=
  .catching do
    let chosen := problems.filter fun problem => problem.isActive &&
      (difficulty = "" || problem.difficulty = difficulty) &&
      (category = "" || category = "all" || problem.category = category)
    let rows ← answered rejected (chosen.mergeSort (Problem.before collate))
    return .success (rows.map Problem.listed)

/-- **`GET /practice/problems/:slug`.** -/
def getProblem (rejected : Option Err) (problems : List Problem) (slug : String) : Response ListedProblem :=
  .catching do
    match ← answered rejected (problems.find? fun problem => problem.slug = slug && problem.isActive) with
    | none => return .error "Problem not found" 404
    | some problem => return .success problem.listed

/-! ### Practice runs -/

/-- What the clock and the dice say at each sample test. -/
structure Timing where
  elapsed : ℕ → ℕ
  mockMs : ℕ → ℕ

/-- The languages answered by the smart mock. -/
def usesMock (R : Runtime) (language : JsVal) : Bool :=
  (language = .str "python".toList && !R.python) || language = .str "cpp".toList || language = .str "java".toList

/-- What the smart mock thinks of a text. -/
def mockPasses (code : Text) : Bool :=
  30 < (trim code).length &&
    ["cout", "System.out", "printf", "println", "print(", "console.log"].any (fun s => includes code s.toList) &&
    ["for", "while", "if", "map", "def ", "return"].any fun s => includes code s.toList

/-- The error texts that are kept from the user. -/
def serverErrors : List Text :=
  ["not available".toList, "not installed".toList, "ENOENT".toList, "command not found".toList,
    "__PYTHON_UNAVAILABLE__".toList]

section Practice

variable (R : Runtime) (E : Executor (Except Err)) (timing : Timing) (language code : JsVal)

/-- The line of a test whose execution threw; so does the mock with code that is not a string. -/
def executionFailed (index : ℕ) (testCase : TestCase) : RunResult :=
  { index, input := testCase.input, expected := some (normalize testCase.expectedOutput), actual := [],
    passed := false, error := some (.text "Execution failed".toList), timeMs := 0 }

/-- One test of `POST /practice/run`. -/
def practiceTest (index : ℕ) (testCase : TestCase) : RunResult :=
  if usesMock R language then
    match code with
    | .str text =>
      { index, input := testCase.input, expected := some (normalize testCase.expectedOutput),
        actual := if mockPasses text then normalize testCase.expectedOutput else [], passed := mockPasses text,
        error := none, timeMs := timing.mockMs index }
    | _ => executionFailed index testCase
  else
    match executeCode R E language code testCase.input with
    | .error _ => executionFailed index testCase
    | .ok result =>
      let isServerError := serverErrors.any (includes result.stderr)
      let userError :=
        if result.exitCode ≠ 0 && result.stderr ≠ [] && !isServerError then some (.text (result.stderr.take 200))
        else none
      let expected := normalize testCase.expectedOutput
      if result.exitCode ≠ 0 && !isServerError then
        { index, input := testCase.input, expected := some expected, actual := [], passed := false,
          error := userError, timeMs := timing.elapsed index }
      else
        let actual := normalize (some result.stdout)
        { index, input := testCase.input, expected := some expected, actual, passed := actual = expected,
          error := userError, timeMs := timing.elapsed index }

/-- What `POST /practice/run` sends. -/
structure PracticeRun where
  results : List RunResult
  passedCount : ℕ
  totalCount : ℕ
  deriving DecidableEq

/-- **`POST /practice/run`.** -/
def practiceRun (rejected : Option Err) (problems : List Problem) (problemId : IdParam) : Response PracticeRun :=
  .catching do
    if problemId = .missing || !language.truthy || !code.truthy then
      return .error "problemId, language and code are required" 400
    else
      match ← problemId.lookup rejected fun id => problems.find? (·.id = id) with
      | none => return .error "Problem not found" 404
      | some problem =>
        let results := (publicTestCases problem.testCases).mapIdx fun i testCase =>
          practiceTest R E timing language code (i + 1) testCase
        return .success ⟨results, (results.filter (·.passed)).length, results.length⟩

/-- What `POST /practice/submit` sends. -/
structure PracticeVerdict where
  score : JsNum
  passed : ℕ
  total : ℕ
  status : EvalStatus
  avgTimeMs : Option ℕ
  compileError : Option Text
  deriving DecidableEq

def practiceVerdict (evalResult : EvalResult) : PracticeVerdict :=
  ⟨evalResult.score, evalResult.passed, evalResult.total, evalResult.status, evalResult.avgTimeMs,
    orNull evalResult.compileError⟩

/-- **`POST /practice/submit`.** The query of `evaluateCode` is rejected for an identifier that is no UUID. -/
def practiceSubmit (problemId : IdParam) : Response PracticeVerdict :=
  .catching do
    if problemId = .missing || !language.truthy || !code.truthy then
      return .error "problemId, language and code are required" 400
    else
      let evalResult ← match problemId with
        | .uuid id => evaluateCode R E language code id
        | _ => evaluateCode R { E with testCases := fun _ => throw Err.invalidInput } language code 0
      return .success (practiceVerdict evalResult)

end Practice

/-! ### Matches -/

/-- The row `getMatch` sends: the match, its problem and the names of its players. `test_cases` itself is sent only
where there is no problem, as `null`. -/
structure MatchView where
  id : MatchId
  row : MatchRow
  problemTitle : Option String
  description : Option String
  timeLimitSeconds : Option ℕ
  publicTestCases : Option (List TestCase)
  playerAName : String
  playerBName : String
  deriving DecidableEq

/-- **`GET /matches/:matchId`** by one of its players. -/
def getMatch (rejected : Option Err) (db : Db) (matchId : IdParam) (user : UserId) : Response MatchView :=
  .catching do
    let found ← matchId.lookup rejected fun id => do
      let row ← db.matches_ id
      let playerA ← db.users row.playerAId
      let playerB ← db.users row.playerBId
      if row.playerAId = user ∨ row.playerBId = user then
        let problem := row.problemId.bind fun problemId => db.problems.find? (·.id = problemId)
        return ({
          id, row, problemTitle := problem.map (·.title), description := problem.map (·.description)
          timeLimitSeconds := problem.map (·.timeLimitSeconds)
          publicTestCases := problem.map fun problem => publicTestCases problem.testCases
          playerAName := playerA.username, playerBName := playerB.username } : MatchView)
      else none
    match found with
    | none => return .error "Match not found" 404
    | some view => return .success view

/-! ### The leaderboard -/

/-- The columns of the leaderboard. -/
structure Standing where
  id : UserId
  username : String
  skillRating : ℤ
  matchesPlayed : ℕ
  matchesWon : ℕ
  deriving DecidableEq

/-- `ORDER BY skill_rating DESC, matches_won DESC`: the first ranks before the second, or with it. -/
def ranksBefore (first second : Standing) : Bool :=
  second.skillRating < first.skillRating ||
    (second.skillRating = first.skillRating && second.matchesWon ≤ first.matchesWon)

/-- The active users who have played. -/
def ranked (users : List UserId) (active : UserId → Bool) (db : Db) : List Standing :=
  (users.filter active).filterMap fun user => (db.users user).bind fun row =>
    if 0 < row.matchesPlayed then
      some ⟨user, row.username, row.skillRating, row.matchesPlayed, row.matchesWon⟩
    else none

/-- **`GET /users/leaderboard`.** Among equals the database may choose; here the order of the table stays. -/
def leaderboard (rejected : Option Err) (users : List UserId) (active : UserId → Bool) (db : Db) :
    Response (List Standing) :=
  .catching do
    let rows ← answered rejected (((ranked users active db).mergeSort ranksBefore).take 50)
    return .success rows

end SkillArena
