/-
**The data of the backend.**

Identifiers, the values the handlers pass around, the match state kept in Redis as JSON, the verdict
of the judge, the errors a rejected promise carries and the events sent to the sockets. JavaScript
numbers that may be `NaN` are `JsNum`; its comparisons are false as soon as one side is `NaN`.
-/

import Mathlib.Data.Rat.Defs
import Mathlib.Tactic.Common

namespace SkillArena

abbrev UserId := ℕ
abbrev MatchId := ℕ
abbrev ProblemId := ℕ
abbrev SocketId := ℕ

/-- Text that the code takes apart or searches in. -/
abbrev Text := List Char

/-- Texts are compared character by character. -/
instance Text.lawfulBEq : LawfulBEq Text := inferInstance

/-! ### JavaScript values -/

/-- A JavaScript number, where it is an integer or `NaN`. -/
inductive JsNum
  | nan
  | int (value : ℤ)
  deriving DecidableEq, Repr

namespace JsNum

/-- `a > b`. -/
def gt : JsNum → JsNum → Bool
  | int a, int b => b < a
  | _, _ => false

/-- `a <= b`. -/
def le : JsNum → JsNum → Bool
  | int a, int b => a ≤ b
  | _, _ => false

/-- `a === b`. -/
def eq : JsNum → JsNum → Bool
  | int a, int b => a = b
  | _, _ => false

/-- `a - b`. -/
def sub : JsNum → JsNum → JsNum
  | int a, int b => int (a - b)
  | _, _ => nan

@[simp] theorem gt_int (a b : ℤ) : (int a).gt (int b) = decide (b < a) := rfl

@[simp] theorem le_int (a b : ℤ) : (int a).le (int b) = decide (a ≤ b) := rfl

end JsNum

/-- The JSON values a client may put into a field of a payload. -/
inductive JsVal
  | undefined
  | null
  | bool (value : Bool)
  | num (value : ℤ)
  | str (value : Text)
  | object
  deriving DecidableEq, Repr

/-! ### Matches -/

inductive MatchStatus
  | waiting
  | inProgress
  | completed
  | cancelled
  deriving DecidableEq, Repr

/-- **The match state** that `tryCreateMatch` writes to `match:<id>:state`. -/
structure MatchState where
  matchId : MatchId
  playerAId : UserId
  playerBId : UserId
  entryFee : ℚ
  prizePool : ℚ
  platformFee : ℚ
  problemId : ProblemId
  status : MatchStatus
  playerASubmitted : Bool := false
  playerBSubmitted : Bool := false
  deriving DecidableEq

/-- How a match came to be resolved; only reported to the players. -/
inductive ResolveType
  | completed
  | forfeit
  | timeUp
  deriving DecidableEq, Repr

/-- The two players of a match state. -/
def MatchState.players (state : MatchState) : List UserId := [state.playerAId, state.playerBId]

/-! ### Errors -/

/-- What a rejected promise carries. -/
inductive Err
  | thrown (statusCode : ℕ) (message : String)
  | check (constraint : String)
  | duplicateKey
  | foreignKey
  | notNull
  | invalidInput
  | typeError
  | unavailable
  deriving DecidableEq, Repr

/-! ### The judge -/

structure TestCase where
  input : Text
  expectedOutput : Option Text
  isPublic : Bool
  deriving DecidableEq, Repr

inductive EvalStatus
  | accepted
  | partialScore
  | wrongAnswer
  | runtimeError
  | problemNotFound
  | judgeError
  deriving DecidableEq, Repr

/-- **What `evaluateCode` returns.** -/
structure EvalResult where
  score : JsNum
  passed : ℕ
  total : ℕ
  status : EvalStatus
  avgTimeMs : Option ℕ := some 0
  compileError : Option Text := none
  deriving DecidableEq, Repr

/-- What one run of the submitted program leaves. -/
structure Execution where
  stdout : Text
  stderr : Text
  exitCode : ℤ
  deriving DecidableEq, Repr

/-- `text || null`. -/
def orNull : Option Text → Option Text
  | some [] => none
  | text => text

/-- The `error` of a sample test: a text, or the message of an exception. -/
inductive RunError
  | text (text : Text)
  | message (err : Err)
  deriving DecidableEq, Repr

/-- One line of the answer to `code:run` and to `POST /practice/run`. -/
structure RunResult where
  index : ℕ
  input : Text
  expected : Option Text
  actual : Text
  passed : Bool
  error : Option RunError
  timeMs : ℕ
  deriving DecidableEq, Repr

/-- **A row of `problems`.** -/
structure Problem where
  id : ProblemId
  title : String
  slug : String
  description : String
  difficulty : String
  category : String
  timeLimitSeconds : ℕ := 1800
  supportedLanguages : List String := ["javascript", "python", "cpp", "java"]
  isActive : Bool := true
  testCases : List TestCase := []
  deriving DecidableEq, Repr

/-- `testCases.filter(tc => tc.is_public)`. -/
def publicTestCases (testCases : List TestCase) : List TestCase := testCases.filter (·.isPublic)

/-- The `problem` of `match:ready`. -/
structure ProblemView where
  id : ProblemId
  title : String
  description : String
  timeLimitSeconds : ℕ
  testCases : List TestCase
  deriving DecidableEq, Repr

/-- A problem as `match:ready` shows it, with its public tests. -/
def Problem.view (problem : Problem) : ProblemView :=
  ⟨problem.id, problem.title, problem.description, problem.timeLimitSeconds, publicTestCases problem.testCases⟩

/-! ### Payments -/

/-- What `JSON.parse` leaves of a `payment.captured` webhook body, or of another event. -/
structure WebhookEvent where
  isPaymentCaptured : Bool
  paymentId : Text
  userId : Option UserId
  amount : ℚ
  deriving DecidableEq

/-! ### Events -/

/-- Whom an event is sent to. -/
inductive Room
  | sender (user : UserId)
  | user (user : UserId)
  | matchRoom (matchId : MatchId)
  | matchRoomExcept (matchId : MatchId) (user : UserId)
  deriving DecidableEq, Repr

/-- What `getMatchTimer` returns of a live timer. -/
structure Timer where
  startTs : ℕ
  endTs : ℕ
  remainingMs : ℕ
  isExpired : Bool
  deriving DecidableEq, Repr

/-- **The events** sent to the clients. -/
inductive Event
  | matchError (message : String)
  | timerSync (matchId : MatchId) (timer : Option Timer) (serverTs : ℕ)
  | opponentStatus (status : String) (userId : UserId)
  | runStarted (matchId : MatchId)
  | noSampleTests (matchId : MatchId)
  | runResult (matchId : MatchId) (results : List RunResult) (passedCount totalCount : ℕ)
  | submissionReceived (matchId : MatchId)
  | evaluating (matchId : MatchId)
  | evaluationResult (matchId : MatchId) (result : EvalResult) (status : EvalStatus)
  | waitingOpponent (matchId : MatchId)
  | forfeit (matchId : MatchId) (forfeitedBy winnerId : UserId) (reason : String)
  | timeUp (matchId : MatchId)
  | result (matchId : MatchId) (resolveType : ResolveType) (winnerId loserId : UserId)
      (netPrize platformFee : ℚ) (scoreA scoreB timeA timeB : JsNum) (winnerNewBalance : ℚ)
  | queueError (message : String)
  | queueJoined (entryFee : ℕ) (position : ℕ)
  | queueLeft
  | matchReady (matchId : MatchId) (entryFee : ℕ) (prizePool : ℚ) (startTs endTs durationMs : ℕ)
      (problem : ProblemView) (you opponent : UserId × String)
  deriving DecidableEq

end SkillArena
