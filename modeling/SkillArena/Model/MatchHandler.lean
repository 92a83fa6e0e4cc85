/-
**The handlers of a running match.**

`matchHandler.js` with `timerService.js` and `presenceService.js`: joining, running and submitting code,
forfeiting, and `resolveMatch`, which every ending of a match goes through. Log lines are left out; the
events sent to the clients are kept.
-/

import SkillArena.Model.World
import SkillArena.Model.Judge

namespace SkillArena

open Async

/-! ### Shorthands for the awaited calls -/

/-- `redisClient.get`. -/
def redisGet (key : Key) : Promise (Option key.Val) := (Op.get key).call

/-- `redisClient.set(key, value, 'EX', seconds)`. -/
def redisSet (key : Key) (value : key.Val) (seconds : ℕ) : Promise Unit := (Op.set key value seconds).call

/-- `redisClient.del`. -/
def redisDel (key : Key) : Promise Unit := (Op.del key).call

/-- `pool.query`. -/
def poolQuery (sql : Query) : Promise sql.Reply := (Op.query sql).call

/-- `withTransaction`. -/
def transact (transaction : Transaction) : Promise transaction.Reply := (Op.transact transaction).call

/-- `emit`. -/
def emit (room : Room) (event : Event) : Promise Unit := (Op.emit room event).call

/-! ### `timerService.js` and `presenceService.js` -/

def matchDurationMs : ℕ := 30 * 60 * 1000

def startMatchTimer (matchId : MatchId) : Promise (ℕ × ℕ) := do
  let startTs ← Op.dateNow.call
  let endTs := startTs + matchDurationMs
  redisSet (.startTs matchId) startTs 7200
  redisSet (.endTs matchId) endTs 7200
  return (startTs, endTs)

def getMatchTimer (matchId : MatchId) : Promise (Option Timer) := do
  let startTs ← redisGet (.startTs matchId)
  let endTs ← redisGet (.endTs matchId)
  match startTs, endTs with
  | some startTs, some endTs =>
    let now ← Op.dateNow.call
    let remainingMs := endTs - now
    return some ⟨startTs, endTs, remainingMs, remainingMs = 0⟩
  | _, _ => return none

def setActiveMatch (userId : UserId) (matchId : MatchId) : Promise Unit :=
  redisSet (.activeMatch userId) matchId 7200

def clearActiveMatch (userId : UserId) : Promise Unit := redisDel (.activeMatch userId)

/-! ### `resolveMatch` -/

/-- `parseFloat(… || d)` and `parseInt(… || d)` of a stored number. -/
def numberOr (default : ℤ) (stored : Option JsNum) : JsNum := stored.getD (.int default)

/-- The number stored under a key, or a default. -/
def readScore (matchId : MatchId) (userId : UserId) (default : ℤ) : Promise JsNum := do
  let stored ← redisGet (.score matchId userId)
  return numberOr default stored

def readTime (matchId : MatchId) (userId : UserId) (default : ℤ) : Promise JsNum := do
  let stored ← redisGet (.time matchId userId)
  return numberOr default stored

/-- The new hearts of a loser, with the time they come back once there are none left. -/
def loseHeart (loserId : UserId) (loser : HeartsView) : Promise Unit := do
  let newConsecutiveLosses := loser.consecutiveLosses.getD 0 + 1
  let newHearts := max 0 (loser.hearts.getD 3 - 1)
  if newHearts = 0 then
    let now ← Op.dateNow.call
    poolQuery (.loseHeart loserId newConsecutiveLosses newHearts (some (now + 24 * 60 * 60 * 1000)))
  else
    poolQuery (.loseHeart loserId newConsecutiveLosses newHearts none)

/-- The loser's part of the hearts block. -/
def updateLoserHearts (loserId : UserId) : Promise Unit := do
  match ← poolQuery (.selectHearts loserId) with
  | none => return ()
  | some loser => if loser.isPremium then return () else loseHeart loserId loser

/-- The hearts block of `resolveMatch`; a failure in it does not fail the match. -/
def updateHearts (winnerId loserId : UserId) : Promise Unit :=
  Task.attempt
    (do
      updateLoserHearts loserId
      poolQuery (.regainHeart winnerId))
    fun _ => pure ()

/-- What `resolveMatch` does once the winner is paid. -/
def recordResult (matchId : MatchId) (winnerId loserId : UserId) (resolveType : ResolveType)
    (matchState : MatchState) (prize : ℚ × ℚ) : Promise Unit := do
  let scoreA ← readScore matchId matchState.playerAId 0
  let scoreB ← readScore matchId matchState.playerBId 0
  let timeA ← readTime matchId matchState.playerAId 0
  let timeB ← readTime matchId matchState.playerBId 0
  poolQuery (.completeMatch matchId winnerId scoreA scoreB timeA timeB)
  updateHearts winnerId loserId
  poolQuery (.countWin winnerId)
  poolQuery (.countLoss loserId)
  clearActiveMatch winnerId
  clearActiveMatch loserId
  let balance ← poolQuery (.selectBalance winnerId)
  emit (.matchRoom matchId) (.result matchId resolveType winnerId loserId prize.1 prize.2
    scoreA scoreB timeA timeB (balance.getD 0))

/-- The `try` block of `resolveMatch`. -/
def resolveBody (matchId : MatchId) (winnerId loserId : UserId) (resolveType : ResolveType) :
    Promise Unit := do
  match ← redisGet (.resolved matchId) with
  | some _ => return ()
  | none =>
    redisSet (.resolved matchId) () 7200
    match ← redisGet (.state matchId) with
    | none => return ()
    | some stored =>
      let matchState := { stored with status := .completed }
      redisSet (.state matchId) matchState 7200
      let prize ← transact (.releaseEscrowToWinner winnerId loserId matchState.entryFee matchId)
      recordResult matchId winnerId loserId resolveType matchState prize

/-- The refund in the `catch` block of `resolveMatch`. -/
def refundUnresolved (matchId : MatchId) : Promise Unit := do
  match ← redisGet (.state matchId) with
  | none => return ()
  | some matchState =>
    transact (.refundBothPlayers matchState.playerAId matchState.playerBId matchState.entryFee matchId)
    emit (.matchRoom matchId) (.matchError "Match resolution failed. Both refunded.")

/-- The `catch` block of `resolveMatch`: both players are refunded. -/
def resolveCatch (matchId : MatchId) : Promise Unit :=
  Task.attempt (refundUnresolved matchId) fun _ => pure ()

/-- **`resolveMatch`**: every ending of a match comes here. -/
def resolveMatch (matchId : MatchId) (winnerId loserId : UserId) (resolveType : ResolveType) :
    Promise Unit :=
  Task.attempt (resolveBody matchId winnerId loserId resolveType) fun _ => resolveCatch matchId

/-! ### Deciding the winner -/

/-- The winner and the loser by score, then by time; player A on equal times. -/
def decideWinner (matchState : MatchState) (scoreA scoreB timeA timeB : JsNum) : UserId × UserId :=
  if scoreA.gt scoreB then (matchState.playerAId, matchState.playerBId)
  else if scoreB.gt scoreA then (matchState.playerBId, matchState.playerAId)
  else
    let winnerId := if timeA.le timeB then matchState.playerAId else matchState.playerBId
    (winnerId, if winnerId = matchState.playerAId then matchState.playerBId else matchState.playerAId)

def determineAndResolveWinner (matchId : MatchId) (matchState : MatchState) : Promise Unit := do
  let scoreA ← readScore matchId matchState.playerAId 0
  let scoreB ← readScore matchId matchState.playerBId 0
  let timeA ← readTime matchId matchState.playerAId 999999
  let timeB ← readTime matchId matchState.playerBId 999999
  let decision := decideWinner matchState scoreA scoreB timeA timeB
  resolveMatch matchId decision.1 decision.2 .completed

/-- The decision of `handleTimerExpiry`. -/
def decideAtExpiry (matchState : MatchState) (scoreA scoreB timeA timeB : JsNum) : UserId × UserId :=
  if scoreA.gt scoreB then (matchState.playerAId, matchState.playerBId)
  else if scoreB.gt scoreA then (matchState.playerBId, matchState.playerAId)
  else if timeA.eq (.int 999999) && timeB.eq (.int 999999) then
    (matchState.playerAId, matchState.playerBId)
  else
    let winnerId := if timeA.le timeB then matchState.playerAId else matchState.playerBId
    (winnerId, if winnerId = matchState.playerAId then matchState.playerBId else matchState.playerAId)

/-- `handleTimerExpiry` of `matchmakingHandler.js`, with the timer that calls it. -/
def handleTimerExpiry (matchId : MatchId) (dueAt : ℕ) : Promise Unit := do
  (Op.sleepUntil dueAt).call
  Task.attempt
    (do
      match ← redisGet (.state matchId) with
      | none => return ()
      | some matchState =>
        if matchState.status ≠ .inProgress then return ()
        else
          let scoreA ← readScore matchId matchState.playerAId 0
          let scoreB ← readScore matchId matchState.playerBId 0
          let timeA ← readTime matchId matchState.playerAId 999999
          let timeB ← readTime matchId matchState.playerBId 999999
          let decision := decideAtExpiry matchState scoreA scoreB timeA timeB
          emit (.matchRoom matchId) (.timeUp matchId)
          resolveMatch matchId decision.1 decision.2 .timeUp)
    fun _ => pure ()

/-! ### `code:submit` -/

/-- The refund of a match that cannot be judged; the state is read again from Redis. -/
def refundUnjudged (matchId : MatchId) (message : String) (afterwards : Promise Unit) : Promise Unit := do
  match ← redisGet (.state matchId) with
  | none => return ()
  | some matchState =>
    transact (.refundBothPlayers matchState.playerAId matchState.playerBId matchState.entryFee matchId)
    afterwards
    emit (.matchRoom matchId) (.matchError message)

/-- The status `code:submit` stores: by the score alone. -/
def judgeStatus (score : JsNum) : EvalStatus :=
  if score = .int 100 then .accepted else if score.gt (.int 0) then .partialScore else .wrongAnswer

/-- The object `match:evaluation_result` carries. -/
structure EvaluationPayload where
  matchId : MatchId
  score : JsNum
  passed : ℕ
  total : ℕ
  status : EvalStatus
  executionTimeMs : Option ℕ
  compileError : Option Text
  message : String
  deriving DecidableEq

/-- `match:evaluation_result` as it is sent. -/
def evaluationPayload (matchId : MatchId) (evalResult : EvalResult) (status : EvalStatus) : EvaluationPayload where
  matchId
  score := evalResult.score
  passed := evalResult.passed
  total := evalResult.total
  status
  executionTimeMs := evalResult.avgTimeMs
  compileError := orNull evalResult.compileError
  message :=
    if evalResult.score = .int 100 then "✓ All " ++ toString evalResult.total ++ " test cases passed!"
    else if evalResult.score.gt (.int 0) then
      toString evalResult.passed ++ "/" ++ toString evalResult.total ++ " test cases passed"
    else if (orNull evalResult.compileError).isSome then "Runtime error in your code"
    else "Wrong answer"

/-- What the sender of a `code:submit` is told of a verdict; after a judge error only the match room hears. -/
def submitReply (matchId : MatchId) (evalResult : EvalResult) : Option EvaluationPayload :=
  if evalResult.status = .judgeError then none
  else some (evaluationPayload matchId evalResult (judgeStatus evalResult.score))

/-- What `code:submit` does with a verdict. -/
def afterEvaluation (userId : UserId) (matchId : MatchId) (matchState : MatchState)
    (evalResult : EvalResult) : Promise Unit := do
  if evalResult.status = .judgeError then
    refundUnjudged matchId "Evaluation error. Both refunded." (poolQuery (.cancelMatch matchId))
  else
    redisSet (.score matchId userId) evalResult.score 7200
    poolQuery (.recordVerdict matchId userId (judgeStatus evalResult.score) evalResult)
    emit (.sender userId) (.evaluationResult matchId evalResult (judgeStatus evalResult.score))
    let scoreA ← redisGet (.score matchId matchState.playerAId)
    let scoreB ← redisGet (.score matchId matchState.playerBId)
    if scoreA.isSome && scoreB.isSome then
      determineAndResolveWinner matchId matchState
    else
      emit (.sender userId) (.waitingOpponent matchId)

/-- What `code:submit` does once the submission lock is taken. -/
def submitLocked (userId : UserId) (matchId : MatchId) (language code : JsVal)
    (matchState : MatchState) : Promise Unit := do
  emit (.sender userId) (.submissionReceived matchId)
  emit (.matchRoomExcept matchId userId) (.opponentStatus "submitted" userId)
  let startTs ← redisGet (.startTs matchId)
  let now ← Op.dateNow.call
  let submissionTimeMs := JsNum.sub (.int now) ((startTs.map fun ts => JsNum.int ts).getD .nan)
  redisSet (.time matchId userId) submissionTimeMs 7200
  poolQuery (.insertSubmission matchId userId language code)
  match ← poolQuery (.problemIdOf matchId) with
  | none => refundUnjudged matchId "No problem assigned. Both refunded." (pure ())
  | some problemId =>
    emit (.sender userId) (.evaluating matchId)
    let evalResult ← (Op.evaluateCode matchId userId language code problemId).call
    afterEvaluation userId matchId matchState evalResult

/-- **`code:submit`.** -/
def codeSubmit (userId : UserId) (matchId : MatchId) (language code : JsVal) : Promise Unit :=
  Task.attempt
    (do
      match ← redisGet (.state matchId) with
      | none => emit (.sender userId) (.matchError "Match not found")
      | some matchState =>
        if matchState.status ≠ .inProgress then
          emit (.sender userId) (.matchError "Match is not in progress")
        else
          let timer ← getMatchTimer matchId
          if (timer.map (·.isExpired)).getD true then
            emit (.sender userId) (.matchError "Time is up")
          else
            let locked ← (Op.setNx (.submitted matchId userId) () 7200).call
            if locked then submitLocked userId matchId language code matchState
            else emit (.sender userId) (.matchError "Already submitted"))
    fun _ => emit (.sender userId) (.matchError "Submission failed. Try again.")

/-! ### The other events of a match -/

def matchJoin (userId : UserId) (matchId : MatchId) : Promise Unit :=
  Task.attempt
    (do
      match ← redisGet (.state matchId) with
      | none => emit (.sender userId) (.matchError "Match not found")
      | some matchState =>
        if matchState.playerAId ≠ userId ∧ matchState.playerBId ≠ userId then
          emit (.sender userId) (.matchError "You are not in this match")
        else
          let timer ← getMatchTimer matchId
          let serverTs ← Op.dateNow.call
          emit (.sender userId) (.timerSync matchId timer serverTs)
          emit (.matchRoomExcept matchId userId) (.opponentStatus "connected" userId))
    fun _ => pure ()

def timerRequest (userId : UserId) (matchId : MatchId) : Promise Unit :=
  Task.attempt
    (do
      match ← getMatchTimer matchId with
      | none => return ()
      | some timer =>
        let serverTs ← Op.dateNow.call
        emit (.sender userId) (.timerSync matchId (some timer) serverTs))
    fun _ => pure ()

/-- One sample test of `code:run`; an exception of the executor is a failed test. -/
def runSample (language code : JsVal) (index : ℕ) (testCase : TestCase) : Promise RunResult := do
  let startTime ← Op.dateNow.call
  Task.attempt
    (do
      let result ← (Op.executeCode language code testCase.input).call
      let now ← Op.dateNow.call
      let actual := normalize (some result.stdout)
      let expected := normalize testCase.expectedOutput
      return ⟨index, testCase.input, some expected, actual, actual = expected,
        if result.stderr = [] then none else some (.text result.stderr), now - startTime⟩)
    fun err => pure ⟨index, testCase.input, testCase.expectedOutput, [], false, some (.message err), 0⟩

/-- The loop of `code:run` over the sample tests. -/
def runSamples (language code : JsVal) : ℕ → List TestCase → Promise (List RunResult)
  | _, [] => return []
  | index, testCase :: rest => do
    let result ← runSample language code index testCase
    let results ← runSamples language code (index + 1) rest
    return result :: results

def codeRun (userId : UserId) (matchId : MatchId) (language code : JsVal) : Promise Unit :=
  Task.attempt
    (do
      match ← redisGet (.state matchId) with
      | none => emit (.sender userId) (.matchError "Match not found")
      | some matchState =>
        if matchState.status ≠ .inProgress then
          emit (.sender userId) (.matchError "Match is not in progress")
        else
          let timer ← getMatchTimer matchId
          if (timer.map (·.isExpired)).getD true then
            emit (.sender userId) (.matchError "Time is up")
          else
            emit (.sender userId) (.runStarted matchId)
            match ← poolQuery (.testCasesOfMatch matchId) with
            | none => emit (.sender userId) (.matchError "Problem not found")
            | some allTestCases =>
              if publicTestCases allTestCases = [] then
                emit (.sender userId) (.noSampleTests matchId)
              else
                let results ← runSamples language code 1 (publicTestCases allTestCases)
                emit (.sender userId)
                  (.runResult matchId results (results.filter (·.passed)).length results.length))
    fun _ => emit (.sender userId) (.matchError "Run failed. Try again.")

/-- **`match:forfeit_request`.** -/
def forfeitRequest (userId : UserId) (matchId : MatchId) (reason : String) : Promise Unit :=
  Task.attempt
    (do
      match ← redisGet (.state matchId) with
      | none => return ()
      | some matchState =>
        if matchState.status ≠ .inProgress then return ()
        else
          let winnerId :=
            if matchState.playerAId = userId then matchState.playerBId else matchState.playerAId
          emit (.matchRoom matchId) (.forfeit matchId userId winnerId reason)
          resolveMatch matchId winnerId userId .forfeit)
    fun _ => pure ()

def matchLeave (userId : UserId) (matchId : MatchId) : Promise Unit :=
  emit (.matchRoomExcept matchId userId) (.opponentStatus "disconnected" userId)

end SkillArena
