/-
**The judge and the processes it starts.**

`judgeService.js`: `executeJS` and `executePython` write the submitted code to a file of the temporary directory,
named after the millisecond, start a child process that reads this file, and remove the file when the child
has closed. `executeCode` picks the executor by the language, `evaluateCode` runs the test cases of a problem one
after the other.

The two functions are written over an executor of any monad (`Executor m`). `processes` is the executor of the
service: its operations are the steps of the children, and executions interleave between any two of them.
`isolated` is an execution that shares nothing with the others: the code is run where it stands. The machine
`judge` starts any number of calls of the service; it keeps the directory, the clock, and what the calls answered.
-/

import Mathlib.Data.Rat.Floor
import Mathlib.Logic.Function.Basic
import SkillArena.Async.Pool
import SkillArena.Model.Judge

namespace SkillArena

open Async

/-! ### Children -/

/-- The two kinds of source files. -/
inductive Extension
  | js
  | py
  deriving DecidableEq, Repr

/-- `code_<milliseconds>.<extension>` in the temporary directory. -/
structure FileName where
  ms : ℕ
  extension : Extension
  deriving DecidableEq, Repr

/-- What a child process leaves; there is no status if a signal ended it. -/
structure Ended where
  stdout : Text
  stderr : Text
  status : Option ℤ
  deriving DecidableEq, Repr

/-- What the `close` listener resolves with, `exitCode: code ?? 0`. -/
def Ended.execution (ended : Ended) : Execution := ⟨ended.stdout, ended.stderr, ended.status.getD 0⟩

/-- **What the service runs on**: whether there is a Python, what the interpreters do with a source file, or with
none, and an input, what the database answers for the test cases of a problem, and the texts of the exceptions. -/
structure Runtime where
  python : Bool
  run : Extension → Option Text → Text → Ended
  problems : ProblemId → Except Err (Option (List TestCase))
  message : Err → Text

/-! ### The service -/

/-- What `executeCode` and `evaluateCode` ask for: one execution of one file, and the test cases. -/
structure Executor (m : Type → Type) where
  executeFile : Extension → JsVal → Text → m Execution
  testCases : ProblemId → m (Option (List TestCase))

/-- `Language not supported: ${language}`. -/
def languageNotSupported (language : Text) : Execution :=
  ⟨[], "Language not supported: ".toList ++ language, 1⟩

/-- `Math.round((passed / total) * 100)`; `0 / 0` is `NaN`. -/
def percentage (passed total : ℕ) : JsNum :=
  if total = 0 then .nan else .int ⌊(passed : ℚ) / total * 100 + 1 / 2⌋

section Service

variable {m : Type → Type} [Monad m]

def executeJS (E : Executor m) (code : JsVal) (stdin : Text) : m Execution := E.executeFile .js code stdin

def executePython (R : Runtime) (E : Executor m) (code : JsVal) (stdin : Text) : m Execution :=
  if R.python then E.executeFile .py code stdin
  else pure ⟨[], "Python runtime unavailable".toList, 1⟩

/-- The `for` loop of `evaluateCode` from the test cases that are left, and what it returns. -/
def runTests (execute : Text → m Execution) (total passed : ℕ) : List TestCase → m EvalResult
  | [] => pure
      { score := percentage passed total, passed, total
        status := if passed = total then .accepted else if passed = 0 then .wrongAnswer else .partialScore }
  | testCase :: rest => do
    let execution ← execute testCase.input
    if execution.exitCode ≠ 0 then
      pure { score := .int 0, passed := 0, total, status := .runtimeError, avgTimeMs := none,
             compileError := some (execution.stderr.take 300) }
    else
      let actual := normalize (some execution.stdout)
      let expected := normalize testCase.expectedOutput
      runTests execute total (if actual = expected then passed + 1 else passed) rest

variable [MonadExceptOf Err m]

/-- `language?.toLowerCase()` of a value that is neither a string nor absent is a `TypeError`. -/
def executeCode (R : Runtime) (E : Executor m) (language code : JsVal) (stdin : Text) : m Execution :=
  match language with
  | .str name =>
    let lower := name.map Char.toLower
    if lower ∈ ["javascript".toList, "js".toList] then executeJS E code stdin
    else if lower ∈ ["python".toList, "python3".toList, "py".toList] then executePython R E code stdin
    else pure (languageNotSupported name)
  | .undefined => pure (languageNotSupported "undefined".toList)
  | .null => pure (languageNotSupported "null".toList)
  | _ => throw Err.typeError

/-- **`evaluateCode`**. A problem without `test_cases` is one with none. -/
def evaluateCode (R : Runtime) (E : Executor m) (language code : JsVal) (problemId : ProblemId) : m EvalResult :=
  tryCatch (do
    match ← E.testCases problemId with
    | none => pure { score := .int 0, passed := 0, total := 0, status := .problemNotFound, avgTimeMs := none }
    | some testCases => runTests (executeCode R E language code) testCases.length 0 testCases)
  fun (err : Err) => pure
    { score := .int 0, passed := 0, total := 0, status := .judgeError, avgTimeMs := none,
      compileError := some (R.message err) }

end Service

/-! ### Executions that share nothing -/

/-- `writeFileSync` refuses code that is not a string. -/
def JsVal.text? : JsVal → Option Text
  | .str text => some text
  | _ => none

/-- An execution by itself: the interpreter gets the code of the call. -/
def isolated (R : Runtime) : Executor (Except Err) where
  executeFile extension code stdin :=
    match code.text? with
    | some text => pure (R.run extension (some text) stdin).execution
    | none => throw Err.typeError
  testCases := R.problems

/-! ### Executions through the temporary directory -/

/-- **A call of the service**: one execution, as `code:run` and the practice routes make them, or the evaluation
of a submission. -/
inductive Job
  | execution (language code : JsVal) (stdin : Text)
  | submission (language code : JsVal) (problemId : ProblemId)
  deriving DecidableEq

/-- The code a call was given. -/
def Job.code : Job → JsVal
  | execution _ code _ => code
  | submission _ code _ => code

/-- How a call is settled. -/
inductive Answer
  | executed (result : Except Err Execution)
  | verdict (result : Except Err EvalResult)
  deriving DecidableEq

/-- The answer of a call that shares nothing with the others. -/
def Job.outcome (R : Runtime) : Job → Answer
  | execution language code stdin => .executed (executeCode R (isolated R) language code stdin)
  | submission language code problemId => .verdict (evaluateCode R (isolated R) language code problemId)

/-- **The steps of an execution**, and of the call it belongs to. `launch` is the synchronous block from
`Date.now()` to `spawn`; `load` is the child reading its source file; `unlink` is the `close` listener. -/
inductive ExecOp
  | testCases (problemId : ProblemId)
  | launch (extension : Extension) (code : Text)
  | load (file : FileName)
  | unlink (file : FileName)
  | settle (job : Job) (answer : Answer)
  deriving DecidableEq

@[reducible] def ExecOp.Reply : ExecOp → Type
  | testCases _ => Except Err (Option (List TestCase))
  | launch .. => FileName
  | load _ => Option Text
  | _ => Unit

abbrev execSignature : Signature := ⟨ExecOp, ExecOp.Reply⟩

abbrev ExecTask := Task execSignature Err

/-- `await` one step that cannot be rejected. -/
def ExecOp.call (op : ExecOp) : ExecTask op.Reply := ⟨.await (S := execSignature) op fun reply => .done (.ok reply)⟩

/-- **The executor of the service.** -/
def processes (R : Runtime) : Executor ExecTask where
  executeFile extension code stdin :=
    match code.text? with
    | some text => do
      let file ← (ExecOp.launch extension text).call
      let source ← (ExecOp.load file).call
      (ExecOp.unlink file).call
      pure (R.run extension source stdin).execution
    | none => throw Err.typeError
  testCases problemId := ⟨.await (S := execSignature) (.testCases problemId) .done⟩

/-- How the service settles a call. -/
def Job.answer (R : Runtime) : Job → ExecTask Answer
  | execution language code stdin => do
    let result ← (executeCode R (processes R) language code stdin).settled
    pure (.executed result)
  | submission language code problemId => do
    let result ← (evaluateCode R (processes R) language code problemId).settled
    pure (.verdict result)

/-- The call made to the service. -/
def Job.program (R : Runtime) (job : Job) : Prog execSignature Unit :=
  Task.run do
    let answer ← job.answer R
    (ExecOp.settle job answer).call

/-- The temporary directory, the clock, and the calls that are settled. -/
structure Sandbox where
  now : ℕ
  files : FileName → Option Text := fun _ => none
  settled : List (Job × Answer) := []

/-- What a step does. -/
def ExecOp.perform (R : Runtime) : (op : ExecOp) → Sandbox → op.Reply × Sandbox
  | testCases problemId, sandbox => (R.problems problemId, sandbox)
  | launch extension code, sandbox =>
    (⟨sandbox.now, extension⟩,
      { sandbox with files := Function.update sandbox.files ⟨sandbox.now, extension⟩ (some code) })
  | load file, sandbox => (sandbox.files file, sandbox)
  | unlink file, sandbox => ((), { sandbox with files := Function.update sandbox.files file none })
  | settle job answer, sandbox => ((), { sandbox with settled := sandbox.settled ++ [(job, answer)] })

/-- **The judge**: calls arrive at any time, their steps interleave freely, and the outside lets time pass. -/
def judge (R : Runtime) : Machine execSignature Sandbox Job Unit ℕ where
  perform _ op sandbox := some (op.perform R sandbox)
  forks _ := []
  arrive _ sandbox := some sandbox
  program := Job.program R
  outside ms sandbox := some { sandbox with now := sandbox.now + ms }

end SkillArena
