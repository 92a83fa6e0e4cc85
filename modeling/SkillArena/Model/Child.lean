/-
**A child process and its listeners.**

`executeJS` and `executePython` learn of their child by events: `data` on one of its two streams, with some of the
bytes that were written, then `close`, with the exit status or with `null` if a signal ended the child; or `error`,
if there is no child. The listeners decode the bytes of each event by themselves and append the text, and the first
of `close` and `error` resolves the promise.

`Child.ended` is what the rest of the model knows of a child.
-/

import SkillArena.Model.Executor
import SkillArena.Strings.Utf8

namespace SkillArena

open Strings

/-- The two streams that are listened to. -/
inductive Stream
  | stdout
  | stderr
  deriving DecidableEq, Repr

/-- **What a child emits.** -/
inductive ChildEvent
  | data (stream : Stream) (chunk : List UInt8)
  | close (code : Option ℤ)
  | error (message : Text)
  deriving DecidableEq, Repr

/-- `d.toString()`: the bytes of one event, decoded by themselves. -/
def bufferToString (chunk : List UInt8) : Text := utf8.decode chunk

/-- **The listeners of an executor**, with the two texts they have put together; a promise is resolved once, and
without `close` and `error` it is not. -/
def listen (stdout stderr : Text) : List ChildEvent → Option Execution
  | [] => none
  | .data .stdout chunk :: rest => listen (stdout ++ bufferToString chunk) stderr rest
  | .data .stderr chunk :: rest => listen stdout (stderr ++ bufferToString chunk) rest
  | .close code :: _ => some ⟨stdout, stderr, code.getD 0⟩
  | .error message :: _ => some ⟨[], message, 1⟩

/-- How a process terminates. -/
inductive Termination
  | exited (status : ℤ)
  | signalled (signal : ℕ)
  deriving DecidableEq, Repr

/-- The `code` of `close`. -/
def Termination.code : Termination → Option ℤ
  | exited status => some status
  | signalled _ => none

/-- **A child**: there is none, or it writes to its streams, as the events arrive, and terminates. -/
inductive Child
  | unstarted (message : Text)
  | ran (writes : List (Stream × List UInt8)) (termination : Termination)
  deriving DecidableEq, Repr

namespace Child

/-- The events of a child. -/
def events : Child → List ChildEvent
  | unstarted message => [.error message]
  | ran writes termination => writes.map (fun write => .data write.1 write.2) ++ [.close termination.code]

/-- The bytes written to a stream, as they arrive. -/
def chunks (stream : Stream) : Child → List (List UInt8)
  | unstarted _ => []
  | ran writes _ => (writes.filter (·.1 = stream)).map (·.2)

/-- What a child leaves. -/
def ended (child : Child) : Ended :=
  match child with
  | unstarted message => ⟨[], message, some 1⟩
  | ran _ termination =>
    ⟨(child.chunks .stdout).flatMap bufferToString, (child.chunks .stderr).flatMap bufferToString, termination.code⟩

end Child

/-- The service, where the interpreters are child processes. -/
def Runtime.spawning (R : Runtime) (spawn : Extension → Option Text → Text → Child) : Runtime :=
  { R with run := fun extension source stdin => (spawn extension source stdin).ended }

end SkillArena
