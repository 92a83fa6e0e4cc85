/-
**Output in chunks.**

`executeJS` and `executePython` decode each `data` event by itself. A character of several bytes that arrives in two
events is decoded as two broken sequences, and the judge compares U+FFFD with what is expected
(`split_character_fails`).

* `listen_events` — what the listeners resolve with.
* `stdout_decoded_iff` — it is the decoding of all bytes exactly if no event ends inside a sequence that the next
  one goes on with; then the verdict does not depend on the events.
* `stdout_of_texts` — so it is if every event brings whole characters.
-/

import SkillArena.Model.Child
import SkillArena.Proof.Grading

namespace SkillArena

open Strings

/-! ### The listeners -/

theorem listen_writes (stdout stderr : Text) (writes : List (Stream × List UInt8)) (termination : Termination) :
    listen stdout stderr (Child.ran writes termination).events =
      some ⟨stdout ++ ((Child.ran writes termination).chunks .stdout).flatMap bufferToString,
        stderr ++ ((Child.ran writes termination).chunks .stderr).flatMap bufferToString,
        termination.code.getD 0⟩ := by
  induction writes generalizing stdout stderr with
  | nil =>
    show some _ = some _
    simp [Child.chunks]
  | cons write writes ih =>
    obtain ⟨stream, chunk⟩ := write
    cases stream with
    | stdout =>
      refine (ih (stdout ++ bufferToString chunk) stderr).trans ?_
      simp [Child.chunks]
    | stderr =>
      refine (ih stdout (stderr ++ bufferToString chunk)).trans ?_
      simp [Child.chunks]

/-- **The listeners resolve with what the child leaves.** -/
theorem listen_events (child : Child) : listen [] [] child.events = some child.ended.execution := by
  cases child with
  | unstarted message => rfl
  | ran writes termination => exact listen_writes [] [] writes termination

/-! ### Two ways to split the same bytes -/

/-- The same child, but for the events in which its bytes arrive. -/
def Child.Rechunked : Child → Child → Prop
  | unstarted message, unstarted message' => message = message'
  | child@(ran _ termination), child'@(ran _ termination') => termination = termination' ∧
      ∀ stream, (child.chunks stream).flatten = (child'.chunks stream).flatten
  | _, _ => False

section Whole

variable {child child' : Child}

theorem stdout_eq (child : Child) : child.ended.stdout = (child.chunks .stdout).flatMap utf8.decode := by
  cases child with
  | unstarted message => rfl
  | ran writes termination => rfl

/-- Where no event ends inside a sequence, the texts are those of all bytes. -/
theorem ended_rechunked (same : child.Rechunked child') (whole : ∀ stream, utf8.Whole (child.chunks stream))
    (whole' : ∀ stream, utf8.Whole (child'.chunks stream)) : child.ended = child'.ended := by
  cases child with
  | unstarted message =>
    cases child' with
    | unstarted message' =>
      obtain rfl : message = message' := same
      rfl
    | ran writes' termination' => exact same.elim
  | ran writes termination =>
    cases child' with
    | unstarted message' => exact same.elim
    | ran writes' termination' =>
      obtain ⟨rfl, bytes⟩ := same
      have text : ∀ stream, ((Child.ran writes termination).chunks stream).flatMap bufferToString =
          ((Child.ran writes' termination).chunks stream).flatMap bufferToString := by
        intro stream
        calc ((Child.ran writes termination).chunks stream).flatMap utf8.decode
            = utf8.decode ((Child.ran writes termination).chunks stream).flatten :=
              (Decoder.decode_flatten_iff _).mpr (whole stream)
          _ = utf8.decode ((Child.ran writes' termination).chunks stream).flatten := by rw [bytes stream]
          _ = ((Child.ran writes' termination).chunks stream).flatMap utf8.decode :=
              ((Decoder.decode_flatten_iff _).mpr (whole' stream)).symm
      show Ended.mk _ _ _ = Ended.mk _ _ _
      rw [text .stdout, text .stderr]

end Whole

/-- **The output is decoded as a whole exactly if no character is split.** For every child of `executeJS` and of
`executePython`, whatever its bytes and however they arrive, the text it is resolved with is the decoding of all
bytes exactly if no event ends inside a sequence that the next bytes go on with. And for any two ways to split the
bytes of the children that split no sequence, `evaluateCode` returns the same verdict. -/
theorem stdout_decoded_iff (R : Runtime) (python : R.python = true)
    (spawn : Extension → Option Text → Text → Child) :
    (∀ code stdin, ∃ execution,
      executeJS (isolated (R.spawning spawn)) (.str code) stdin = .ok execution ∧
      listen [] [] (spawn .js (some code) stdin).events = some execution ∧
      (execution.stdout = utf8.decode ((spawn .js (some code) stdin).chunks .stdout).flatten ↔
        utf8.Whole ((spawn .js (some code) stdin).chunks .stdout))) ∧
    (∀ code stdin, ∃ execution,
      executePython (R.spawning spawn) (isolated (R.spawning spawn)) (.str code) stdin = .ok execution ∧
      listen [] [] (spawn .py (some code) stdin).events = some execution ∧
      (execution.stdout = utf8.decode ((spawn .py (some code) stdin).chunks .stdout).flatten ↔
        utf8.Whole ((spawn .py (some code) stdin).chunks .stdout))) ∧
    ∀ spawn' : Extension → Option Text → Text → Child,
      (∀ extension source stdin, (spawn extension source stdin).Rechunked (spawn' extension source stdin) ∧
        ∀ stream, utf8.Whole ((spawn extension source stdin).chunks stream) ∧
          utf8.Whole ((spawn' extension source stdin).chunks stream)) →
      ∀ language code problemId,
        evaluateCode (R.spawning spawn) (isolated (R.spawning spawn)) language code problemId =
          evaluateCode (R.spawning spawn') (isolated (R.spawning spawn')) language code problemId := by
  have decoded : ∀ child : Child, child.ended.execution.stdout = utf8.decode (child.chunks .stdout).flatten ↔
      utf8.Whole (child.chunks .stdout) := by
    intro child
    rw [← Decoder.decode_flatten_iff, ← stdout_eq]
    exact Iff.rfl
  refine ⟨fun code stdin => ?_, fun code stdin => ?_, fun spawn' same language code problemId => ?_⟩
  · exact ⟨_, rfl, listen_events _, decoded _⟩
  · exact ⟨_, if_pos python, listen_events _, decoded _⟩
  · have equal : R.spawning spawn = R.spawning spawn' := by
      unfold Runtime.spawning
      congr 1
      funext extension source stdin
      obtain ⟨rechunked, whole⟩ := same extension source stdin
      exact ended_rechunked rechunked (fun stream => (whole stream).1) fun stream => (whole stream).2
    rw [equal]

/-- A service whose children write some bytes and exit, with one test: what is expected is `é`. -/
def writing (chunks : List (List UInt8)) : Runtime :=
  { anyRuntime with problems := fun _ => .ok (some [⟨[], some ['é'], true⟩]) }.spawning
    fun _ _ _ => .ran (chunks.map fun chunk => (.stdout, chunk)) (.exited 0)

/-- The judge's status for a program whose output arrives so. -/
def statusOfWriting (chunks : List (List UInt8)) : Except Err EvalStatus :=
  (evaluateCode (writing chunks) (isolated (writing chunks)) (.str "js".toList) (.str "x".toList) 0).map (·.status)

/-- **A character that arrives in two events is two U+FFFD**, and the answer is wrong; in one event it is right. -/
theorem split_character_fails :
    executeJS (isolated (writing [[0xC3], [0xA9]])) (.str "x".toList) [] = .ok ⟨['�', '�'], [], 0⟩ ∧
    executePython (writing [[0xC3], [0xA9]]) (isolated (writing [[0xC3], [0xA9]])) (.str "x".toList) [] =
      .ok ⟨['�', '�'], [], 0⟩ ∧
    utf8.decode [0xC3, 0xA9] = ['é'] ∧
    statusOfWriting [[0xC3], [0xA9]] = .ok .wrongAnswer ∧ statusOfWriting [[0xC3, 0xA9]] = .ok .accepted := by
  decide +kernel

/-- Two characters in two events. -/
theorem stdout_decoded_two : ∃ execution,
    executeJS (isolated (writing [[0xC3, 0xA9], [0x21]])) (.str "x".toList) [] = .ok execution ∧
      execution.stdout = utf8.decode [0xC3, 0xA9, 0x21] := by
  obtain ⟨execution, resolved, -, decoded⟩ := (stdout_decoded_iff anyRuntime rfl fun _ _ _ =>
    .ran [(.stdout, [0xC3, 0xA9]), (.stdout, [0x21])] (.exited 0)).1 "x".toList []
  have whole : utf8.Whole [[0xC3, 0xA9], [0x21]] := whole_encoded [['é'], ['!']]
  exact ⟨execution, resolved, decoded.mpr whole⟩

end SkillArena
