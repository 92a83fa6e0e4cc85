/-
**Executions apart from each other.**

Two executions that are started in one millisecond write to one file: the second overwrites the code of the
first, and whichever child closes first takes the file away from the other. A submission is then judged by
the code of another one (`judged_by_another`).

A run in which no execution is launched onto the file of one that has not closed yet keeps the executions
apart: every child reads the code its call was given, and every call is answered as if it were the only one
(`runs_own_code`). Every call keeps a contract (`isolation`) under which it computes what it computes alone
(`answer_computes`), and the invariant (`Apart`) says that the files in use are distinct and hold what their
children are about to read.
-/

import SkillArena.Model.Executor

namespace SkillArena

open Async

/-! ### One call -/

/-- Where a call is: between executions, or in one, before or after the child has read its source. -/
inductive Stage
  | between
  | launched (file : FileName)
  | loaded (file : FileName)

/-- **What a call may do** if the file of its execution holds its code until the child has read it. -/
def isolation (R : Runtime) : Contract execSignature where
  Phase := Job × Stage
  may phase op :=
    match phase.2, op with
    | .between, .testCases _ => True
    | .between, .launch _ code => phase.1.code.text? = some code
    | .between, .settle job answer => job = phase.1 ∧ answer = phase.1.outcome R
    | .launched file, .load file' => file' = file
    | .loaded file, .unlink file' => file' = file
    | _, _ => False
  answers phase
    | .testCases problemId, reply => reply = R.problems problemId
    | .load _, reply => reply = phase.1.code.text?
    | _, _ => True
  after phase
    | .launch .., file => (phase.1, .launched file)
    | .load file, _ => (phase.1, .loaded file)
    | .unlink _, _ => (phase.1, .between)
    | .testCases _, _ => phase
    | .settle .., _ => phase

section Call

variable {R : Runtime} {job : Job}

/-- **One execution**: written, read, removed. -/
theorem executeFile_computes (extension : Extension) (stdin : Text) :
    ((processes R).executeFile extension job.code stdin).Computes (isolation R) (job, .between)
      ((isolated R).executeFile extension job.code stdin) := by
  simp only [processes, isolated]
  cases given : job.code.text? with
  | none => exact Task.computes_throw _
  | some text =>
    refine ⟨given, fun file _ => ⟨rfl, fun source read => ⟨rfl, fun _ _ => ⟨?_, rfl⟩⟩⟩⟩
    have same : source = some text := read.trans given
    rw [same]
    rfl

theorem executeCode_computes (language : JsVal) (stdin : Text) :
    (executeCode R (processes R) language job.code stdin).Computes (isolation R) (job, .between)
      (executeCode R (isolated R) language job.code stdin) := by
  cases language with
  | str name =>
    simp only [executeCode, executeJS, executePython]
    split
    · exact executeFile_computes .js stdin
    · split
      · split
        · exact executeFile_computes .py stdin
        · exact Task.computes_pure _
      · exact Task.computes_pure _
  | undefined => exact Task.computes_pure _
  | null => exact Task.computes_pure _
  | bool value => exact Task.computes_throw _
  | num value => exact Task.computes_throw _
  | object => exact Task.computes_throw _

/-- The loop over the test cases, by induction on those that are left. -/
theorem runTests_computes {execute : Text → ExecTask Execution} {alone : Text → Except Err Execution}
    (each : ∀ stdin, (execute stdin).Computes (isolation R) (job, .between) (alone stdin)) (total : ℕ)
    (testCases : List TestCase) (passed : ℕ) :
    (runTests execute total passed testCases).Computes (isolation R) (job, .between)
      (runTests alone total passed testCases) := by
  induction testCases generalizing passed with
  | nil => exact Task.computes_pure _
  | cons testCase rest ih =>
    refine Task.computes_bind (each testCase.input) fun execution => ?_
    split
    · exact Task.computes_pure _
    · exact ih _

theorem evaluateCode_computes (language : JsVal) (problemId : ProblemId) :
    (evaluateCode R (processes R) language job.code problemId).Computes (isolation R) (job, .between)
      (evaluateCode R (isolated R) language job.code problemId) := by
  refine Task.computes_tryCatch (Task.computes_bind ?_ fun found => ?_) fun err => Task.computes_pure _
  · exact ⟨trivial, fun reply answer => ⟨answer, rfl⟩⟩
  · cases found with
    | none => exact Task.computes_pure _
    | some testCases => exact runTests_computes (executeCode_computes language) _ testCases 0

/-- **Under the contract a call is answered as if it were the only one.** -/
theorem answer_computes : (job.answer R).Computes (isolation R) (job, .between) (.ok (job.outcome R)) := by
  cases job with
  | execution language code stdin =>
    have computed := @executeCode_computes R (.execution language code stdin) language stdin
    exact Task.computes_bind (Task.computes_settled computed) fun result => Task.computes_pure _
  | submission language code problemId =>
    have computed := @evaluateCode_computes R (.submission language code problemId) language problemId
    exact Task.computes_bind (Task.computes_settled computed) fun result => Task.computes_pure _

theorem program_keeps : (job.program R).Keeps (isolation R) (job, .between) fun _ phase => phase.2 = .between := by
  refine (Task.keeps_run _ _ _).mpr ((Task.keeps_bind _ _ _ _).mpr (answer_computes.mono ?_))
  rintro _ _ ⟨rfl, rfl⟩
  exact ⟨⟨rfl, rfl⟩, fun _ _ => rfl⟩

end Call

/-! ### The calls together -/

/-- The file of an execution in flight, with what it has to hold; nothing once the child has read it. -/
def claims (entry : Job × (Job × Stage)) : List (FileName × Option (Option Text)) :=
  match entry.2.2 with
  | .between => []
  | .launched file => [(file, some entry.2.1.code.text?)]
  | .loaded file => [(file, none)]

/-- **The executions are apart**: their files are distinct and hold what is still to be read. -/
structure Apart (R : Runtime) (sandbox : Sandbox) (phases : List (Job × (Job × Stage))) : Prop where
  own : ∀ entry ∈ phases, entry.2.1 = entry.1
  distinct : ((phases.flatMap claims).map (·.1)).Nodup
  held : ∀ claim ∈ phases.flatMap claims, ∀ content, claim.2 = some content → sandbox.files claim.1 = content
  right : ∀ entry ∈ sandbox.settled, entry.2 = entry.1.outcome R

namespace Apart

variable {R : Runtime} {sandbox sandbox' : Sandbox} {phases : List (Job × (Job × Stage))} {index : ℕ}
  {job : Job} {stage stage' : Stage}

theorem own_set (apart : Apart R sandbox phases) :
    ∀ entry ∈ phases.set index (job, (job, stage')), entry.2.1 = entry.1 := by
  intro entry member
  rcases List.mem_or_eq_of_mem_set member with before | rfl
  · exact apart.own entry before
  · rfl

theorem step (apart : Apart R sandbox phases) (found : phases[index]? = some (job, (job, stage)))
    (right : ∀ entry ∈ sandbox'.settled, entry.2 = entry.1.outcome R)
    (moves : ∀ others, ((claims (job, (job, stage)) ++ others).map (·.1)).Nodup →
      (∀ claim ∈ claims (job, (job, stage)) ++ others, claim ∈ phases.flatMap claims) →
      ((claims (job, (job, stage')) ++ others).map (·.1)).Nodup ∧
        ∀ claim ∈ claims (job, (job, stage')) ++ others, ∀ content, claim.2 = some content →
          sandbox'.files claim.1 = content) :
    Apart R sandbox' (phases.set index (job, (job, stage'))) := by
  obtain ⟨others, before, after⟩ := flatMap_set claims found
  have now := moves others ((before.map _).nodup_iff.mp apart.distinct) fun claim member =>
    before.mem_iff.mpr member
  refine ⟨apart.own_set, ((after _).map _).nodup_iff.mpr now.1, fun claim member => ?_, right⟩
  exact now.2 claim ((after _).mem_iff.mp member)

theorem launch (apart : Apart R sandbox phases) (found : phases[index]? = some (job, (job, .between)))
    {extension : Extension} {code : Text} (given : job.code.text? = some code)
    (unused : ⟨sandbox.now, extension⟩ ∉ (phases.flatMap claims).map (·.1)) :
    Apart R ((ExecOp.launch extension code).perform R sandbox).2
      (phases.set index (job, (job, .launched ⟨sandbox.now, extension⟩))) := by
  refine apart.step found apart.right fun others distinct inside => ?_
  have fresh : ∀ claim ∈ others, claim.1 ≠ ⟨sandbox.now, extension⟩ := by
    rintro claim member same
    exact unused (List.mem_map.mpr ⟨claim, inside claim member, same⟩)
  refine ⟨List.nodup_cons.mpr ⟨fun member => ?_, distinct⟩, fun claim member content holds => ?_⟩
  · obtain ⟨claim, member, same⟩ := List.mem_map.mp member
    exact fresh claim member same
  · show Function.update sandbox.files _ _ claim.1 = content
    rcases List.mem_cons.mp member with rfl | member
    · cases holds
      rw [Function.update_self, given]
    · rw [Function.update_of_ne (fresh claim member)]
      exact apart.held claim (inside claim member) content holds

theorem load {file : FileName} (apart : Apart R sandbox phases)
    (found : phases[index]? = some (job, (job, .launched file))) :
    Apart R sandbox (phases.set index (job, (job, .loaded file))) := by
  refine apart.step found apart.right fun others distinct inside => ⟨distinct, fun claim member content holds => ?_⟩
  rcases List.mem_cons.mp member with rfl | member
  · cases holds
  · exact apart.held claim (inside claim (.tail _ member)) content holds

theorem unlink {file : FileName} (apart : Apart R sandbox phases)
    (found : phases[index]? = some (job, (job, .loaded file))) :
    Apart R ((ExecOp.unlink file).perform R sandbox).2 (phases.set index (job, (job, .between))) := by
  refine apart.step found apart.right fun others distinct inside => ?_
  obtain ⟨alone, distinct⟩ := List.nodup_cons.mp distinct
  refine ⟨distinct, fun claim member content holds => ?_⟩
  have other : claim.1 ≠ file := fun same => alone (List.mem_map.mpr ⟨claim, member, same⟩)
  show Function.update sandbox.files _ _ claim.1 = content
  rw [Function.update_of_ne other]
  exact apart.held claim (inside claim (.tail _ member)) content holds

theorem reads {file : FileName} (apart : Apart R sandbox phases)
    (found : phases[index]? = some (job, (job, .launched file))) : sandbox.files file = job.code.text? := by
  obtain ⟨others, before, _⟩ := flatMap_set claims found
  exact apart.held (file, some job.code.text?) (before.mem_iff.mpr (.head _)) _ rfl

theorem stay (apart : Apart R sandbox phases) (found : phases[index]? = some (job, (job, stage)))
    (files : sandbox'.files = sandbox.files) (right : ∀ entry ∈ sandbox'.settled, entry.2 = entry.1.outcome R) :
    Apart R sandbox' (phases.set index (job, (job, stage))) := by
  refine apart.step found right fun others distinct inside => ⟨distinct, fun claim member => ?_⟩
  rw [files]
  exact apart.held claim (inside claim member)

/-- **Every step of a call keeps the executions apart**, if a launch finds its file unused. -/
theorem perform {op : ExecOp} (apart : Apart R sandbox phases)
    (found : phases[index]? = some (job, (job, stage))) (may : (isolation R).may (job, stage) op)
    (unused : ∀ extension code, op = .launch extension code →
      ⟨sandbox.now, extension⟩ ∉ (phases.flatMap claims).map (·.1)) :
    (isolation R).answers (job, stage) op (op.perform R sandbox).1 ∧
      Apart R (op.perform R sandbox).2
        (phases.set index (job, (isolation R).after (job, stage) op (op.perform R sandbox).1)) := by
  cases stage with
  | between =>
    cases op with
    | testCases problemId => exact ⟨rfl, apart.stay found rfl apart.right⟩
    | launch extension code => exact ⟨trivial, apart.launch found may (unused extension code rfl)⟩
    | settle job' answer =>
      obtain ⟨rfl, rfl⟩ := may
      refine ⟨trivial, apart.stay found rfl fun entry member => ?_⟩
      rcases List.mem_append.mp member with before | last
      · exact apart.right entry before
      · cases List.mem_singleton.mp last
        rfl
    | load file => cases may
    | unlink file => cases may
  | launched file =>
    cases op with
    | load file' =>
      cases may
      exact ⟨apart.reads found, apart.load found⟩
    | _ => cases may
  | loaded file =>
    cases op with
    | unlink file' =>
      cases may
      exact ⟨trivial, apart.unlink found⟩
    | _ => cases may

theorem start (apart : Apart R sandbox phases) (job : Job) :
    Apart R sandbox (phases ++ [(job, (job, .between))]) := by
  have none : (phases ++ [(job, (job, Stage.between))]).flatMap claims = phases.flatMap claims := by
    rw [List.flatMap_append]
    exact List.append_nil _
  refine ⟨fun entry member => ?_, none ▸ apart.distinct, none ▸ apart.held, apart.right⟩
  rcases List.mem_append.mp member with before | last
  · exact apart.own entry before
  · cases List.mem_singleton.mp last
    rfl

end Apart

/-- The program is in an execution that uses a file. -/
def FileName.usedBy (file : FileName) (prog : Prog execSignature Unit) : Bool :=
  match prog.head with
  | some (.load file') | some (.unlink file') => file' = file
  | _ => false

/-- **The condition**: no execution is launched in the millisecond in which one with the same extension was
launched that has not closed yet. -/
def unshared (c : Config execSignature Sandbox Job) : Move Job Unit ℕ → Bool
  | .step index _ =>
    match c.threads[index]? with
    | some (_, .await (.launch extension _) _) =>
      c.threads.all fun thread => !FileName.usedBy ⟨c.state.now, extension⟩ thread.2
    | _ => true
  | _ => true

theorem usedBy_of_claimed {R : Runtime} {c : Config execSignature Sandbox Job}
    {phases : List (Job × (Job × Stage))}
    (tracks : Tracks (isolation R) (fun phase => phase.2 = .between) c phases) {file : FileName}
    (claimed : file ∈ (phases.flatMap claims).map (·.1)) : ∃ thread ∈ c.threads, file.usedBy thread.2 = true := by
  obtain ⟨claim, member, rfl⟩ := List.mem_map.mp claimed
  obtain ⟨⟨event, job, stage⟩, inside, claim_mem⟩ := List.mem_flatMap.mp member
  obtain ⟨index, found⟩ := List.getElem?_of_mem inside
  obtain ⟨prog, there, keeps⟩ := tracks.get_of_phase found
  refine ⟨(event, prog), List.mem_of_getElem? there, ?_⟩
  cases stage with
  | between => cases claim_mem
  | launched file =>
    cases List.mem_singleton.mp claim_mem
    cases prog with
    | done value => cases keeps
    | await op next =>
      have asked := keeps.1
      cases op with
      | load file' => exact decide_eq_true asked
      | _ => cases asked
  | loaded file =>
    cases List.mem_singleton.mp claim_mem
    cases prog with
    | done value => cases keeps
    | await op next =>
      have asked := keeps.1
      cases op with
      | unlink file' => exact decide_eq_true asked
      | _ => cases asked

/-- **The discipline of the judge.** -/
def apartness (R : Runtime) : Discipline (judge R) (fun c move => unshared c move = true) (isolation R) where
  enter job := (job, .between)
  finished phase := phase.2 = .between
  Inv := Apart R
  keeps _ _ _ := program_keeps
  start c phases event state _ apart _ arrived := by
    cases arrived
    exact apart.start event
  step c phases index choice event op next phase reply state tracks apart allowed found inPhase may performed := by
    obtain ⟨job, stage⟩ := phase
    have same : job = event := apart.own _ (List.mem_of_getElem? inPhase)
    subst same
    obtain ⟨rfl, rfl⟩ : (op.perform R c.state).1 = reply ∧ (op.perform R c.state).2 = state :=
      Prod.ext_iff.mp (Option.some.inj performed)
    have unused : ∀ extension code, op = .launch extension code →
        ⟨c.state.now, extension⟩ ∉ (phases.flatMap claims).map (·.1) := by
      rintro extension code rfl claimed
      obtain ⟨thread, member, used⟩ := usedBy_of_claimed tracks claimed
      have free : c.threads.all
          (fun thread => !FileName.usedBy ⟨c.state.now, extension⟩ thread.2) = true := by
        simpa only [unshared, found] using allowed
      have unused := List.all_eq_true.mp free thread member
      rw [used] at unused
      cases unused
    obtain ⟨answers, kept⟩ := apart.perform inPhase may unused
    exact ⟨answers, fun child => nofun, (List.append_nil _).symm ▸ kept⟩
  outside c phases ms state _ apart _ acted := by
    cases acted
    exact ⟨apart.own, apart.distinct, apart.held, apart.right⟩

/-- **Every execution runs the code it was given.** In a run that meets the condition, a child that is about to
read its source finds the code of its call, and every call has been answered as if it were the only one. -/
theorem runs_own_code (R : Runtime) {c₀ c : Config execSignature Sandbox Job} (idle : c₀.threads = [])
    (unsettled : c₀.state.settled = [])
    (run : Reaches (judge R) (fun c move => unshared c move = true) c₀ c) :
    (∀ thread ∈ c.threads, ∀ file, thread.2.head = some (.load file) →
      c.state.files file = thread.1.code.text?) ∧
    ∀ entry ∈ c.state.settled, entry.2 = entry.1.outcome R := by
  have initial : Apart R c₀.state [] :=
    ⟨fun _ => nofun, List.nodup_nil, fun _ => nofun, unsettled ▸ fun _ => nofun⟩
  obtain ⟨phases, tracks, apart⟩ := (apartness R).holds ⟨[], tracks_nil idle, initial⟩ run
  refine ⟨fun thread member file reads => ?_, apart.right⟩
  obtain ⟨event, prog⟩ := thread
  obtain ⟨index, found⟩ := List.getElem?_of_mem member
  obtain ⟨⟨job, stage⟩, inPhase, keeps⟩ := tracks.get found
  have same : job = event := apart.own _ (List.mem_of_getElem? inPhase)
  subst same
  obtain ⟨next, rfl⟩ := Prog.await_of_head reads
  have asked := keeps.1
  cases stage with
  | launched file' =>
    cases asked
    exact apart.reads inPhase
  | between => cases asked
  | loaded file' => cases asked

/-! ### Two submissions -/

/-- Interpreters that print their source. -/
def printing : Runtime where
  python := true
  run
    | _, some source, _ => ⟨source, [], some 0⟩
    | _, none, _ => ⟨[], "No such file".toList, some 1⟩
  problems _ := .ok (some [⟨[], some "1".toList, true⟩])
  message _ := []

/-- A submission in JavaScript. -/
def jsSubmission (code : String) : Job := .submission (.str "javascript".toList) (.str code.toList) 3

/-- The right submission is launched, the wrong one in the same millisecond; then the first one is run to its
end. -/
def inOneMillisecond : List (Move Job Unit ℕ) :=
  [.start (jsSubmission "1"), .start (jsSubmission "2"), .step 0 (), .step 1 (), .step 0 (), .step 1 (),
    .step 0 (), .step 0 (), .step 0 ()]

/-- **A submission is judged by the code of another one**, and rejected; by itself it is accepted. -/
theorem judged_by_another : ∃ c, Reaches (judge printing) (fun _ _ => True) ⟨{ now := 5 }, []⟩ c ∧
    c.state.settled = [(jsSubmission "1", .verdict (.ok
      { score := .int 0, passed := 0, total := 1, status := .wrongAnswer }))] ∧
    (jsSubmission "1").outcome printing = .verdict (.ok
      { score := .int 100, passed := 1, total := 1, status := .accepted }) := by
  obtain ⟨c, run, ended⟩ := Machine.exists_run (judge printing) (fun _ _ => true) ⟨{ now := 5 }, []⟩
    inOneMillisecond (fun c => decide (c.state.settled = [(jsSubmission "1", .verdict (.ok
      { score := .int 0, passed := 0, total := 1, status := .wrongAnswer }))])) (by decide +kernel)
  exact ⟨c, run.mono fun _ _ _ => trivial, of_decide_eq_true ended, by decide +kernel⟩

/-- The same two submissions, the second launched a millisecond later. -/
def inTwoMilliseconds : List (Move Job Unit ℕ) :=
  [.start (jsSubmission "1"), .start (jsSubmission "2"), .step 0 (), .step 1 (), .step 0 (), .outside 1, .step 1 (),
    .step 0 (), .step 0 (), .step 0 (), .step 1 (), .step 1 (), .step 1 ()]

theorem runs_own_code_two : ∃ c, Reaches (judge printing) (fun c move => unshared c move = true)
    ⟨{ now := 5 }, []⟩ c ∧ c.state.settled.map (·.1) = [jsSubmission "1", jsSubmission "2"] ∧
      ∀ entry ∈ c.state.settled, entry.2 = entry.1.outcome printing := by
  obtain ⟨c, run, ended⟩ := Machine.exists_run (judge printing) unshared ⟨{ now := 5 }, []⟩
    inTwoMilliseconds (fun c => decide (c.state.settled.map (·.1) = [jsSubmission "1", jsSubmission "2"]))
    (by decide +kernel)
  exact ⟨c, run, of_decide_eq_true ended, (runs_own_code printing rfl rfl run).2⟩

end SkillArena
