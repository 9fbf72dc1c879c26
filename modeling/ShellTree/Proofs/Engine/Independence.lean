import ShellTree.Proofs.Engine.Restoration
import ShellTree.Proofs.Engine.Simulation
import ShellTree.Proofs.Program.Effects
import ShellTree.Proofs.Text.Utf8

/-!
# Independence of statements

What a statement does depends on the variables, but not on what has been written
before: from two shells with the same store and unlimited sinks it ends in the same
way and writes the same texts.  Since each statement also leaves the store as it was,
the statements of a script do what each of them does alone, one after the other.
-/

namespace ShellTree

/-- Two unlimited sinks to which the same text was written since they were as given. -/
structure Sink.SameSince (start start' now now' : Sink) : Prop where
  limit : now.limit = none
  limit' : now'.limit = none
  written : ∃ text : String, now.contents = start.contents ++ text.toUTF8 ∧
    now'.contents = start'.contents ++ text.toUTF8

namespace Sink

/-- An unlimited sink takes every text. -/
theorem write_unlimited {sink : Sink} (unlimited : sink.limit = none) (text : String) :
    sink.write text = .ok { sink with contents := sink.contents ++ text.toUTF8 } := by
  simp only [write, writeBytes, accepts, unlimited, if_true]

/-- The text that was written to a sink since its first bytes. -/
theorem textFrom_append {before after : Sink} {text : String}
    (contents : after.contents = before.contents ++ text.toUTF8) :
    after.textFrom before.size = text := by
  have bytes : after.contents.data.toList =
      before.contents.data.toList ++ text.toUTF8.data.toList := by
    rw [contents, ByteArray.data_append, Array.toList_append]
  have size : before.contents.data.toList.length = before.size := rfl
  rw [textFrom, bytes, ← size, List.drop_left, Utf8.decodeLossy_toUTF8, String.ofList_toList]

namespace SameSince

variable {start start' now now' : Sink}

theorem refl (limit : now.limit = none) (limit' : now'.limit = none) :
    SameSince now now' now now' :=
  ⟨limit, limit', "", ByteArray.append_empty.symm, ByteArray.append_empty.symm⟩

/-- Writing to both sinks succeeds and keeps the relation. -/
theorem write (since : SameSince start start' now now') (text : String) :
    SameSince start start' { now with contents := now.contents ++ text.toUTF8 }
      { now' with contents := now'.contents ++ text.toUTF8 } := by
  obtain ⟨before, contents, contents'⟩ := since.written
  refine ⟨since.limit, since.limit', before ++ text, ?_, ?_⟩
  · rw [contents, ByteArray.append_assoc]
    simp only [String.toUTF8_eq_toByteArray, String.toByteArray_append]
  · rw [contents', ByteArray.append_assoc]
    simp only [String.toUTF8_eq_toByteArray, String.toByteArray_append]

/-- Both sinks got the same text. -/
theorem textFrom_eq (since : SameSince start start' now now') :
    now.textFrom start.size = now'.textFrom start'.size := by
  obtain ⟨text, contents, contents'⟩ := since.written
  rw [textFrom_append contents, textFrom_append contents']

end SameSince

end Sink

structure Shell.SameSince {ε : Type} (start start' now now' : Shell ε) : Prop where
  store : now.store = now'.store
  stdout : Sink.SameSince start.stdout start'.stdout now.stdout now'.stdout
  stderr : Sink.SameSince start.stderr start'.stderr now.stderr now'.stderr

/-- The relation of the actions that do the same whatever was written before. -/
def ActionRelation.appending {ε : Type} : ActionRelation ε ε := fun action action' =>
  ∀ start start', Action.Simulates (Shell.SameSince start start') action action'

namespace ActionRelation

variable {ε : Type}

theorem closed_appending : Closed (appending (ε := ε)) :=
  Closed.forall fun start => Closed.forall fun start' =>
    closed_simulates (Shell.SameSince start start')

theorem appending_read {α : Type} {next next' : ε → Action ε α}
    (agree : ∀ store, appending (next store) (next' store)) :
    appending (Action.store >>= next) (Action.store >>= next') := by
  intro start start'
  refine Action.Simulates.read fun shell shell' since => ?_
  rw [since.store]
  exact agree _ start start'

theorem appending_write (text : String) :
    appending (ε := ε) (Action.write text) (Action.write text) := by
  intro start start' shell shell' since
  unfold Action.write
  rw [Sink.write_unlimited since.stdout.limit, Sink.write_unlimited since.stdout.limit']
  exact .ok () ⟨since.store, since.stdout.write text, since.stderr⟩

theorem appending_writeError (text : String) :
    appending (ε := ε) (Action.writeError text) (Action.writeError text) := by
  intro start start' shell shell' since
  unfold Action.writeError
  rw [Sink.write_unlimited since.stderr.limit, Sink.write_unlimited since.stderr.limit']
  exact .ok () ⟨since.store, since.stdout, since.stderr.write text⟩

theorem appending_warn (warning : Warning) :
    appending (ε := ε) (Action.warn warning) (Action.warn warning) :=
  fun _ _ _ _ since => .ok () ⟨since.store, since.stdout, since.stderr⟩

/-- Captured output starts empty on both sides, so its texts are the same. -/
theorem appending_captured {action action' : Action ε Unit} (agree : appending action action') :
    appending (Action.captured action) (Action.captured action') := by
  intro start start'
  have inner := agree { start with stdout := {} } { start' with stdout := {} }
  refine inner.captures (fun shell shell' since => ?_) (fun after after' still => ?_)
    fun shell shell' after after' since still => ?_
  · exact ⟨since.store, .refl rfl rfl, since.stderr⟩
  · exact still.stdout.textFrom_eq
  · exact ⟨still.store, since.stdout, still.stderr⟩

variable [Store ε]

theorem appending_set (name value : String) :
    appending (ε := ε) (Action.set name value) (Action.set name value) :=
  fun _ _ _ _ since => .ok () ⟨by rw [since.store], since.stdout, since.stderr⟩

theorem appending_inScope {α : Type} {action action' : Action ε α}
    (agree : appending action action') :
    appending (Action.inScope action) (Action.inScope action') := by
  intro start start'
  refine (agree start start').scoped (fun shell shell' since => ?_)
    fun shell shell' after after' since still => ?_
  · exact ⟨by rw [since.store], since.stdout, since.stderr⟩
  · exact ⟨by rw [still.store, since.store], still.stdout, still.stderr⟩

end ActionRelation

/-! ## Programs -/

def Registry.Standard (registry : Registry Environment) : Prop :=
  ∀ program ∈ registry.programs, program ∈ Program.builtins ++ Program.probes

namespace Registry.Standard

variable {registry : Registry Environment}

theorem confined (standard : registry.Standard) : registry.Confined :=
  fun program member => Program.confined_of_mem (standard program member)

theorem uses (standard : registry.Standard) : registry.Uses fun _ => True :=
  fun program member => Program.uses_of_mem (fun _ => trivial) (fun _ => trivial)
    (standard program member) fun _ _ => trivial

end Registry.Standard

theorem Effect.appending {ε : Type} (effect : Effect ε) :
    ActionRelation.appending effect.perform effect.perform := by
  cases effect with
  | change next =>
      exact fun _ _ _ _ since => .ok _ ⟨congrArg next since.store, since.stdout, since.stderr⟩
  | write text => exact ActionRelation.appending_write text
  | complain text => exact ActionRelation.appending_writeError text

/-! ## Statements -/

namespace Engine

open ActionRelation

variable {engine : Engine Environment}

theorem invoke_appending (standard : engine.registry.Standard) (arguments : List String) :
    appending (engine.invoke arguments) (engine.invoke arguments) :=
  (invoke_uses standard.uses arguments).related_self closed_appending
    (appending_read closed_appending.pure) fun effect _ => effect.appending

/-- Nothing depends on what was written before. -/
theorem appending (standard : engine.registry.Standard) :
    Agreement engine engine ActionRelation.appending ActionRelation.appending
      ActionRelation.appending where
  sliceMode := rfl
  wordClosed := closed_appending
  callClosed := closed_appending
  statementClosed := closed_appending
  read agree := appending_read fun store => agree store store rfl
  count name _ _ := appending_set name _
  capture agree := appending_captured (appending_inScope agree)
  ofWord agree := agree
  set := appending_set
  invoke := invoke_appending standard
  warn := appending_warn
  scope := appending_inScope

theorem traceAndExecute_appending (standard : engine.registry.Standard) (statement : Statement) :
    ActionRelation.appending (engine.traceAndExecute statement)
      (engine.traceAndExecute statement) := by
  have executed := (appending standard).execute statement
  unfold traceAndExecute
  split
  · exact appending_read fun store =>
      closed_appending.bind (appending_write _) fun _ => executed
  · exact executed

end Engine

theorem Shell.SameSince.self {ε : Type} {shell : Shell ε} (stdout : shell.stdout.limit = none)
    (stderr : shell.stderr.limit = none) : SameSince shell shell shell shell :=
  ⟨rfl, .refl stdout stdout, .refl stderr stderr⟩

theorem Shell.SameSince.report {ε : Type} {start start' shell shell' : Shell ε}
    (since : SameSince start start' shell shell') (failure : Failure) :
    SameSince start start' (shell.report failure) (shell'.report failure) := by
  unfold Shell.report
  rw [Sink.write_unlimited since.stderr.limit, Sink.write_unlimited since.stderr.limit']
  exact ⟨since.store, since.stdout, since.stderr.write _⟩

/-! ## Scripts -/

namespace Engine

/-- Statements and words depend on no options but the way slices are read. -/
theorem sameEvaluation {ε : Type} [Store ε] {engine engine' : Engine ε}
    (registry : engine.registry = engine'.registry)
    (sliceMode : engine.options.sliceMode = engine'.options.sliceMode) :
    Agreement engine engine' (fun action action' => action = action')
      (fun action action' => action = action') (fun action action' => action = action') where
  sliceMode := sliceMode
  wordClosed := ActionRelation.closed_eq
  callClosed := ActionRelation.closed_eq
  statementClosed := ActionRelation.closed_eq
  read agree := congrArg (Action.store >>= ·) (funext fun store => agree store store rfl)
  count _ _ _ := rfl
  capture agree := congrArg (fun body => Action.captured (Action.inScope body)) agree
  ofWord agree := agree
  set _ _ := rfl
  invoke arguments := by
    unfold invoke
    rw [registry]
  warn _ := rfl
  scope agree := congrArg Action.inScope agree

/-- How many statements are executed when they end as given: all of them, or up to the
first status other than zero if the run stops there. -/
def executedCount (stops : Bool) (outcomes : List Outcome) : Nat :=
  match stops, outcomes.findIdx? fun outcome => outcome.exitCode ≠ 0 with
  | true, some index => index + 1
  | _, _ => outcomes.length

theorem executedCount_cons (stops : Bool) (outcome : Outcome) (rest : List Outcome) :
    executedCount stops (outcome :: rest) =
      if stops && outcome.exitCode ≠ 0 then 1 else executedCount stops rest + 1 := by
  unfold executedCount
  cases stops with
  | false => simp
  | true =>
      rw [List.findIdx?_cons]
      by_cases failed : outcome.exitCode = 0
      · simp only [failed]
        cases rest.findIdx? fun outcome => outcome.exitCode ≠ 0 <;> simp
      · simp [failed]

/-- The same engine, but it does not stop at a status other than zero. -/
def persistent (engine : Engine Environment) : Engine Environment :=
  { engine with options := { engine.options with exitOnError := false } }

theorem runStatement_persistent (engine : Engine Environment) (statement : Statement) :
    engine.persistent.runStatement statement = engine.runStatement statement := by
  have executed : engine.persistent.execute statement = engine.execute statement :=
    (sameEvaluation (by rfl) (by rfl)).execute statement
  funext shell
  simp only [runStatement, traceAndExecute, executed]
  rfl

theorem runStatements_persistent_cons (engine : Engine Environment) (last : Outcome)
    (statement : Statement) (rest : List Statement) (shell : Shell Environment) :
    engine.persistent.runStatements last (statement :: rest) shell =
      engine.persistent.runStatements (engine.runStatement statement shell).1 rest
        (engine.runStatement statement shell).2 := by
  simp only [runStatements, runStatement_persistent]
  rfl

variable {engine : Engine Environment} {shell now : Shell Environment}

/-- From a shell with the same store, a statement does what it does from the first shell. -/
theorem runStatement_since (standard : engine.registry.Standard)
    (since : Shell.SameSince shell now shell now) (statement : Statement) :
    (engine.runStatement statement shell).1 = (engine.runStatement statement now).1 ∧
      Shell.SameSince shell now (engine.runStatement statement shell).2
        (engine.runStatement statement now).2 :=
  runStatement_simulates (traceAndExecute_appending standard statement shell now)
    (fun _ _ failure since => since.report failure) since

/-- After a statement the store is the same again and the sinks are unlimited. -/
theorem runStatement_resumes (standard : engine.registry.Standard)
    (since : Shell.SameSince shell now shell now) (statement : Statement) :
    Shell.SameSince shell (engine.runStatement statement now).2 shell
      (engine.runStatement statement now).2 := by
  have after := (runStatement_since standard since statement).2
  have restored := runStatement_restored standard.confined statement now
  exact ⟨since.store.trans restored.store.symm, .refl since.stdout.limit after.stdout.limit',
    .refl since.stderr.limit after.stderr.limit'⟩

/-- Stopping at a statement is running no further than to it. -/
theorem runStatements_eq_persistent (standard : engine.registry.Standard) (last : Outcome)
    (script : List Statement) (since : Shell.SameSince shell now shell now) :
    engine.runStatements last script now =
      engine.persistent.runStatements last
        (script.take (executedCount engine.options.exitOnError
          (script.map fun statement => (engine.runStatement statement shell).1))) now := by
  induction script generalizing last now with
  | nil => simp [runStatements]
  | cons statement rest ih =>
      have same := (runStatement_since standard since statement).1
      have resumed := ih (engine.runStatement statement now).1
        (runStatement_resumes standard since statement)
      simp only [runStatements, List.map_cons, executedCount_cons, same]
      split
      · rw [List.take_succ_cons, List.take_zero, runStatements_persistent_cons]
        rfl
      · rw [List.take_succ_cons, runStatements_persistent_cons]
        exact resumed

theorem persistent_outcome (standard : engine.registry.Standard) (last : Outcome)
    (script : List Statement) (since : Shell.SameSince shell now shell now) :
    (engine.persistent.runStatements last script now).1 =
      ((script.map fun statement =>
        (engine.runStatement statement shell).1).getLast?).getD last := by
  induction script generalizing last now with
  | nil => rfl
  | cons statement rest ih =>
      have same := (runStatement_since standard since statement).1
      rw [runStatements_persistent_cons, ih _ (runStatement_resumes standard since statement),
        List.map_cons, List.getLast?_cons, ← same]
      rfl

/-- What goes to one of the sinks is what each statement writes there alone. -/
theorem persistent_contents {sink : Shell Environment → Sink}
    (sinkSince : ∀ {start start' now now' : Shell Environment},
      Shell.SameSince start start' now now' →
        Sink.SameSince (sink start) (sink start') (sink now) (sink now'))
    (standard : engine.registry.Standard) (last : Outcome) (script : List Statement)
    (since : Shell.SameSince shell now shell now) :
    (sink (engine.persistent.runStatements last script now).2).contents =
      (sink now).contents ++ (String.join (script.map fun statement =>
        (sink (engine.runStatement statement shell).2).textFrom (sink shell).size)).toUTF8 := by
  induction script generalizing last now with
  | nil => exact ByteArray.append_empty.symm
  | cons statement rest ih =>
      obtain ⟨text, alone, contents⟩ :=
        (sinkSince (runStatement_since standard since statement).2).written
      rw [runStatements_persistent_cons, ih _ (runStatement_resumes standard since statement),
        contents, List.map_cons, String.join_cons, Sink.textFrom_append alone,
        ByteArray.append_assoc]
      simp only [String.toUTF8_eq_toByteArray, String.toByteArray_append]

theorem flush_stdout {ε : Type} (shell : Shell ε) : shell.flush.stdout = shell.stdout := by
  unfold Shell.flush
  split <;> rfl

theorem flush_stderr {ε : Type} (shell : Shell ε) : shell.flush.stderr = shell.stderr := by
  unfold Shell.flush
  split <;> rfl

theorem run_singleton (engine : Engine Environment) (statement : Statement)
    (shell : Shell Environment) :
    engine.run [statement] shell =
      ((engine.runStatement statement shell).1, (engine.runStatement statement shell).2.flush) := by
  simp only [run, runStatements]
  split <;> rfl

/-- The text that a run adds to one of the sinks is joined from those of its statements. -/
theorem persistent_text {sink : Shell Environment → Sink}
    (sinkSince : ∀ {start start' now now' : Shell Environment},
      Shell.SameSince start start' now now' →
        Sink.SameSince (sink start) (sink start') (sink now) (sink now'))
    (flushed : ∀ shell : Shell Environment, sink shell.flush = sink shell)
    (standard : engine.registry.Standard) (script : List Statement)
    (since : Shell.SameSince shell shell shell shell) :
    (sink (engine.persistent.run script shell).2).textFrom (sink shell).size =
      String.join (script.map fun statement =>
        (sink (engine.run [statement] shell).2).textFrom (sink shell).size) := by
  have contents := persistent_contents sinkSince standard {} script since
  simp only [run_singleton, flushed]
  rw [run, flushed]
  exact Sink.textFrom_append contents

/-- A script does what its statements do alone, one after the other, up to the one that it
stops at: it ends like the last of them, and it writes what they write. -/
theorem run_eq_alone (engine : Engine Environment) (standard : engine.registry.Standard)
    (script : Script) (shell : Shell Environment) (stdout : shell.stdout.limit = none)
    (stderr : shell.stderr.limit = none) :
    let alone := script.map fun statement => engine.run [statement] shell
    let count := executedCount engine.options.exitOnError (alone.map Prod.fst)
    engine.run script shell = engine.persistent.run (script.take count) shell ∧
      (engine.run script shell).1 = ((alone.take count).getLast?.map Prod.fst).getD {} ∧
      (engine.run script shell).2.stdout.textFrom shell.stdout.size =
        String.join ((alone.take count).map fun done =>
          done.2.stdout.textFrom shell.stdout.size) ∧
      (engine.run script shell).2.stderr.textFrom shell.stderr.size =
        String.join ((alone.take count).map fun done =>
          done.2.stderr.textFrom shell.stderr.size) := by
  intro alone count
  have since : Shell.SameSince shell shell shell shell :=
    ⟨rfl, .refl stdout stdout, .refl stderr stderr⟩
  have outcomes : alone.map Prod.fst =
      script.map fun statement => (engine.runStatement statement shell).1 := by
    simp only [alone, List.map_map, run_singleton, Function.comp_def]
  have executed : engine.runStatements {} script shell =
      engine.persistent.runStatements {} (script.take count) shell := by
    simp only [count, outcomes]
    exact runStatements_eq_persistent standard {} script since
  have same : engine.run script shell = engine.persistent.run (script.take count) shell := by
    simp only [run, executed]
  have taken : alone.take count =
      (script.take count).map fun statement => engine.run [statement] shell :=
    List.map_take.symm
  refine ⟨same, ?_, ?_, ?_⟩
  · rw [same, taken, ← List.getLast?_map, List.map_map]
    have last := persistent_outcome standard {} (script.take count) since
    simp only [Function.comp_def, run_singleton]
    exact last
  · rw [same, taken, List.map_map]
    exact persistent_text (fun since => since.stdout) flush_stdout standard _ since
  · rw [same, taken, List.map_map]
    exact persistent_text (fun since => since.stderr) flush_stderr standard _ since

def strict : Engine Environment where
  options := { exitOnError := true }
  registry := ⟨Program.builtins ++ Program.probes⟩

/-- Statements of which the second binds a variable, the third reads it, the fourth has a
status other than zero and the last is not executed. -/
def stopping : Script :=
  [["echo", "a"], ["set-var", "x", "7"], ["printenv", "x"], ["exit-with", "3"], ["echo", "b"]].map
    fun texts => .ofCommand (.ofTexts texts)

theorem stopping_eq_alone :
    strict.registry.Standard ∧ layered.stdout.limit = none ∧ layered.stderr.limit = none ∧
      (strict.run stopping layered).1.exitCode = 3 ∧
      strict.run stopping layered = strict.persistent.run (stopping.take 4) layered ∧
      (strict.run stopping layered).2.stdout.textFrom layered.stdout.size = "a\n1\n" := by
  have standard : strict.registry.Standard := fun _ member => member
  have count : executedCount strict.options.exitOnError
      ((stopping.map fun statement => strict.run [statement] layered).map Prod.fst) = 4 := by
    decide +kernel
  obtain ⟨same, -, texts, -⟩ := run_eq_alone strict standard stopping layered rfl rfl
  rw [count] at same texts
  have status : (strict.run stopping layered).1.exitCode = 3 := by decide +kernel
  exact ⟨standard, rfl, rfl, status, same, texts.trans (by decide +kernel)⟩

end Engine

end ShellTree
