import ShellTree.Proofs.Engine.Expansion

/-!
# Transparency of tracing

An engine that prints what it executes does the same as one that does not, but for the
lines that it prints.  A trace line goes to the standard output before its statement, and
nothing that the statement does depends on what was written before.  Since each statement
leaves the variables as they were, all lines start in the same way.

The statements of a command substitution are executed and not run, so they have no
trace lines, and no word can capture one.
-/

namespace ShellTree

namespace Engine

def printing {ε : Type} (engine : Engine ε) (flag : Bool) : Engine ε :=
  { engine with options := { engine.options with printExecuted := flag } }

/-- Printing is a matter of running, not of evaluation. -/
theorem printing_evaluation {ε : Type} [Store ε] (engine : Engine ε) (flag flag' : Bool) :
    Agreement (engine.printing flag) (engine.printing flag')
      (fun action action' => action = action') (fun action action' => action = action')
      (fun action action' => action = action') :=
  sameEvaluation rfl rfl

variable (engine : Engine Environment) {shell : Shell Environment}

/-! ## One statement -/

/-- A traced statement does what it does without tracing once its line is written. -/
theorem runStatement_printing (stdout : shell.stdout.limit = none) (statement : Statement) :
    (engine.printing true).runStatement statement shell =
      (engine.printing false).runStatement statement
        (shell.wrote (traceLine shell.store statement)) := by
  have executed : (engine.printing true).execute statement =
      (engine.printing false).execute statement :=
    (printing_evaluation engine true false).execute statement
  have written : Action.write (traceLine shell.store statement) shell =
      .ok () (shell.wrote (traceLine shell.store statement)) :=
    Action.write_of_accepts (Sink.accepts_of_unlimited stdout _)
  have traced : (engine.printing true).traceAndExecute statement shell =
      (engine.printing false).execute statement
        (shell.wrote (traceLine shell.store statement)) := by
    have line : (engine.printing true).traceAndExecute statement shell =
        (Action.write (traceLine shell.store statement) >>= fun _ =>
          (engine.printing true).execute statement) shell := rfl
    rw [line, executed]
    simp only [bind, EStateM.bind, written]
  unfold runStatement
  rw [traced]
  rfl

section

variable (standard : engine.registry.Standard) (stdout : shell.stdout.limit = none)
  (stderr : shell.stderr.limit = none)
include standard stdout stderr

/-- A traced statement ends in the same way, and after its line it writes the same. -/
theorem runStatement_printing_since (statement : Statement) :
    ((engine.printing false).runStatement statement shell).1 =
        ((engine.printing true).runStatement statement shell).1 ∧
      Shell.SameSince shell (shell.wrote (traceLine shell.store statement))
        ((engine.printing false).runStatement statement shell).2
        ((engine.printing true).runStatement statement shell).2 := by
  have since : Shell.SameSince shell (shell.wrote (traceLine shell.store statement)) shell
      (shell.wrote (traceLine shell.store statement)) :=
    ⟨rfl, .refl stdout stdout, .refl stderr stderr⟩
  have plain : (engine.printing false).registry.Standard := standard
  rw [runStatement_printing engine stdout]
  exact runStatement_since plain since statement

theorem run_printing_outcome (statement : Statement) :
    ((engine.printing true).run [statement] shell).1 =
      ((engine.printing false).run [statement] shell).1 := by
  rw [run_singleton, run_singleton]
  exact (runStatement_printing_since engine standard stdout stderr statement).1.symm

/-- What a traced statement writes is its line and what it writes without tracing. -/
theorem run_printing_stdout (statement : Statement) :
    ((engine.printing true).run [statement] shell).2.stdout.textFrom shell.stdout.size =
      traceLine shell.store statement ++
        ((engine.printing false).run [statement] shell).2.stdout.textFrom
          shell.stdout.size := by
  have since := (runStatement_printing_since engine standard stdout stderr statement).2
  obtain ⟨text, contents, contents'⟩ := since.stdout.written
  have whole : ((engine.printing true).runStatement statement shell).2.stdout.contents =
      shell.stdout.contents ++ (traceLine shell.store statement ++ text).toUTF8 := by
    simp only [contents', String.toUTF8_eq_toByteArray, String.toByteArray_append]
    exact ByteArray.append_assoc
  rw [run_singleton, run_singleton, flush_stdout, flush_stdout, Sink.textFrom_append whole,
    Sink.textFrom_append contents]

theorem run_printing_stderr (statement : Statement) :
    ((engine.printing true).run [statement] shell).2.stderr.textFrom shell.stderr.size =
      ((engine.printing false).run [statement] shell).2.stderr.textFrom shell.stderr.size := by
  have since := (runStatement_printing_since engine standard stdout stderr statement).2
  rw [run_singleton, run_singleton, flush_stderr, flush_stderr]
  exact since.stderr.textFrom_eq.symm

end

/-! ## Scripts -/

/-- The statements of a script that are executed: all of them, or those up to the first one
that alone has a status other than zero, if the engine stops there. -/
def executed (script : Script) (shell : Shell Environment) : List Statement :=
  script.take (executedCount engine.options.exitOnError
    (script.map fun statement => (engine.run [statement] shell).1))

section

variable (standard : engine.registry.Standard) (stdout : shell.stdout.limit = none)
  (stderr : shell.stderr.limit = none)
include standard stdout stderr

theorem runStatements_eq_executed (script : Script) :
    engine.runStatements {} script shell =
      engine.persistent.runStatements {} (engine.executed script shell) shell := by
  simp only [executed, run_singleton]
  exact runStatements_eq_persistent standard {} script (.self stdout stderr)

theorem run_outcome (script : Script) :
    (engine.run script shell).1 = (((engine.executed script shell).map fun statement =>
      (engine.run [statement] shell).1).getLast?).getD {} := by
  simp only [run_singleton]
  rw [run, runStatements_eq_executed engine standard stdout stderr script]
  exact persistent_outcome standard {} _ (.self stdout stderr)

/-- What a run adds to one of the sinks is what the executed statements add to it alone. -/
theorem run_contents {sink : Shell Environment → Sink}
    (sinkSince : ∀ {start start' now now' : Shell Environment},
      Shell.SameSince start start' now now' →
        Sink.SameSince (sink start) (sink start') (sink now) (sink now'))
    (flushed : ∀ shell : Shell Environment, sink shell.flush = sink shell)
    (script : Script) :
    (sink (engine.run script shell).2).contents =
      (sink shell).contents ++ (String.join ((engine.executed script shell).map fun statement =>
        (sink (engine.run [statement] shell).2).textFrom (sink shell).size)).toUTF8 := by
  simp only [run_singleton, flushed]
  rw [run, runStatements_eq_executed engine standard stdout stderr script, flushed]
  exact persistent_contents sinkSince standard {} _ (.self stdout stderr)

theorem run_stdout (script : Script) :
    (engine.run script shell).2.stdout.contents =
      shell.stdout.contents ++ (String.join ((engine.executed script shell).map fun statement =>
        (engine.run [statement] shell).2.stdout.textFrom shell.stdout.size)).toUTF8 :=
  run_contents engine standard stdout stderr (fun since => since.stdout) flush_stdout script

theorem run_stderr (script : Script) :
    (engine.run script shell).2.stderr.contents =
      shell.stderr.contents ++ (String.join ((engine.executed script shell).map fun statement =>
        (engine.run [statement] shell).2.stderr.textFrom shell.stderr.size)).toUTF8 :=
  run_contents engine standard stdout stderr (fun since => since.stderr) flush_stderr script

/-- Tracing does not change which statements are executed. -/
theorem executed_printing (script : Script) :
    (engine.printing true).executed script shell =
      (engine.printing false).executed script shell := by
  unfold executed
  simp only [run_printing_outcome engine standard stdout stderr]
  rfl

end

/-- Tracing changes neither how a script ends nor the variables nor the standard error.  To the
standard output it adds one line before what each executed statement writes, with the value
that `PS4` has at the beginning.  Nothing inside of a statement depends on it: statements of
substitutions are executed in the same way, and words expand to the same texts. -/
theorem run_transparent (engine : Engine Environment) (standard : engine.registry.Standard)
    (script : Script) (shell : Shell Environment) (stdout : shell.stdout.limit = none)
    (stderr : shell.stderr.limit = none) :
    let traced := engine.printing true
    let plain := engine.printing false
    let output := fun statement =>
      (plain.run [statement] shell).2.stdout.textFrom shell.stdout.size
    let line := fun (statement : Statement) =>
      (shell.store.get? "PS4").getD "+ " ++ statement.render ++ "\n"
    (traced.run script shell).1 = (plain.run script shell).1 ∧
      (traced.run script shell).2.store = (plain.run script shell).2.store ∧
      (traced.run script shell).2.stderr.contents = (plain.run script shell).2.stderr.contents ∧
      (plain.run script shell).2.stdout.contents = shell.stdout.contents ++
        (String.join ((plain.executed script shell).map output)).toUTF8 ∧
      (traced.run script shell).2.stdout.contents = shell.stdout.contents ++
        (String.join ((plain.executed script shell).map fun statement =>
          line statement ++ output statement)).toUTF8 ∧
      (∀ statements, traced.executeAll statements = plain.executeAll statements) ∧
      ∀ (word : Word) (inner : Shell Environment) (sink sink' : Sink),
        Action.Alike (Shell.Apart sink sink')
          (traced.expandWord word { inner with stdout := sink })
          (plain.expandWord word { inner with stdout := sink' }) := by
  intro traced plain output line
  have same : traced.executed script shell = plain.executed script shell :=
    executed_printing engine standard stdout stderr script
  have outcomes (statement : Statement) :
      (traced.run [statement] shell).1 = (plain.run [statement] shell).1 :=
    run_printing_outcome engine standard stdout stderr statement
  have outputs (statement : Statement) :
      (traced.run [statement] shell).2.stdout.textFrom shell.stdout.size =
        line statement ++ output statement :=
    run_printing_stdout engine standard stdout stderr statement
  have complaints (statement : Statement) :
      (traced.run [statement] shell).2.stderr.textFrom shell.stderr.size =
        (plain.run [statement] shell).2.stderr.textFrom shell.stderr.size :=
    run_printing_stderr engine standard stdout stderr statement
  refine ⟨?_, ?_, ?_, run_stdout plain standard stdout stderr script, ?_, ?_, ?_⟩
  · rw [run_outcome traced standard stdout stderr, run_outcome plain standard stdout stderr, same]
    simp only [outcomes]
  · have confined (flag : Bool) : (engine.printing flag).registry.Confined := standard.confined
    have restored := run_restored (confined true) script shell
    have restored' := run_restored (confined false) script shell
    exact restored.store.trans restored'.store.symm
  · rw [run_stderr traced standard stdout stderr, run_stderr plain standard stdout stderr, same]
    simp only [complaints]
  · rw [run_stdout traced standard stdout stderr, same]
    simp only [outputs]
  · exact (printing_evaluation engine true false).executeAll
  · intro word inner sink sink'
    have registry : traced.registry = plain.registry := rfl
    have sliceMode : traced.options.sliceMode = plain.options.sliceMode := rfl
    have apart := ((secluded registry sliceMode).expandWord word).2 sink sink'
    exact apart ⟨rfl, rfl, rfl, rfl, rfl⟩

/-- A call and a substitution that bind `PS4`, a program that does, and a failure behind which
nothing is executed. -/
def rebinding : Script :=
  [.ofCommand (.call [⟨"PS4", Word.ofText "1 "⟩] [Word.ofText "echo", [.substitution
      [.ofCommand (.call [⟨"PS4", Word.ofText "2 "⟩] (["echo", "a"].map Word.ofText))]]]),
    .ofCommand (Command.ofTexts ["set-var", "PS4", "3 "]),
    .ofCommand (Command.ofTexts ["explode"]),
    .ofCommand (Command.ofTexts ["echo", "b"])]

def marking : Shell Environment where
  store := .ofPairs [("PS4", "> ")]

theorem rebinding_transparent :
    strict.registry.Standard ∧ marking.stdout.limit = none ∧ marking.stderr.limit = none ∧
      ((strict.printing true).run rebinding marking).1 =
        ((strict.printing false).run rebinding marking).1 ∧
      ((strict.printing false).executed rebinding marking).length = 3 ∧
      ((strict.printing true).run rebinding marking).2.stdout.text =
        "> PS4=1  echo $(PS4=2  echo a)\na\n> set-var PS4 3 \n> explode\n" := by
  have standard : strict.registry.Standard := fun _ member => member
  obtain ⟨outcome, -, -, -, contents, -, -⟩ :=
    run_transparent strict standard rebinding marking rfl rfl
  refine ⟨standard, rfl, rfl, outcome, by decide +kernel, ?_⟩
  rw [Sink.text, contents]
  decide +kernel

end Engine

end ShellTree
