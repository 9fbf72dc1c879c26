import ShellTree.Proofs.Engine.Independence

/-!
# Failures of the diagnostic channel

A run reports failures on the standard error and flushes its sinks at the end.  Both may
fail, and then a warning is all that is left.  As long as no program writes to the
standard error itself, no outcome depends on what becomes of the reports: neither the
standard error nor the flushing of a sink can be seen in a status, in a failure, in a
variable or in the standard output.
-/

namespace ShellTree

variable {ε : Type}

/-! ## Standard output -/

structure Sink.SameBytes (sink sink' : Sink) : Prop where
  contents : sink.contents = sink'.contents
  limit : sink.limit = sink'.limit

namespace Sink.SameBytes

variable {sink sink' : Sink}

theorem text_eq (same : SameBytes sink sink') : sink.text = sink'.text := by
  unfold Sink.text
  rw [same.contents]

theorem accepts_eq (same : SameBytes sink sink') (count : Nat) :
    sink.accepts count = sink'.accepts count := by
  unfold Sink.accepts Sink.size
  rw [same.contents, same.limit]

end Sink.SameBytes

/-- Two shells with the same variables and the same standard output, whatever their standard
error is and whether flushing works. -/
structure Shell.SameOutput (shell shell' : Shell ε) : Prop where
  store : shell.store = shell'.store
  stdout : shell.stdout.SameBytes shell'.stdout

namespace Shell

namespace SameOutput

variable {shell shell' : Shell ε}

/-- Whether a failure can be reported is not seen in the output. -/
theorem report (same : SameOutput shell shell') (failure : Failure) :
    SameOutput (shell.report failure) (shell'.report failure) := by
  constructor
  · rw [report_store, report_store]
    exact same.store
  · rw [report_stdout, report_stdout]
    exact same.stdout

/-- Whether the sinks can be flushed is not seen in the output. -/
theorem flush (same : SameOutput shell shell') : SameOutput shell.flush shell'.flush := by
  constructor
  · rw [flush_store, flush_store]
    exact same.store
  · rw [Engine.flush_stdout, Engine.flush_stdout]
    exact same.stdout

/-- Both shells take a text, or neither does. -/
theorem write (text : String) :
    Action.Simulates (SameOutput (ε := ε)) (Action.write text) (Action.write text) := by
  intro shell shell' same
  have alike := same.stdout.accepts_eq text.toUTF8.size
  by_cases room : shell.stdout.accepts text.toUTF8.size = true
  · rw [Action.write_of_accepts room, Action.write_of_accepts (alike ▸ room)]
    refine .ok () ⟨same.store, ?_, same.stdout.limit⟩
    exact congrArg (· ++ text.toUTF8) same.stdout.contents
  · rw [Action.write_of_not_accepts room, Action.write_of_not_accepts (alike ▸ room)]
    exact .error _ same

theorem captured {action action' : Action ε Unit}
    (simulates : Action.Simulates SameOutput action action') :
    Action.Simulates SameOutput (Action.captured action) (Action.captured action') :=
  simulates.captures (fun _ _ same => ⟨same.store, rfl, rfl⟩)
    (fun _ _ still => still.stdout.text_eq) fun _ _ _ _ same still => ⟨still.store, same.stdout⟩

theorem change (next : ε → ε) :
    Action.Simulates SameOutput (Effect.change next).perform (Effect.change next).perform :=
  fun _ _ same => .ok _ ⟨congrArg next same.store, same.stdout⟩

theorem inScope [Store ε] {α : Type} {action action' : Action ε α}
    (simulates : Action.Simulates SameOutput action action') :
    Action.Simulates SameOutput (Action.inScope action) (Action.inScope action') := by
  refine simulates.scoped (fun shell shell' same => ?_)
    fun shell shell' after after' same still => ?_
  · exact ⟨by rw [same.store], same.stdout⟩
  · exact ⟨by rw [still.store, same.store], still.stdout⟩

theorem read {α : Type} {next next' : ε → Action ε α}
    (simulates : ∀ store, Action.Simulates SameOutput (next store) (next' store)) :
    Action.Simulates SameOutput (Action.store >>= next) (Action.store >>= next') := by
  refine Action.Simulates.read fun shell shell' same => ?_
  rw [same.store]
  exact simulates _

end SameOutput

end Shell

/-! ## Evaluation and scripts -/

def Registry.Silent (registry : Registry ε) : Prop :=
  registry.Uses Effect.Silent

/-- Of the known programs only `warn` is not silent. -/
theorem Registry.silent_of_known {registry : Registry Environment}
    (known : ∀ program ∈ registry.programs,
      program ∈ Program.builtins ++ Program.probes ∧ program.name ≠ "warn") :
    registry.Silent := by
  intro program member
  obtain ⟨listed, other⟩ := known program member
  exact Program.uses_of_mem (fun _ => trivial) (fun _ => trivial) listed
    fun warns => absurd warns other

namespace Engine

open Shell

variable [Store ε] {engine : Engine ε}

theorem invoke_sameOutput (silent : engine.registry.Silent) (arguments : List String) :
    Action.Simulates SameOutput (engine.invoke arguments) (engine.invoke arguments) := by
  have closed := ActionRelation.closed_simulates (SameOutput (ε := ε))
  refine (invoke_uses silent arguments).related_self closed (SameOutput.read closed.pure) ?_
  intro effect allowed
  cases effect with
  | change next => exact SameOutput.change next
  | write text => exact SameOutput.write text
  | complain text => exact allowed.elim

/-- Evaluation does not depend on the diagnostic channel. -/
theorem undiagnosed (silent : engine.registry.Silent) :
    Agreement engine engine (Action.Simulates SameOutput) (Action.Simulates SameOutput)
      (Action.Simulates SameOutput) where
  sliceMode := rfl
  wordClosed := ActionRelation.closed_simulates SameOutput
  callClosed := ActionRelation.closed_simulates SameOutput
  statementClosed := ActionRelation.closed_simulates SameOutput
  read agree := SameOutput.read fun store => agree store store rfl
  count name number _ := SameOutput.change (Store.set · name (Decimal.text number.toInt))
  capture agree := SameOutput.captured (SameOutput.inScope agree)
  ofWord agree := agree
  set name value := SameOutput.change (Store.set · name value)
  invoke := invoke_sameOutput silent
  warn _ _ _ same := .ok () ⟨same.store, same.stdout⟩
  scope := SameOutput.inScope

theorem traceAndExecute_sameOutput (silent : engine.registry.Silent) (statement : Statement) :
    Action.Simulates SameOutput (engine.traceAndExecute statement)
      (engine.traceAndExecute statement) := by
  have executed := (undiagnosed silent).execute statement
  unfold traceAndExecute
  split
  · exact SameOutput.read fun store =>
      (ActionRelation.closed_simulates SameOutput).bind (SameOutput.write _) fun _ => executed
  · exact executed

/-- Runs that start with the same variables and the same standard output end in the same way
and with the same variables and standard output, whatever the standard error holds or
takes, and whether flushing works or not. -/
theorem run_sameOutput (engine : Engine ε) (silent : engine.registry.Silent) (script : Script)
    (shell shell' : Shell ε) (same : shell.SameOutput shell') :
    (engine.run script shell).1 = (engine.run script shell').1 ∧
      (engine.run script shell).2.SameOutput (engine.run script shell').2 := by
  obtain ⟨outcome, still⟩ := runStatements_simulates rfl (traceAndExecute_sameOutput silent)
    (fun _ _ failure same => same.report failure) {} script same
  exact ⟨outcome, still.flush⟩

def silenced : Engine Environment where
  registry := ⟨(Program.builtins ++ Program.probes).filter (·.name ≠ "warn")⟩

theorem silenced_silent : silenced.registry.Silent := by
  apply Registry.silent_of_known
  intro program member
  obtain ⟨listed, other⟩ := List.mem_filter.mp member
  exact ⟨listed, of_decide_eq_true other⟩

/-- Statements that fail in a program, in a word of a substitution and for want of a program,
with output between them. -/
def complaining : Script :=
  [.ofCommand (Command.ofTexts ["explode", "x"]),
    .ofCommand (.call [] [Word.ofText "echo", [.substitution
      [.ofCommand (Command.ofTexts ["echo", "lost"]),
        .ofCommand (.call [] [[.arithmetic (.binary .mod (.word [.literal "1"])
          (.word [.literal "0"]))]])]]]),
    .ofCommand (Command.ofTexts ["echo", "kept"]),
    .ofCommand (Command.ofTexts ["warn", "y"])]

def muted : Shell Environment :=
  { layered with
    stdout := { flushable := false }
    stderr := { limit := some 0, flushable := false } }

theorem complaining_sameOutput :
    silenced.registry.Silent ∧ layered.SameOutput muted ∧
      (silenced.run complaining layered).2.stderr.text =
        "walk-sh: explode: x\nwalk-sh: division by 0\nwalk-sh: warn: command not found\n" ∧
      (silenced.run complaining muted).2.stderr.text = "" ∧
      (silenced.run complaining muted).1 = .failed (.commandNotFound "warn") ∧
      (silenced.run complaining layered).1 = (silenced.run complaining muted).1 ∧
      (silenced.run complaining layered).2.SameOutput (silenced.run complaining muted).2 := by
  have same : layered.SameOutput muted := ⟨rfl, rfl, rfl⟩
  refine ⟨silenced_silent, same, by decide +kernel, by decide +kernel, by decide +kernel, ?_⟩
  exact run_sameOutput silenced silenced_silent complaining layered muted same

end Engine

end ShellTree
