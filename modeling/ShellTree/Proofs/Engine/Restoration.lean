import ShellTree.Engine.Script
import ShellTree.Program.Builtin
import ShellTree.Program.Probe
import ShellTree.Proofs.Engine.Agreement
import ShellTree.Proofs.Environment.Scope
import ShellTree.Tree.Build

/-!
# Restoration of the shell

A statement leaves the layers of the environment as they were, whether it fails or
not, and what it writes goes behind what the sinks already hold.  The invariant of
everything that happens inside of a statement is weaker: the layers below the top
stay where they are.

Programs are arbitrary actions here, as long as they reach the environment by
binding, pushing and popping alone, pop only what they pushed, and write to the sinks.
The options belong to the engine, which no action can change.
-/

namespace ShellTree

structure Sink.Extends (after before : Sink) : Prop where
  contents : ∃ bytes, after.contents = before.contents ++ bytes
  limit : after.limit = before.limit
  flushable : after.flushable = before.flushable

namespace Sink.Extends

theorem refl (sink : Sink) : sink.Extends sink :=
  ⟨⟨.empty, ByteArray.append_empty.symm⟩, rfl, rfl⟩

theorem trans {first second third : Sink} (later : third.Extends second)
    (earlier : second.Extends first) : third.Extends first := by
  obtain ⟨bytes, contents⟩ := earlier.contents
  obtain ⟨more, contents'⟩ := later.contents
  refine ⟨⟨bytes ++ more, ?_⟩, later.limit.trans earlier.limit,
    later.flushable.trans earlier.flushable⟩
  rw [contents', contents, ByteArray.append_assoc]

theorem of_write {sink after : Sink} {text : String} (written : sink.write text = .ok after) :
    after.Extends sink := by
  unfold Sink.write Sink.writeBytes at written
  split at written
  · cases written
    exact ⟨⟨text.toUTF8, rfl⟩, rfl, rfl⟩
  · cases written

end Sink.Extends

/-- The shell that an action leaves, whether it fails or not. -/
def Action.after {ε α : Type} (action : Action ε α) (shell : Shell ε) : Shell ε :=
  match action shell with
  | .ok _ after => after
  | .error _ after => after

theorem Action.after_bind {ε α β : Type} (first : Action ε α) (next : α → Action ε β)
    (shell : Shell ε) :
    (first >>= next).after shell =
      match first shell with
      | .ok value after => (next value).after after
      | .error _ after => after := by
  simp only [after, bind, EStateM.bind]
  cases first shell <;> rfl

/-- The action leads from each shell to one that the given relation allows. -/
def Action.Leads {ε α : Type} (allowed : Shell ε → Shell ε → Prop) (action : Action ε α) : Prop :=
  ∀ shell, allowed shell (action.after shell)

theorem Action.Leads.bind {ε α β : Type} {allowed : Shell ε → Shell ε → Prop}
    (trans : ∀ ⦃first second third⦄, allowed first second → allowed second third →
      allowed first third) {first : Action ε α} {next : α → Action ε β}
    (leads : first.Leads allowed) (leads' : ∀ value, (next value).Leads allowed) :
    (first >>= next).Leads allowed := by
  intro shell
  have start := leads shell
  rw [after_bind]
  unfold after at start
  cases result : first shell with
  | ok value after =>
      rw [result] at start
      exact trans start (leads' value after)
  | error failure after =>
      rw [result] at start
      exact start

theorem ActionRelation.closed_leads {ε ε' : Type} {allowed : Shell ε → Shell ε → Prop}
    (refl : ∀ shell, allowed shell shell)
    (trans : ∀ ⦃first second third⦄, allowed first second → allowed second third →
      allowed first third) :
    Closed (fun action _ => action.Leads allowed : ActionRelation ε ε') where
  pure _ := refl
  fail _ := refl
  bind := Action.Leads.bind trans

namespace Shell

/-- Everything below the top layer is as it was, and the sinks only got more. -/
structure Framed (before after : Shell Environment) : Prop where
  below : before.store.below <:+ after.store.below
  stdout : after.stdout.Extends before.stdout
  stderr : after.stderr.Extends before.stderr

/-- All layers are as they were, and the sinks only got more. -/
structure Restored (before after : Shell Environment) : Prop where
  store : after.store = before.store
  stdout : after.stdout.Extends before.stdout
  stderr : after.stderr.Extends before.stderr

theorem Framed.refl (shell : Shell Environment) : Framed shell shell :=
  ⟨List.suffix_rfl, .refl _, .refl _⟩

theorem Framed.trans ⦃first second third : Shell Environment⦄ (earlier : Framed first second)
    (later : Framed second third) : Framed first third :=
  ⟨earlier.below.trans later.below, later.stdout.trans earlier.stdout,
    later.stderr.trans earlier.stderr⟩

theorem Restored.refl (shell : Shell Environment) : Restored shell shell :=
  ⟨rfl, .refl _, .refl _⟩

theorem Restored.trans ⦃first second third : Shell Environment⦄ (earlier : Restored first second)
    (later : Restored second third) : Restored first third :=
  ⟨later.store.trans earlier.store, later.stdout.trans earlier.stdout,
    later.stderr.trans earlier.stderr⟩

theorem Restored.framed {before after : Shell Environment} (restored : Restored before after) :
    Framed before after :=
  ⟨restored.store ▸ List.suffix_rfl, restored.stdout, restored.stderr⟩

end Shell

namespace Action

variable {α : Type}

theorem set_framed (name value : String) : (set name value).Leads Shell.Framed := fun _ =>
  ⟨List.suffix_rfl, .refl _, .refl _⟩

/-- What an action in a scope of its own leaves. -/
theorem after_inScope {ε : Type} [Store ε] (action : Action ε α) (shell : Shell ε) :
    (inScope action).after shell =
      { action.after { shell with store := (Store.push shell.store).2 } with
        store := Store.pop (action.after { shell with store := (Store.push shell.store).2 }).store
          (Store.push shell.store).1 } := by
  simp only [after, inScope]
  cases action { shell with store := (Store.push shell.store).2 } <;> rfl

/-- What a captured action leaves. -/
theorem after_captured {ε : Type} (action : Action ε Unit) (shell : Shell ε) :
    (captured action).after shell =
      { action.after { shell with stdout := {} } with stdout := shell.stdout } := by
  simp only [after, captured]
  cases action { shell with stdout := {} } <;> rfl

/-- An action that keeps the layers below its own leaves no trace when it has a scope. -/
theorem inScope_restored {action : Action Environment α}
    (framed : action.Leads Shell.Framed) : (inScope action).Leads Shell.Restored := by
  intro shell
  have inner := framed { shell with store := (Store.push shell.store).2 }
  rw [after_inScope]
  exact ⟨Environment.pop_push_of_suffix inner.below, inner.stdout, inner.stderr⟩

theorem captured_restored {action : Action Environment Unit}
    (restored : action.Leads Shell.Restored) : (captured action).Leads Shell.Restored := by
  intro shell
  have inner := restored { shell with stdout := {} }
  rw [after_captured]
  exact ⟨inner.store, .refl _, inner.stderr⟩

end Action

/-! ## Programs -/

/-- What a program may do to a shell: bind, push and pop in the environment, with no guards
to pop but its own, and write to the sinks. -/
structure Shell.Reaches (before after : Shell Environment) : Prop where
  store : ∃ guards, before.store.Ran guards after.store
  stdout : after.stdout.Extends before.stdout
  stderr : after.stderr.Extends before.stderr

namespace Shell.Reaches

theorem refl (shell : Shell Environment) : Reaches shell shell :=
  ⟨⟨[], .refl⟩, .refl _, .refl _⟩

theorem trans ⦃first second third : Shell Environment⦄ (earlier : Reaches first second)
    (later : Reaches second third) : Reaches first third := by
  obtain ⟨guards, ran⟩ := earlier.store
  obtain ⟨more, ran'⟩ := later.store
  exact ⟨⟨more ++ guards, ran.trans ran'⟩, later.stdout.trans earlier.stdout,
    later.stderr.trans earlier.stderr⟩

theorem framed {before after : Shell Environment} (reaches : Reaches before after) :
    Framed before after := by
  obtain ⟨guards, ran⟩ := reaches.store
  exact ⟨ran.frame.1, reaches.stdout, reaches.stderr⟩

theorem bind {α β : Type} {first : Action Environment α} {next : α → Action Environment β}
    (leads : first.Leads Reaches) (leads' : ∀ value, (next value).Leads Reaches) :
    (first >>= next).Leads Reaches :=
  Action.Leads.bind trans leads leads'

theorem write (text : String) : (Action.write text).Leads Reaches := by
  intro shell
  unfold Action.after Action.write
  cases written : shell.stdout.write text with
  | ok sink => exact ⟨⟨[], .refl⟩, .of_write written, .refl _⟩
  | error fault => exact refl shell

theorem writeError (text : String) : (Action.writeError text).Leads Reaches := by
  intro shell
  unfold Action.after Action.writeError
  cases written : shell.stderr.write text with
  | ok sink => exact ⟨⟨[], .refl⟩, .refl _, .of_write written⟩
  | error fault => exact refl shell

theorem set (name value : String) : (Action.set name value).Leads Reaches := fun _ =>
  ⟨⟨[], Environment.Ran.refl.set name value⟩, .refl _, .refl _⟩

end Shell.Reaches

def Program.Confined (program : Program Environment) : Prop :=
  ∀ arguments, (program.run arguments).Leads Shell.Reaches

def Registry.Confined (registry : Registry Environment) : Prop :=
  ∀ program ∈ registry.programs, program.Confined

theorem Registry.mem_of_get? {ε : Type} {registry : Registry ε} {name : String}
    {program : Program ε} (found : registry.get? name = some program) :
    program ∈ registry.programs :=
  List.mem_of_find?_eq_some found

namespace Program

theorem echo_confined : (echo : Program Environment).Confined := fun _ =>
  Shell.Reaches.bind (.write _) fun _ => .refl

theorem printenv_confined : (printenv : Program Environment).Confined := by
  intro arguments
  refine Shell.Reaches.bind .refl fun store => ?_
  cases arguments with
  | nil => exact Shell.Reaches.bind (.write _) fun _ => .refl
  | cons name rest => exact Shell.Reaches.bind (.write _) fun _ => .refl

theorem constant_confined (name : String) (status : Status) :
    (constant name status : Program Environment).Confined :=
  fun _ => .refl

theorem setVar_confined : (setVar : Program Environment).Confined := by
  intro arguments
  unfold setVar
  dsimp only
  split
  · exact Shell.Reaches.bind (.set _ _) fun _ => .refl
  · exact .refl

theorem leakScope_confined : leakScope.Confined := by
  intro arguments
  unfold leakScope
  dsimp only
  split
  · have pushed : (modify fun shell => { shell with store := shell.store.push.2 } :
        Action Environment PUnit).Leads Shell.Reaches := fun shell =>
      ⟨⟨_, Environment.Ran.refl.push⟩, .refl _, .refl _⟩
    exact Shell.Reaches.bind pushed fun _ => Shell.Reaches.bind (.set _ _) fun _ =>
      Shell.Reaches.bind .refl fun _ => .refl
  · exact .refl

theorem warn_confined : (warn : Program Environment).Confined := fun _ =>
  Shell.Reaches.bind (.writeError _) fun _ => .refl

/-- The built-in programs and the probe programs are confined. -/
theorem confined_of_mem {program : Program Environment} (known : program ∈ builtins ++ probes) :
    program.Confined := by
  simp only [builtins, probes, List.cons_append, List.nil_append, List.mem_cons,
    List.not_mem_nil, or_false] at known
  rcases known with rfl | rfl | rfl | rfl | rfl | rfl | rfl | rfl | rfl | rfl
  · exact echo_confined
  · exact printenv_confined
  · exact constant_confined _ _
  · exact constant_confined _ _
  · exact constant_confined _ _
  · exact fun _ => .refl
  · exact fun _ => .refl
  · exact setVar_confined
  · exact leakScope_confined
  · exact warn_confined

end Program

/-! ## Statements and scripts -/

namespace Engine

theorem invoke_framed {engine : Engine Environment} (confined : engine.registry.Confined)
    (arguments : List String) : (engine.invoke arguments).Leads Shell.Framed := by
  cases arguments with
  | nil => exact Shell.Framed.refl
  | cons name rest =>
      unfold invoke
      dsimp only
      split
      · next program found =>
          exact fun shell => (confined program (Registry.mem_of_get? found) rest shell).framed
      · exact Shell.Framed.refl

/-- Expansion and calls keep what lies below the top layer, and statements keep all layers. -/
theorem restoring {engine : Engine Environment} (confined : engine.registry.Confined) :
    Agreement engine engine (fun action _ => action.Leads Shell.Framed)
      (fun action _ => action.Leads Shell.Framed)
      (fun action _ => action.Leads Shell.Restored) where
  sliceMode := rfl
  wordClosed := ActionRelation.closed_leads Shell.Framed.refl Shell.Framed.trans
  callClosed := ActionRelation.closed_leads Shell.Framed.refl Shell.Framed.trans
  statementClosed := ActionRelation.closed_leads Shell.Restored.refl Shell.Restored.trans
  read agree shell := agree shell.store shell.store rfl shell
  count name number _ := Action.set_framed name (Decimal.text number.toInt)
  capture {body _} agree shell := by
    have framed : body.Leads Shell.Framed := fun shell => (agree shell).framed
    exact (Action.captured_restored (Action.inScope_restored framed) shell).framed
  ofWord agree := agree
  set := Action.set_framed
  invoke := invoke_framed confined
  warn _ _ := ⟨rfl, .refl _, .refl _⟩
  scope := Action.inScope_restored

theorem execute_restored {engine : Engine Environment} (confined : engine.registry.Confined)
    (statement : Statement) : (engine.execute statement).Leads Shell.Restored :=
  (restoring confined).execute statement

end Engine

theorem Action.write_restored (text : String) : (Action.write text).Leads Shell.Restored := by
  intro shell
  unfold Action.after Action.write
  cases written : shell.stdout.write text with
  | ok sink => exact ⟨rfl, .of_write written, .refl _⟩
  | error fault => exact .refl shell

namespace Shell

theorem report_restored (shell : Shell Environment) (failure : Failure) :
    Restored shell (shell.report failure) := by
  unfold report
  split
  · next sink written => exact ⟨rfl, .refl _, .of_write written⟩
  · exact ⟨rfl, .refl _, .refl _⟩

theorem flush_restored (shell : Shell Environment) : Restored shell shell.flush := by
  unfold flush
  split
  · exact ⟨rfl, .refl _, .refl _⟩
  · exact ⟨rfl, .refl _, .refl _⟩
  · exact .refl shell

end Shell

namespace Engine

variable {engine : Engine Environment}

theorem traceAndExecute_restored (confined : engine.registry.Confined) (statement : Statement) :
    (engine.traceAndExecute statement).Leads Shell.Restored := by
  unfold traceAndExecute
  split
  · have read : (Action.store : Action Environment Environment).Leads Shell.Restored :=
      Shell.Restored.refl
    exact read.bind Shell.Restored.trans fun store =>
      (Action.write_restored _).bind Shell.Restored.trans fun _ =>
        execute_restored confined statement
  · exact execute_restored confined statement

theorem runStatement_restored (confined : engine.registry.Confined) (statement : Statement)
    (shell : Shell Environment) : Shell.Restored shell (engine.runStatement statement shell).2 := by
  have restored := traceAndExecute_restored confined statement shell
  unfold Action.after at restored
  unfold runStatement
  cases result : engine.traceAndExecute statement shell with
  | ok status after =>
      rw [result] at restored
      exact restored
  | error failure after =>
      rw [result] at restored
      exact restored.trans (after.report_restored failure)

theorem runStatements_restored (confined : engine.registry.Confined) (last : Outcome)
    (script : List Statement) (shell : Shell Environment) :
    Shell.Restored shell (engine.runStatements last script shell).2 := by
  induction script generalizing last shell with
  | nil => exact .refl shell
  | cons statement rest ih =>
      have first := runStatement_restored confined statement shell
      simp only [runStatements]
      split
      · exact first
      · exact first.trans (ih _ _)

theorem run_restored (confined : engine.registry.Confined) (script : Script)
    (shell : Shell Environment) : Shell.Restored shell (engine.run script shell).2 :=
  (runStatements_restored confined {} script shell).trans (Shell.flush_restored _)

/-- Executing a statement and running a script leave the environment as it was and the
sinks where they were, whether anything fails or not. -/
theorem execute_and_run_restored (engine : Engine Environment)
    (confined : engine.registry.Confined) :
    (∀ statement shell, Shell.Restored shell ((engine.execute statement).after shell)) ∧
      ∀ script shell, Shell.Restored shell (engine.run script shell).2 := by
  exact ⟨execute_restored confined, run_restored confined⟩

/-- A call that leaves a scope open, behind an assignment whose word does the same. -/
def leaking : Script :=
  [.ofCommand (.call
    [⟨"x", [.substitution [.ofCommand (Command.ofTexts ["leak-scope", "y", "3"])]]⟩]
    (["leak-scope", "z", "4"].map Word.ofText))]

def layered : Shell Environment where
  store := ⟨.ofPairs [("x", "1")], [.ofPairs [("y", "2")]]⟩

theorem leaking_restored :
    Registry.Confined ⟨Program.builtins ++ Program.probes⟩ ∧
      (run ⟨{}, ⟨Program.builtins ++ Program.probes⟩⟩ leaking layered).1.exitCode = 3 ∧
      Shell.Restored layered
        (run ⟨{}, ⟨Program.builtins ++ Program.probes⟩⟩ leaking layered).2 :=
  ⟨fun _ => Program.confined_of_mem, by decide,
    (execute_and_run_restored ⟨{}, ⟨Program.builtins ++ Program.probes⟩⟩
      fun _ => Program.confined_of_mem).2 leaking layered⟩

end Engine

end ShellTree
