import Mathlib.Data.List.Forall2
import ShellTree.Proofs.Engine.Restoration
import ShellTree.Proofs.Engine.Simulation
import ShellTree.Proofs.Environment.Flattening

/-!
# Scopes and snapshots

A shell over a layered environment does the same as a shell that keeps all variables
in one place, copies them when a scope is pushed and puts the copy back when it is
popped.  Flattening a shell shows the one as the other: it takes the visible bindings
with their order.  Every script, word and expression commutes with flattening.
-/

namespace ShellTree

def Shell.flatten (shell : Shell Environment) : Shell Snapshot where
  store := ⟨shell.store.bindings⟩
  stdout := shell.stdout
  stderr := shell.stderr
  warnings := shell.warnings

def Shell.Flattens (shell : Shell Environment) (flat : Shell Snapshot) : Prop :=
  flat = shell.flatten

theorem Environment.get?_flatten (environment : Environment) :
    Store.get? environment = Store.get? (⟨environment.bindings⟩ : Snapshot) :=
  funext fun name => (environment.get?_bindings name).symm

namespace Action.Simulates

open Shell

theorem write (text : String) : Simulates Flattens (Action.write text) (Action.write text) := by
  rintro shell _ rfl
  unfold Action.write
  simp only [flatten]
  cases shell.stdout.write text with
  | ok sink => exact .ok () rfl
  | error fault => exact .error _ rfl

theorem writeError (text : String) :
    Simulates Flattens (Action.writeError text) (Action.writeError text) := by
  rintro shell _ rfl
  unfold Action.writeError
  simp only [flatten]
  cases shell.stderr.write text with
  | ok sink => exact .ok () rfl
  | error fault => exact .error _ rfl

theorem warn (warning : Warning) :
    Simulates Flattens (Action.warn warning) (Action.warn warning) := by
  rintro shell _ rfl
  exact .ok () rfl

theorem set (name value : String) :
    Simulates Flattens (Action.set name value) (Action.set name value) := by
  rintro shell _ rfl
  refine .ok () ?_
  simp only [Flattens, flatten, Store.set, Environment.bindings_set]

/-- A scope that keeps the layers below it is undone like a snapshot. -/
theorem inScope {α : Type} {action : Action Environment α} {action' : Action Snapshot α}
    (framed : action.Leads Framed) (simulates : Simulates Flattens action action') :
    Simulates Flattens (Action.inScope action) (Action.inScope action') := by
  rintro shell _ rfl
  have inner : Alike Flattens (action { shell with store := (Store.push shell.store).2 })
      (action' { shell.flatten with store := (Store.push shell.flatten.store).2 }) :=
    simulates rfl
  have below := (framed { shell with store := (Store.push shell.store).2 }).below
  unfold Action.after at below
  simp only [Action.inScope]
  generalize action { shell with store := (Store.push shell.store).2 } = result at inner below
  generalize action' { shell.flatten with store := (Store.push shell.flatten.store).2 } = result'
    at inner
  cases inner with
  | @ok value after _ still =>
      subst still
      have popped : Store.pop after.store (Store.push shell.store).1 = shell.store :=
        Environment.pop_push_of_suffix below
      exact .ok value (by rw [popped]; rfl)
  | @error failure after _ still =>
      subst still
      have popped : Store.pop after.store (Store.push shell.store).1 = shell.store :=
        Environment.pop_push_of_suffix below
      exact .error failure (by rw [popped]; rfl)

theorem captured {action : Action Environment Unit} {action' : Action Snapshot Unit}
    (simulates : Simulates Flattens action action') :
    Simulates Flattens (Action.captured action) (Action.captured action') := by
  rintro shell _ rfl
  have inner : Alike Flattens (action { shell with stdout := {} })
      (action' { shell.flatten with stdout := {} }) := simulates rfl
  simp only [Action.captured]
  generalize action { shell with stdout := {} } = result at inner
  generalize action' { shell.flatten with stdout := {} } = result' at inner
  cases inner with
  | ok value still =>
      subst still
      exact .ok _ rfl
  | error failure still =>
      subst still
      exact .error failure rfl

end Action.Simulates

/-! ## Programs over any store -/

/-- A program that exists over every store, seen over two of them: the built-in programs
and the probe programs that leave no scope open. -/
inductive Program.Plain {ε ε' : Type} [Store ε] [Store ε'] : Program ε → Program ε' → Prop where
  | echo : Plain echo echo
  | printenv : Plain printenv printenv
  | constant (name : String) (status : Status) : Plain (constant name status) (constant name status)
  | exitWith : Plain exitWith exitWith
  | explode : Plain explode explode
  | setVar : Plain setVar setVar
  | warn : Plain warn warn

namespace Program.Plain

theorem name_eq {ε ε' : Type} [Store ε] [Store ε'] {program : Program ε} {program' : Program ε'}
    (plain : Plain program program') : program.name = program'.name := by
  cases plain <;> rfl

variable {program : Program Environment} {program' : Program Snapshot}

theorem confined (plain : Plain program program') : program.Confined := by
  cases plain with
  | echo => exact echo_confined
  | printenv => exact printenv_confined
  | constant name status => exact constant_confined name status
  | exitWith => exact fun _ => .refl
  | explode => exact fun _ => .refl
  | setVar => exact setVar_confined
  | warn => exact warn_confined

open ShellTree.Action ActionRelation Shell in
theorem simulates (plain : Plain program program') (arguments : List String) :
    Simulates Flattens (program.run arguments) (program'.run arguments) := by
  have closed := closed_simulates Flattens
  cases plain with
  | echo => exact closed.bind (.write _) fun _ => closed.pure _
  | printenv =>
      refine Simulates.read ?_
      rintro shell _ rfl
      have seen : (fun name => (Store.get? shell.store name).map (· ++ "\n")) =
          fun name => (Store.get? shell.flatten.store name).map (· ++ "\n") := by
        rw [shell.store.get?_flatten]
        rfl
      have set : Store.isSet shell.store = Store.isSet shell.flatten.store := by
        funext name
        simp only [Store.isSet, shell.store.get?_flatten]
        rfl
      cases arguments with
      | nil => exact closed.bind (.write _) fun _ => closed.pure _
      | cons name rest =>
          simp only [List.isEmpty_cons, Printenv.values, seen, set]
          exact closed.bind (.write _) fun _ => closed.pure _
  | constant name status => exact closed.pure _
  | exitWith => exact closed.pure _
  | explode => exact closed.fail _
  | setVar =>
      unfold Program.setVar
      dsimp only
      split
      · exact closed.bind (.set _ _) fun _ => closed.pure _
      · exact closed.fail _
  | warn => exact closed.bind (.writeError _) fun _ => closed.pure _

end Program.Plain

def Registry.Plain {ε ε' : Type} [Store ε] [Store ε'] (registry : Registry ε)
    (registry' : Registry ε') : Prop :=
  List.Forall₂ Program.Plain registry.programs registry'.programs

namespace Registry.Plain

theorem confined {registry : Registry Environment} {registry' : Registry Snapshot}
    (plain : registry.Plain registry') : registry.Confined := by
  intro program member
  obtain ⟨index, inside, rfl⟩ := List.getElem_of_mem member
  have inside' : index < registry'.programs.length := plain.length_eq ▸ inside
  exact (List.Forall₂.get plain inside inside').confined

/-- A name is unknown to both registries, or they find the same plain program. -/
theorem get? {ε ε' : Type} [Store ε] [Store ε'] {registry : Registry ε}
    {registry' : Registry ε'} (plain : registry.Plain registry') (name : String) :
    Option.Rel Program.Plain (registry.get? name) (registry'.get? name) := by
  obtain ⟨programs⟩ := registry
  obtain ⟨programs'⟩ := registry'
  unfold Registry.get?
  change List.Forall₂ Program.Plain programs programs' at plain
  induction plain with
  | nil => exact .none
  | cons first rest ih =>
      rw [List.find?_cons, List.find?_cons, first.name_eq]
      split
      · exact .some first
      · exact ih

end Registry.Plain

/-! ## Engines -/

namespace Engine

open ShellTree.Action ActionRelation Shell

variable {options : Options} {registry : Registry Environment} {registry' : Registry Snapshot}

theorem invoke_simulates (plain : registry.Plain registry') (arguments : List String) :
    Simulates Flattens (invoke ⟨options, registry⟩ arguments)
      (invoke ⟨options, registry'⟩ arguments) := by
  have closed := closed_simulates Flattens
  cases arguments with
  | nil => exact closed.fail _
  | cons name rest =>
      have found := plain.get? name
      unfold invoke
      dsimp only
      generalize registry.get? name = program at found
      generalize registry'.get? name = program' at found
      cases found with
      | none => exact closed.fail _
      | some same => exact same.simulates rest

/-- Every action keeps the layers below the top and commutes with flattening. -/
theorem flattening (plain : registry.Plain registry') :
    Agreement (⟨options, registry⟩ : Engine Environment) (⟨options, registry'⟩ : Engine Snapshot)
      (fun action action' => action.Leads Framed ∧ Simulates Flattens action action')
      (fun action action' => action.Leads Framed ∧ Simulates Flattens action action')
      (fun action action' => action.Leads Restored ∧ Simulates Flattens action action') where
  sliceMode := rfl
  wordClosed := (closed_leads Framed.refl Framed.trans).and (closed_simulates Flattens)
  callClosed := (closed_leads Framed.refl Framed.trans).and (closed_simulates Flattens)
  statementClosed := (closed_leads Restored.refl Restored.trans).and (closed_simulates Flattens)
  read {α next next'} agree := by
    have both (environment : Environment) :=
      agree environment ⟨environment.bindings⟩ environment.get?_flatten
    refine ⟨fun shell => (both shell.store).1 shell, Simulates.read ?_⟩
    rintro shell _ rfl
    exact (both shell.store).2
  count name number _ := ⟨set_framed name _, .set name _⟩
  capture {body body'} agree := by
    have framed : body.Leads Framed := fun shell => (agree.1 shell).framed
    have restored := captured_restored (inScope_restored framed)
    exact ⟨fun shell => (restored shell).framed, .captured (.inScope framed agree.2)⟩
  ofWord agree := agree
  set name value := ⟨set_framed name value, .set name value⟩
  invoke arguments := ⟨invoke_framed plain.confined arguments, invoke_simulates plain arguments⟩
  warn warning := ⟨fun _ => ⟨rfl, .refl _, .refl _⟩, .warn warning⟩
  scope agree := ⟨inScope_restored agree.1, .inScope agree.1 agree.2⟩

theorem traceAndExecute_simulates (plain : registry.Plain registry') (statement : Statement) :
    Simulates Flattens (traceAndExecute ⟨options, registry⟩ statement)
      (traceAndExecute ⟨options, registry'⟩ statement) := by
  have closed := closed_simulates Flattens
  have executed : Simulates Flattens (execute ⟨options, registry⟩ statement)
      (execute ⟨options, registry'⟩ statement) := ((flattening plain).execute statement).2
  unfold traceAndExecute
  split
  · refine Simulates.read ?_
    rintro shell _ rfl
    have traced : traceLine shell.store statement = traceLine shell.flatten.store statement := by
      simp only [traceLine, Store.tracePrefix, shell.store.get?_flatten]
      rfl
    rw [traced]
    exact closed.bind (.write _) fun _ => executed
  · exact executed

end Engine

theorem Shell.report_flatten (shell : Shell Environment) (failure : Failure) :
    shell.flatten.report failure = (shell.report failure).flatten := by
  simp only [report, flatten]
  split <;> rfl

theorem Shell.flush_flatten (shell : Shell Environment) :
    shell.flatten.flush = shell.flush.flatten := by
  simp only [flush, flatten]
  split <;> rfl

def Action.flattenResult {α : Type} :
    EStateM.Result Failure (Shell Environment) α → EStateM.Result Failure (Shell Snapshot) α
  | .ok value after => .ok value after.flatten
  | .error failure after => .error failure after.flatten

theorem Action.Alike.eq_flattenResult {α : Type}
    {result : EStateM.Result Failure (Shell Environment) α}
    {result' : EStateM.Result Failure (Shell Snapshot) α}
    (alike : Alike Shell.Flattens result result') : result' = flattenResult result := by
  cases alike with
  | ok value still => rw [still, flattenResult]
  | error failure still => rw [still, flattenResult]

namespace Engine

theorem run_flatten {options : Options} {registry : Registry Environment}
    {registry' : Registry Snapshot} (plain : registry.Plain registry') (script : Script)
    (shell : Shell Environment) :
    run ⟨options, registry'⟩ script shell.flatten =
      ((run ⟨options, registry⟩ script shell).1,
        (run ⟨options, registry⟩ script shell).2.flatten) := by
  have reports : ∀ ⦃shell : Shell Environment⦄ ⦃flat : Shell Snapshot⦄ (failure : Failure),
      shell.Flattens flat → (shell.report failure).Flattens (flat.report failure) := by
    rintro shell _ failure rfl
    exact shell.report_flatten failure
  have traces (statement : Statement) : Action.Simulates Shell.Flattens
      (traceAndExecute ⟨options, registry⟩ statement)
      (traceAndExecute ⟨options, registry'⟩ statement) := traceAndExecute_simulates plain statement
  have start : shell.Flattens shell.flatten := rfl
  obtain ⟨same, still⟩ := runStatements_simulates (by rfl) traces reports {} script start
  refine Prod.ext same.symm ?_
  change (runStatements _ {} script shell.flatten).2.flush = _
  rw [still]
  exact Shell.flush_flatten _

/-- Over a layered environment and over its flat view, scripts, words and expressions give
the same outcomes and outputs, and the flat view of the one is what the other holds. -/
theorem evaluation_flatten (options : Options) (registry : Registry Environment)
    (registry' : Registry Snapshot) (plain : registry.Plain registry')
    (shell : Shell Environment) :
    (∀ script, run ⟨options, registry'⟩ script shell.flatten =
      ((run ⟨options, registry⟩ script shell).1,
        (run ⟨options, registry⟩ script shell).2.flatten)) ∧
    (∀ word, expandWord ⟨options, registry'⟩ word shell.flatten =
      Action.flattenResult (expandWord ⟨options, registry⟩ word shell)) ∧
    ∀ expression, evaluate ⟨options, registry'⟩ expression shell.flatten =
      Action.flattenResult (evaluate ⟨options, registry⟩ expression shell) := by
  refine ⟨fun script => run_flatten plain script shell, fun word => ?_, fun expression => ?_⟩
  · exact (((flattening plain).expandWord word).2 rfl).eq_flattenResult
  · exact (((flattening plain).evaluate expression).2 rfl).eq_flattenResult

def plainPrograms {ε : Type} [Store ε] : Registry ε :=
  ⟨Program.builtins ++ [.exitWith, .explode, .setVar, .warn]⟩

/-- A call that lists all variables and shadows one of them. -/
def shadowing : Script :=
  [.ofCommand (.call [⟨"y", Word.ofText "5"⟩, ⟨"z", Word.ofText "6"⟩] [Word.ofText "printenv"])]

theorem shadowing_flatten :
    Registry.Plain (plainPrograms : Registry Environment) (plainPrograms : Registry Snapshot) ∧
      (run ⟨{}, plainPrograms⟩ shadowing layered).2.stdout.text = "y=5\nx=1\nz=6\n" ∧
      run ⟨{}, plainPrograms⟩ shadowing layered.flatten =
        ((run ⟨{}, plainPrograms⟩ shadowing layered).1,
          (run ⟨{}, plainPrograms⟩ shadowing layered).2.flatten) := by
  have plain : Registry.Plain (plainPrograms : Registry Environment)
      (plainPrograms : Registry Snapshot) :=
    .cons .echo (.cons .printenv (.cons (.constant _ _) (.cons (.constant _ _)
      (.cons (.constant _ _) (.cons .exitWith (.cons .explode (.cons .setVar
        (.cons .warn .nil))))))))
  exact ⟨plain, by decide, (evaluation_flatten {} _ _ plain layered).1 shadowing⟩

end Engine

end ShellTree
