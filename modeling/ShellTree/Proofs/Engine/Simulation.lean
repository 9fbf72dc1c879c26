import ShellTree.Engine.Script
import ShellTree.Proofs.Engine.Agreement

/-!
# Simulation

Two actions simulate each other under a relation of shells when they take related
shells to the same value or the same failure and to shells that are related again.
Statements that simulate each other make scripts that do.
-/

namespace ShellTree

variable {ε ε' : Type}

/-- The same value or the same failure, in related shells. -/
inductive Action.Alike {α : Type} (related : Shell ε → Shell ε' → Prop) :
    EStateM.Result Failure (Shell ε) α → EStateM.Result Failure (Shell ε') α → Prop where
  | ok (value : α) {after : Shell ε} {after' : Shell ε'} (still : related after after') :
      Alike related (.ok value after) (.ok value after')
  | error (failure : Failure) {after : Shell ε} {after' : Shell ε'}
      (still : related after after') : Alike related (.error failure after) (.error failure after')

theorem Action.Alike.mono {α : Type} {related related' : Shell ε → Shell ε' → Prop}
    {result : EStateM.Result Failure (Shell ε) α} {result' : EStateM.Result Failure (Shell ε') α}
    (alike : Alike related result result')
    (weaker : ∀ shell shell', related shell shell' → related' shell shell') :
    Alike related' result result' := by
  cases alike with
  | ok value still => exact .ok value (weaker _ _ still)
  | error failure still => exact .error failure (weaker _ _ still)

def Action.Simulates {α : Type} (related : Shell ε → Shell ε' → Prop) (action : Action ε α)
    (action' : Action ε' α) : Prop :=
  ∀ ⦃shell shell'⦄, related shell shell' → Alike related (action shell) (action' shell')

namespace ActionRelation

theorem closed_simulates (related : Shell ε → Shell ε' → Prop) :
    Closed (Action.Simulates related) where
  pure value _ _ start := .ok value start
  fail failure _ _ start := .error failure start
  bind {α β first first' next next'} agree agree' shell shell' start := by
    have begun := agree start
    simp only [bind, EStateM.bind]
    generalize first shell = result at begun
    generalize first' shell' = result' at begun
    cases begun with
    | ok value still => exact agree' value still
    | error failure still => exact .error failure still

theorem Closed.and {related related' : ActionRelation ε ε'} (closed : Closed related)
    (closed' : Closed related') :
    Closed (fun action action' => related action action' ∧ related' action action') where
  pure value := ⟨closed.pure value, closed'.pure value⟩
  fail failure := ⟨closed.fail failure, closed'.fail failure⟩
  bind agree agree' :=
    ⟨closed.bind agree.1 fun value => (agree' value).1,
      closed'.bind agree.2 fun value => (agree' value).2⟩

theorem Closed.forall {ι : Type} {family : ι → ActionRelation ε ε'}
    (closed : ∀ index, Closed (family index)) :
    Closed (fun action action' => ∀ index, family index action action') where
  pure value index := (closed index).pure value
  fail failure index := (closed index).fail failure
  bind agree agree' index := (closed index).bind (agree index) fun value => agree' value index

end ActionRelation

/-- Reading the store simulates when related shells have alike stores and what follows does. -/
theorem Action.Simulates.read {α : Type} {related : Shell ε → Shell ε' → Prop}
    {next : ε → Action ε α} {next' : ε' → Action ε' α}
    (simulates : ∀ ⦃shell shell'⦄, related shell shell' →
      Simulates related (next shell.store) (next' shell'.store)) :
    Simulates related (Action.store >>= next) (Action.store >>= next') :=
  fun _ _ start => simulates start start

/-- An action in a scope of its own simulates under a relation that pushing and popping keep. -/
theorem Action.Simulates.scoped {α : Type} [Store ε] [Store ε']
    {related inner : Shell ε → Shell ε' → Prop} {action : Action ε α} {action' : Action ε' α}
    (simulates : Simulates inner action action')
    (pushed : ∀ ⦃shell shell'⦄, related shell shell' →
      inner { shell with store := (Store.push shell.store).2 }
        { shell' with store := (Store.push shell'.store).2 })
    (popped : ∀ ⦃shell shell' after after'⦄, related shell shell' → inner after after' →
      related { after with store := Store.pop after.store (Store.push shell.store).1 }
        { after' with store := Store.pop after'.store (Store.push shell'.store).1 }) :
    Simulates related (Action.inScope action) (Action.inScope action') := by
  intro shell shell' start
  have done := simulates (pushed start)
  simp only [Action.inScope]
  generalize action { shell with store := (Store.push shell.store).2 } = result at done
  generalize action' { shell' with store := (Store.push shell'.store).2 } = result' at done
  cases done with
  | ok value still => exact .ok value (popped start still)
  | error failure still => exact .error failure (popped start still)

/-- A captured action simulates if both sides write the same text to an empty standard output. -/
theorem Action.Simulates.captures {related inner : Shell ε → Shell ε' → Prop}
    {action : Action ε Unit} {action' : Action ε' Unit} (simulates : Simulates inner action action')
    (emptied : ∀ ⦃shell shell'⦄, related shell shell' →
      inner { shell with stdout := {} } { shell' with stdout := {} })
    (text : ∀ ⦃after after'⦄, inner after after' → after.stdout.text = after'.stdout.text)
    (restored : ∀ ⦃shell shell' after after'⦄, related shell shell' → inner after after' →
      related { after with stdout := shell.stdout } { after' with stdout := shell'.stdout }) :
    Simulates related (Action.captured action) (Action.captured action') := by
  intro shell shell' start
  have done := simulates (emptied start)
  simp only [Action.captured]
  generalize action { shell with stdout := {} } = result at done
  generalize action' { shell' with stdout := {} } = result' at done
  cases done with
  | ok value still =>
      dsimp only
      rw [text still]
      exact .ok _ (restored start still)
  | error failure still => exact .error failure (restored start still)

/-! ## Writes, reports and flushes -/

namespace Shell

def wrote (shell : Shell ε) (text : String) : Shell ε :=
  { shell with stdout :=
      { shell.stdout with contents := shell.stdout.contents ++ text.toUTF8 } }

theorem report_store (shell : Shell ε) (failure : Failure) :
    (shell.report failure).store = shell.store := by
  unfold report
  split <;> rfl

theorem report_stdout (shell : Shell ε) (failure : Failure) :
    (shell.report failure).stdout = shell.stdout := by
  unfold report
  split <;> rfl

theorem flush_store (shell : Shell ε) : shell.flush.store = shell.store := by
  unfold flush
  split <;> rfl

end Shell

theorem Sink.accepts_of_unlimited {sink : Sink} (unlimited : sink.limit = none) (count : Nat) :
    sink.accepts count = true := by
  unfold accepts
  rw [unlimited]

/-- A text is written if there is room for it. -/
theorem Action.write_of_accepts {shell : Shell ε} {text : String}
    (room : shell.stdout.accepts text.toUTF8.size = true) :
    Action.write text shell = .ok () (shell.wrote text) := by
  unfold Action.write Sink.write Sink.writeBytes
  rw [if_pos room]
  rfl

/-- A text is not written if there is no room for all of it. -/
theorem Action.write_of_not_accepts {shell : Shell ε} {text : String}
    (full : ¬ shell.stdout.accepts text.toUTF8.size = true) :
    Action.write text shell = .error (.stream .closed) shell := by
  unfold Action.write Sink.write Sink.writeBytes
  rw [if_neg full]

/-! ## Scripts -/

namespace Engine

variable [Store ε] [Store ε'] {engine : Engine ε} {engine' : Engine ε'}
  {related : Shell ε → Shell ε' → Prop}

theorem runStatement_simulates {statement : Statement}
    (simulates : Action.Simulates related (engine.traceAndExecute statement)
      (engine'.traceAndExecute statement))
    (reports : ∀ ⦃shell shell'⦄ (failure : Failure), related shell shell' →
      related (shell.report failure) (shell'.report failure))
    {shell : Shell ε} {shell' : Shell ε'} (start : related shell shell') :
    (engine.runStatement statement shell).1 = (engine'.runStatement statement shell').1 ∧
      related (engine.runStatement statement shell).2
        (engine'.runStatement statement shell').2 := by
  have done := simulates start
  unfold runStatement
  generalize engine.traceAndExecute statement shell = result at done
  generalize engine'.traceAndExecute statement shell' = result' at done
  cases done with
  | ok status still => exact ⟨rfl, still⟩
  | error failure still => exact ⟨rfl, reports failure still⟩

theorem runStatements_simulates
    (stops : engine.options.exitOnError = engine'.options.exitOnError)
    (simulates : ∀ statement, Action.Simulates related (engine.traceAndExecute statement)
      (engine'.traceAndExecute statement))
    (reports : ∀ ⦃shell shell'⦄ (failure : Failure), related shell shell' →
      related (shell.report failure) (shell'.report failure))
    (last : Outcome) (script : List Statement)
    {shell : Shell ε} {shell' : Shell ε'} (start : related shell shell') :
    (engine.runStatements last script shell).1 = (engine'.runStatements last script shell').1 ∧
      related (engine.runStatements last script shell).2
        (engine'.runStatements last script shell').2 := by
  induction script generalizing last shell shell' with
  | nil => exact ⟨rfl, start⟩
  | cons statement rest ih =>
      obtain ⟨same, still⟩ := runStatement_simulates (simulates statement) reports start
      simp only [runStatements, ← same, ← stops]
      split
      · exact ⟨rfl, still⟩
      · exact ih _ still

end Engine

end ShellTree
