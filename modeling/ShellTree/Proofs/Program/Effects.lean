import ShellTree.Proofs.Engine.Restoration

/-!
# Effects of programs

The known programs are put together from few effects: they change the variables and
write to one of the sinks.  They look at the variables, but not at what the sinks hold,
and they catch no failure.  So a relation between actions that sequences keep holds of
every program as soon as it holds of each effect that the program uses.
-/

namespace ShellTree

/-- What a program can do to a shell at once. -/
inductive Effect (ε : Type) where
  | change (next : ε → ε)
  | write (text : String)
  | complain (text : String)

variable {ε : Type}

/-- Do what an effect says: `complain` writes to the standard error. -/
def Effect.perform : Effect ε → Action ε Unit
  | .change next => modify fun shell => { shell with store := next shell.store }
  | .write text => Action.write text
  | .complain text => Action.writeError text

def Effect.Silent : Effect ε → Prop
  | .complain _ => False
  | _ => True

/-- An action that is put together from permitted effects, one after the other. -/
inductive Action.Uses (permitted : Effect ε → Prop) : {α : Type} → Action ε α → Prop where
  | pure {α : Type} (value : α) : Uses permitted (Pure.pure value)
  | fail {α : Type} (failure : Failure) : Uses permitted (α := α) (throw failure)
  | store : Uses permitted Action.store
  | effect {effect : Effect ε} (allowed : permitted effect) : Uses permitted effect.perform
  | bind {α β : Type} {first : Action ε α} {next : α → Action ε β} (uses : Uses permitted first)
      (uses' : ∀ value, Uses permitted (next value)) : Uses permitted (first >>= next)

namespace Action.Uses

variable {permitted : Effect ε → Prop} {related : ActionRelation ε ε}

/-- A relation that sequences keep holds of an action if it holds of what the action uses. -/
theorem related_self (closed : ActionRelation.Closed related)
    (reads : related Action.store Action.store)
    (performs : ∀ effect, permitted effect → related effect.perform effect.perform)
    {α : Type} {action : Action ε α} (uses : action.Uses permitted) : related action action := by
  induction uses with
  | pure value => exact closed.pure value
  | fail failure => exact closed.fail failure
  | store => exact reads
  | effect allowed => exact performs _ allowed
  | bind _ _ ih ih' => exact closed.bind ih ih'

end Action.Uses

def Registry.Uses (registry : Registry ε) (permitted : Effect ε → Prop) : Prop :=
  ∀ program ∈ registry.programs, ∀ arguments, (program.run arguments).Uses permitted

theorem Engine.invoke_uses [Store ε] {engine : Engine ε} {permitted : Effect ε → Prop}
    (uses : engine.registry.Uses permitted) (arguments : List String) :
    (engine.invoke arguments).Uses permitted := by
  cases arguments with
  | nil => exact .fail _
  | cons name rest =>
      unfold invoke
      dsimp only
      split
      · next program found => exact uses program (Registry.mem_of_get? found) rest
      · exact .fail _

namespace Program

variable {permitted : Effect Environment → Prop} (changes : ∀ next, permitted (.change next))
  (writes : ∀ text, permitted (.write text))

include writes in
theorem printenv_uses (arguments : List String) :
    (printenv.run arguments).Uses permitted := by
  refine .bind .store fun store => ?_
  cases arguments with
  | nil => exact .bind (.effect (writes _)) fun _ => .pure _
  | cons name rest => exact .bind (.effect (writes _)) fun _ => .pure _

include changes in
theorem setVar_uses (arguments : List String) : (setVar.run arguments).Uses permitted := by
  unfold setVar
  dsimp only
  split
  · next name value =>
      exact .bind (.effect (changes fun store => store.set name value)) fun _ => .pure _
  · exact .fail _

include changes in
theorem leakScope_uses (arguments : List String) : (leakScope.run arguments).Uses permitted := by
  unfold leakScope
  dsimp only
  split
  · next name value =>
      exact .bind (.effect (changes fun store => store.push.2)) fun _ =>
        .bind (.effect (changes fun store => store.set name value)) fun _ =>
          .bind .store fun _ => .pure _
  · exact .fail _

include changes writes in
/-- The known programs change variables and write; only `warn` writes to the standard error. -/
theorem uses_of_mem {program : Program Environment} (known : program ∈ builtins ++ probes)
    (complains : program.name = "warn" → ∀ text, permitted (.complain text))
    (arguments : List String) : (program.run arguments).Uses permitted := by
  simp only [builtins, probes, List.cons_append, List.nil_append, List.mem_cons,
    List.not_mem_nil, or_false] at known
  rcases known with rfl | rfl | rfl | rfl | rfl | rfl | rfl | rfl | rfl | rfl
  · exact .bind (.effect (writes _)) fun _ => .pure _
  · exact printenv_uses writes arguments
  · exact .pure _
  · exact .pure _
  · exact .pure _
  · exact .pure _
  · exact .fail _
  · exact setVar_uses changes arguments
  · exact leakScope_uses changes arguments
  · exact .bind (.effect (complains rfl _)) fun _ => .pure _

end Program

end ShellTree
