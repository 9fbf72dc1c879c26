import Mathlib.Control.Monad.Basic
import ShellTree.Proofs.Engine.Expansion
import ShellTree.Proofs.Engine.Mention

/-!
# Expansion without counting

A word in which no variable is counted up or down leaves the environment exactly as it
was, whether its expansion fails or not: only what is in a command substitution can bind
variables then, and that is undone.  An expansion sees nothing else of a shell whose
standard error is unlimited.  So such words can be expanded again, left out or put in
another order without a change of what any of them gives.
-/

namespace ShellTree

/-- No variable is counted in the word, outside of its command substitutions. -/
def Word.CountsNothing (word : Word) : Prop :=
  ∀ mention ∈ Word.mentions word, mention ≠ .counting

instance (mention : Mention) : Decidable (mention = .counting) :=
  match mention with
  | .counting => isTrue rfl
  | .parameter _ => isFalse nofun
  | .indirection _ => isFalse nofun
  | .operand _ => isFalse nofun
  | .substitution _ => isFalse nofun

instance (word : Word) : Decidable word.CountsNothing :=
  inferInstanceAs (Decidable (∀ mention ∈ Word.mentions word, mention ≠ .counting))

def Action.outcome {ε α : Type} (action : Action ε α) (shell : Shell ε) : Except Failure α :=
  match action shell with
  | .ok value _ => .ok value
  | .error failure _ => .error failure

theorem Action.Alike.outcome_eq {ε ε' α : Type} {related : Shell ε → Shell ε' → Prop}
    {action : Action ε α} {action' : Action ε' α} {shell : Shell ε} {shell' : Shell ε'}
    (alike : Alike related (action shell) (action' shell')) :
    action.outcome shell = action'.outcome shell' := by
  unfold outcome
  generalize action shell = result at alike
  generalize action' shell' = result' at alike
  cases alike <;> rfl

def Shell.Kept (before after : Shell Environment) : Prop :=
  after.store = before.store

theorem Shell.Kept.trans ⦃first second third : Shell Environment⦄ (earlier : Kept first second)
    (later : Kept second third) : Kept first third :=
  Eq.trans later earlier

theorem Action.pure_kept {α : Type} (value : α) :
    (pure value : Action Environment α).Leads Shell.Kept := fun _ =>
  Eq.refl _

theorem Action.ofExcept_kept {α : Type} (result : Except Failure α) :
    (Action.ofExcept result).Leads Shell.Kept := by
  intro shell
  cases result <;> exact Eq.refl _

namespace Engine

open Shell

variable {engine : Engine Environment}

/-- What a substitution binds is undone. -/
theorem substitution_kept (confined : engine.registry.Confined) (body : List Statement) :
    (engine.expandPart (.substitution body)).Leads Kept := by
  have framed : (engine.executeAll body).Leads Framed := fun shell =>
    ((restoring confined).executeAll body shell).framed
  have captured : (Action.captured (Action.inScope (engine.executeAll body))).Leads Kept :=
    fun shell => (Action.captured_restored (Action.inScope_restored framed) shell).store
  simp only [expandPart]
  exact captured.bind Kept.trans fun _ => Action.pure_kept _

/-- Wherever no variable is counted, the variables are kept. -/
theorem keeping (confined : engine.registry.Confined) :
    Handling engine engine (fun action _ => action.Leads Kept) (· ≠ .counting) where
  sliceMode := rfl
  closed := ActionRelation.closed_leads (fun _ => Eq.refl _) Kept.trans
  parameter _ agree shell := agree shell.store shell.store rfl shell
  indirection {name} _ shell := by
    simp only [expandOperation]
    exact Action.ofExcept_kept (indirect shell.store name) shell
  operand _ agree := by
    simp only [evaluate]
    refine agree.bind Kept.trans fun text shell => ?_
    exact (Action.ofExcept_kept (Operand.resolve shell.store text)).bind Kept.trans
      (fun operand => Action.pure_kept operand.value) shell
  counting known := absurd rfl known
  substitution _ := substitution_kept confined _

theorem expandWord_kept (confined : engine.registry.Confined) {word : Word}
    (still : word.CountsNothing) : (engine.expandWord word).Leads Kept :=
  (keeping confined).expandWord word still

/-- What an expansion gives depends on the variables alone, as long as the standard error takes
everything.  The standard output around it does not matter, so it can be taken to be empty. -/
theorem expandWord_outcome (standard : engine.registry.Standard) (word : Word)
    {shell shell' : Shell Environment} (store : shell.store = shell'.store)
    (unlimited : shell.stderr.limit = none) (unlimited' : shell'.stderr.limit = none) :
    (engine.expandWord word).outcome shell = (engine.expandWord word).outcome shell' := by
  have aside (shell : Shell Environment) : (engine.expandWord word).outcome shell =
      (engine.expandWord word).outcome { shell with stdout := {} } := by
    have apart : Apart shell.stdout {} shell { shell with stdout := {} } :=
      ⟨rfl, rfl, rfl, rfl, rfl⟩
    have agreement := secluded (rfl : engine.registry = engine.registry) rfl
    exact ((agreement.expandWord word).2 _ _ apart).outcome_eq
  rw [aside shell, aside shell']
  have since : SameSince { shell with stdout := {} } { shell' with stdout := {} }
      { shell with stdout := {} } { shell' with stdout := {} } :=
    ⟨store, .refl rfl rfl, .refl unlimited unlimited'⟩
  exact ((appending standard).expandWord word _ _ since).outcome_eq

/-- Words in which nothing is counted leave the environment as it was, and give the same when they
are expanded again or in the other order, whether they fail or not. -/
theorem expansion_reorders (engine : Engine Environment) (standard : engine.registry.Standard)
    (shell : Shell Environment) (unlimited : shell.stderr.limit = none) (word word' : Word)
    (still : word.CountsNothing) (still' : word'.CountsNothing) :
    let first := engine.expandWord word
    let second := engine.expandWord word'
    (first.after shell).store = shell.store ∧
      first.outcome (first.after shell) = first.outcome shell ∧
      first.outcome (second.after shell) = first.outcome shell ∧
      second.outcome (first.after shell) = second.outcome shell ∧
      (second.after (first.after shell)).store = (first.after (second.after shell)).store := by
  intro first second
  have kept : first.Leads Kept := expandWord_kept standard.confined still
  have kept' : second.Leads Kept := expandWord_kept standard.confined still'
  have unlimited' (word : Word) : ((engine.expandWord word).after shell).stderr.limit = none :=
    ((restoring standard.confined).expandWord word shell).stderr.limit.trans unlimited
  refine ⟨kept shell, ?_, ?_, ?_, ?_⟩
  · exact expandWord_outcome standard word (kept shell) (unlimited' word) unlimited
  · exact expandWord_outcome standard word (kept' shell) (unlimited' word') unlimited
  · exact expandWord_outcome standard word' (kept shell) (unlimited' word) unlimited
  · calc
      (second.after (first.after shell)).store = (first.after shell).store := kept' _
      _ = shell.store := kept shell
      _ = (second.after shell).store := (kept' shell).symm
      _ = (first.after (second.after shell)).store := (kept _).symm

/-- A word with a substitution that leaves a scope open and counts a variable. -/
def shelteredWord : Word :=
  [.parameter "x" none, .substitution
    [.ofCommand (.ofTexts ["leak-scope", "x", "9"]),
      .ofCommand (.call [⟨"y", Word.ofText "5"⟩]
        [Word.ofText "echo", [.arithmetic (.unary .inc (.ofText "y") false)]])]]

/-- A word with a substitution that writes to the standard error, binds a variable and fails. -/
def burstingWord : Word :=
  [.arithmetic (.binary .add (.ofText "y") (.ofText "1")), .substitution
    [.ofCommand (.ofTexts ["warn", "a"]), .ofCommand (.call [⟨"x", Word.ofText "7"⟩]
      [Word.ofText "explode", [.parameter "x" none]])]]

theorem sheltered_reorders :
    strict.registry.Standard ∧ layered.stderr.limit = none ∧ shelteredWord.CountsNothing ∧
      burstingWord.CountsNothing ∧
      (strict.expandWord shelteredWord).outcome layered = .ok "16" ∧
      (strict.expandWord shelteredWord).outcome
        ((strict.expandWord burstingWord).after layered) = .ok "16" ∧
      (strict.expandWord burstingWord).outcome
        ((strict.expandWord shelteredWord).after layered) = .error (.program "explode" "7") := by
  have standard : strict.registry.Standard := fun _ member => member
  have still : shelteredWord.CountsNothing := by decide
  have still' : burstingWord.CountsNothing := by decide
  obtain ⟨-, -, first, second, -⟩ :=
    expansion_reorders strict standard layered rfl shelteredWord burstingWord still still'
  have text : (strict.expandWord shelteredWord).outcome layered = .ok "16" := by decide +kernel
  have failure : (strict.expandWord burstingWord).outcome layered =
      .error (.program "explode" "7") := by
    decide +kernel
  exact ⟨standard, rfl, still, still', text, first.trans text, second.trans failure⟩

end Engine

end ShellTree
