import ShellTree.Proofs.Engine.Agreement
import ShellTree.Proofs.Tree.Normal

/-!
# Evaluation of normal forms

A tree and its normal form evaluate alike in every shell.  The one trace that quotes and
parentheses leave is in a message: an operand that cannot be counted is shown as it is
written.
-/

namespace ShellTree

/-- Failures that are the same but for the way in which a wrong operand is shown. -/
inductive Failure.Alike : Failure → Failure → Prop where
  | same (failure : Failure) : Alike failure failure
  | shown (operand operand' : String) : Alike (.notAVariable operand) (.notAVariable operand')

namespace Action

variable {ε α : Type}

inductive Matches :
    EStateM.Result Failure (Shell ε) α → EStateM.Result Failure (Shell ε) α → Prop where
  | ok (value : α) (after : Shell ε) : Matches (.ok value after) (.ok value after)
  | error {failure failure' : Failure} (alike : failure.Alike failure') (after : Shell ε) :
      Matches (.error failure after) (.error failure' after)

/-- Both actions do the same to every shell, up to the way in which a wrong operand is shown. -/
def Equivalent (action action' : Action ε α) : Prop :=
  ∀ shell, Matches (action shell) (action' shell)

namespace Equivalent

theorem closed : ActionRelation.Closed (Equivalent : ActionRelation ε ε) where
  pure value shell := .ok value shell
  fail failure shell := .error (.same failure) shell
  bind {α β first first' next next'} agree agree' shell := by
    have begun := agree shell
    simp only [Bind.bind, EStateM.bind]
    generalize first shell = result at begun
    generalize first' shell = result' at begun
    cases begun with
    | ok value after => exact agree' value after
    | error alike after => exact .error alike after

theorem refl (action : Action ε α) : Equivalent action action := by
  intro shell
  cases action shell with
  | ok value after => exact .ok value after
  | error failure after => exact .error (.same failure) after

theorem captured {action action' : Action ε Unit} (agree : Equivalent action action') :
    Equivalent (Action.captured action) (Action.captured action') := by
  intro shell
  have inner := agree { shell with stdout := {} }
  simp only [Action.captured]
  generalize action { shell with stdout := {} } = result at inner
  generalize action' { shell with stdout := {} } = result' at inner
  cases inner with
  | ok value after => exact .ok _ _
  | error alike after => exact .error alike _

theorem inScope [Store ε] {action action' : Action ε α} (agree : Equivalent action action') :
    Equivalent (Action.inScope action) (Action.inScope action') := by
  intro shell
  have inner := agree { shell with store := (Store.push shell.store).2 }
  simp only [Action.inScope]
  generalize action { shell with store := (Store.push shell.store).2 } = result at inner
  generalize action' { shell with store := (Store.push shell.store).2 } = result' at inner
  cases inner with
  | ok value after => exact .ok value _
  | error alike after => exact .error alike _

end Equivalent

end Action

theorem Command.kind_norm (command : Command) : command.norm.kind = command.kind := by
  fun_cases Command.norm <;> simp only [Command.kind]

theorem isEmpty_normRedirections (redirections : List Redirection) :
    (normRedirections redirections).isEmpty = redirections.isEmpty := by
  fun_cases normRedirections <;> rfl

namespace Engine

variable {ε : Type} [Store ε] (engine : Engine ε)

/-! ## Words in pieces -/

theorem expandWord_append (first second : List Part) :
    engine.expandWord (first ++ second) = do
      let text ← engine.expandWord first
      return text ++ (← engine.expandWord second) := by
  induction first with
  | nil => simp only [List.nil_append, expandWord, pure_bind, String.empty_append, bind_pure]
  | cons part rest ih =>
      simp only [List.cons_append, expandWord, ih, bind_assoc, pure_bind, String.append_assoc]

theorem expandWord_singleton (part : Part) :
    engine.expandWord [part] = engine.expandPart part := by
  simp only [expandWord, pure_bind, String.append_empty, bind_pure]

/-- Merging literals does not change what a word expands to. -/
theorem expandWord_prepend (part : Part) (word : List Part) :
    engine.expandWord (part.prepend word) = engine.expandWord (part :: word) := by
  unfold Part.prepend
  split
  · simp only [expandWord, expandPart, pure_bind, bind_assoc, String.append_assoc]
  · rfl

theorem expandWord_foldr_prepend (parts word : List Part) :
    engine.expandWord (parts.foldr Part.prepend word) = engine.expandWord (parts ++ word) := by
  induction parts with
  | nil => rfl
  | cons part rest ih =>
      rw [List.foldr_cons, expandWord_prepend, List.cons_append]
      simp only [expandWord, ih]

/-! ## Trees -/

open Action.Equivalent ShellTree.Action

/-- A command that is not a call fails, and its kind is all that the failure tells. -/
theorem executeCommand_eq_throw {command : Command} (other : command.kind ≠ .call) :
    engine.executeCommand command = throw (.unsupported (.command command.kind)) := by
  cases command with
  | call assignments arguments => exact absurd rfl other
  | _ => rw [executeCommand]; exact nofun

theorem executeCommand_norm_other {command : Command} (other : command.kind ≠ .call) :
    Equivalent (engine.executeCommand command) (engine.executeCommand command.norm) := by
  have other' : command.norm.kind ≠ .call := command.kind_norm ▸ other
  rw [executeCommand_eq_throw engine other, executeCommand_eq_throw engine other',
    command.kind_norm]
  exact .refl _

/-! A part may become several parts, so it is compared with the word that it becomes. -/

mutual

theorem expandPart_norm : ∀ part : Part,
    Equivalent (engine.expandPart part) (engine.expandWord part.norm)
  | .literal value => by
      rw [Part.norm, expandWord_singleton]
      exact .refl _
  | .singleQuoted value => by
      rw [Part.norm, expandWord_singleton]
      simp only [expandPart]
      exact .refl _
  | .doubleQuoted parts => by
      rw [Part.norm, expandPart]
      exact expandWord_norm parts
  | .parameter name none => by
      rw [Part.norm, expandWord_singleton]
      exact .refl _
  | .parameter name (some operation) => by
      rw [Part.norm, expandWord_singleton]
      simp only [expandPart]
      exact expandOperation_norm name operation
  | .arithmetic expression => by
      rw [Part.norm, expandWord_singleton]
      simp only [expandPart]
      exact closed.bind (evaluate_norm expression) fun _ => .refl _
  | .substitution body => by
      rw [Part.norm, expandWord_singleton]
      simp only [expandPart]
      exact closed.bind (.captured (.inScope (executeAll_norm body))) fun _ => .refl _
  | .brace items => by
      rw [Part.norm, expandWord_singleton]
      simp only [expandPart]
      exact .refl _
  | .extGlob operator pattern => by
      rw [Part.norm, expandWord_singleton]
      exact .refl _
  | .process body direction => by
      rw [Part.norm, expandWord_singleton]
      simp only [expandPart]
      exact .refl _

theorem expandWord_norm : ∀ word : List Part,
    Equivalent (engine.expandWord word) (engine.expandWord (normWord word))
  | [] => by
      rw [normWord]
      exact .refl _
  | part :: rest => by
      rw [normWord, expandWord_foldr_prepend, expandWord_append, expandWord]
      exact closed.bind (expandPart_norm part) fun _ =>
        closed.bind (expandWord_norm rest) fun _ => .refl _

theorem expandWords_norm : ∀ words : List (List Part),
    Equivalent (engine.expandWords words) (engine.expandWords (normWords words))
  | [] => by
      rw [normWords]
      exact .refl _
  | word :: rest => by
      rw [normWords, expandWords, expandWords]
      exact closed.bind (expandWord_norm word) fun _ =>
        closed.bind (expandWords_norm rest) fun _ => .refl _

theorem expandOperation_norm (name : String) : ∀ operation : Operation,
    Equivalent (engine.expandOperation name operation)
      (engine.expandOperation name operation.norm)
  | .length | .indirect | .modifyCase .. | .width => by
      rw [Operation.norm]
      exact .refl _
  | .index _ => by
      rw [Operation.norm, expandOperation, expandOperation]
      exact .refl _
  | .slice offset none => by
      rw [Operation.norm, expandOperation, expandOperation]
      exact closed.bind (.refl _) fun _ =>
        closed.bind (evaluate_norm offset) fun _ => .refl _
  | .slice offset (some bound) => by
      rw [Operation.norm, expandOperation, expandOperation]
      exact closed.bind (.refl _) fun _ => closed.bind (evaluate_norm offset) fun _ =>
        closed.bind (evaluate_norm bound) fun _ => .refl _
  | .replace pattern replacement all => by
      rw [Operation.norm, expandOperation, expandOperation]
      exact closed.bind (.refl _) fun _ => closed.bind (expandWord_norm pattern) fun _ =>
        closed.bind (expandWord_norm replacement) fun _ => .refl _
  | .default word checkEmpty => by
      rw [Operation.norm, expandOperation, expandOperation]
      refine closed.bind (.refl _) fun store => ?_
      split
      · exact expandWord_norm word
      · exact .refl _
  | .alternate word checkEmpty => by
      rw [Operation.norm, expandOperation, expandOperation]
      refine closed.bind (.refl _) fun store => ?_
      split
      · exact .refl _
      · exact expandWord_norm word

theorem evaluate_norm : ∀ expression : Arith,
    Equivalent (engine.evaluate expression) (engine.evaluate (expression.norm false))
  | .word parts => by
      rw [Arith.norm, evaluate, evaluate]
      exact closed.bind (expandWord_norm parts) fun _ => .refl _
  | .paren expression => by
      rw [Arith.norm, evaluate]
      exact evaluate_norm expression
  | .unary operator operand isPostfix => by
      rw [Arith.norm, evaluate, evaluate]
      cases operator.assigns with
      | true => exact updateOperand_norm operator isPostfix operand
      | false => exact closed.bind (evaluate_norm operand) fun _ => .refl _
  | .binary operator left right => by
      rw [Arith.norm, evaluate, evaluate]
      refine closed.bind (evaluate_norm left) fun first => ?_
      split
      · exact .refl _
      · exact closed.bind (evaluate_norm right) fun _ => .refl _

/-- Only here the shape of the operand shows: what is not a word fails with its own text. -/
theorem updateOperand_norm (operator : UnaryOperator) (isPostfix : Bool) : ∀ operand : Arith,
    Equivalent (engine.updateOperand operator isPostfix operand)
      (engine.updateOperand operator isPostfix (operand.norm true))
  | .word parts => by
      rw [Arith.norm, updateOperand, updateOperand]
      exact closed.bind (expandWord_norm parts) fun _ => .refl _
  | .paren expression => by
      rw [Arith.norm]
      simp only [updateOperand]
      exact fun shell => .error (.shown _ _) shell
  | .unary .. | .binary .. => by
      rw [Arith.norm]
      simp only [updateOperand]
      exact fun shell => .error (.shown _ _) shell

theorem assign_norm : ∀ assignments : List Assignment,
    Equivalent (engine.assign assignments) (engine.assign (normAssignments assignments))
  | [] => by
      rw [normAssignments]
      exact .refl _
  | ⟨name, word⟩ :: rest => by
      rw [normAssignments, assign, assign]
      exact closed.bind (expandWord_norm word) fun _ =>
        closed.bind (.refl _) fun _ => assign_norm rest

theorem execute_norm : ∀ statement : Statement,
    Equivalent (engine.execute statement) (engine.execute statement.norm)
  | ⟨none, _, _, _, _⟩ => by
      rw [Statement.norm, execute, execute]
      exact .refl _
  | ⟨some command, negated, background, coprocess, redirections⟩ => by
      rw [Statement.norm, execute, execute, Command.kind_norm, isEmpty_normRedirections]
      split
      · exact .refl _
      · split
        · exact .refl _
        · exact closed.bind (executeCommand_norm command) fun _ => .refl _

theorem executeCommand_norm : ∀ command : Command,
    Equivalent (engine.executeCommand command) (engine.executeCommand command.norm)
  | .call assignments arguments => by
      rw [Command.norm, executeCommand, executeCommand]
      exact .inScope <| closed.bind (assign_norm assignments) fun _ =>
        closed.bind (expandWords_norm arguments) fun _ => .refl _
  | .arithmetic _ | .binary .. | .block _ | .choice .. | .coproc .. | .declare .. | .forLoop ..
  | .function .. | .conditional .. | .letAll _ | .subshell _ | .test _ | .timed ..
  | .whileLoop .. => executeCommand_norm_other engine nofun

theorem executeAll_norm : ∀ body : List Statement,
    Equivalent (engine.executeAll body) (engine.executeAll (normStatements body))
  | [] => by
      rw [normStatements]
      exact .refl _
  | statement :: rest => by
      rw [normStatements, executeAll, executeAll]
      exact closed.bind (execute_norm statement) fun _ => executeAll_norm rest

end

/-- Quotes and parentheses carry no meaning: every statement, word and expression has a normal
form without them, which gives the same value or status, or a failure that is alike, and
leaves the same shell. -/
theorem evaluation_norm :
    (∀ statement : Statement, statement.norm.IsNormal ∧
        Equivalent (engine.execute statement) (engine.execute statement.norm)) ∧
      (∀ word : Word, NormalWord (normWord word) ∧
        Equivalent (engine.expandWord word) (engine.expandWord (normWord word))) ∧
      ∀ expression : Arith, (expression.norm false).IsNormal false ∧
        Equivalent (engine.evaluate expression) (engine.evaluate (expression.norm false)) := by
  refine ⟨fun statement => ?_, fun word => ?_, fun expression => ?_⟩
  · exact ⟨statement.norm_normal, engine.execute_norm statement⟩
  · exact ⟨normWord_normal word, engine.expandWord_norm word⟩
  · exact ⟨expression.norm_normal false, engine.evaluate_norm expression⟩

end Engine

/-- Parentheses stay below a counting operator and go elsewhere. -/
example :
    Arith.norm (.unary .neg (.paren (.unary .inc (.paren (.paren (.word
      [.literal "a", .doubleQuoted [.singleQuoted "b", .parameter "x" none]]))) false)) false)
      false =
    .unary .neg (.unary .inc (.paren (.word
      [.literal "ab", .parameter "x" none])) false) false :=
  rfl

end ShellTree
