import ShellTree.Engine.Evaluation

/-!
# Short circuits

The logical operators look at their operands as truth values only, and what they give is a
truth value again.  So they are the connectives of actions that give truth values: the
second action is done only where the first one does not decide.  The laws of these
connectives become laws of expressions, in which the operands may change variables, run
statements and fail: both sides of a law do the same things in the same order.
-/

namespace ShellTree

/-! ## Connectives of actions -/

section Connectives

variable {m : Type → Type} [Monad m] (first second third : m Bool)

theorem andM_eq_bind :
    (first <&&> second) = first >>= fun flag => if flag then second else pure false := by
  refine bind_congr fun flag => ?_
  cases flag <;> rfl

theorem orM_eq_bind :
    (first <||> second) = first >>= fun flag => if flag then pure true else second := by
  refine bind_congr fun flag => ?_
  cases flag <;> rfl

variable [LawfulMonad m]

theorem andM_assoc :
    ((first <&&> second) <&&> third) = (first <&&> (second <&&> third)) := by
  simp only [andM_eq_bind, bind_assoc]
  refine bind_congr fun flag => ?_
  cases flag with
  | true => rfl
  | false => exact pure_bind false _

theorem orM_assoc :
    ((first <||> second) <||> third) = (first <||> (second <||> third)) := by
  simp only [orM_eq_bind, bind_assoc]
  refine bind_congr fun flag => ?_
  cases flag with
  | true => exact pure_bind true _
  | false => rfl

theorem notM_andM : notM (first <&&> second) = (notM first <||> notM second) := by
  simp only [notM, andM_eq_bind, orM_eq_bind, map_bind, bind_map_left]
  refine bind_congr fun flag => ?_
  cases flag with
  | true => rfl
  | false => exact map_pure not false

theorem notM_orM : notM (first <||> second) = (notM first <&&> notM second) := by
  simp only [notM, andM_eq_bind, orM_eq_bind, map_bind, bind_map_left]
  refine bind_congr fun flag => ?_
  cases flag with
  | true => exact map_pure not true
  | false => rfl

theorem notM_notM : notM (notM first) = first := by
  simp only [notM, Functor.map_map, Bool.not_not, id_map']

end Connectives

/-! ## Logical expressions -/

namespace Arith

def not (operand : Arith) : Arith :=
  .unary .not operand false

def and (left right : Arith) : Arith :=
  .binary .logAnd left right

def or (left right : Arith) : Arith :=
  .binary .logOr left right

def comma (left right : Arith) : Arith :=
  .binary .comma left right

def grouped (expression : Arith) : Nat → Arith
  | 0 => expression
  | levels + 1 => .paren (expression.grouped levels)

end Arith

@[simp]
theorem truthValue_ne_zero (flag : Bool) : decide (truthValue flag ≠ 0) = flag := by
  cases flag <;> rfl

namespace Engine

variable {ε : Type} [Store ε] (engine : Engine ε)

def test (expression : Arith) : Action ε Bool := do
  return (← engine.evaluate expression) ≠ 0

theorem test_bind {α : Type} (expression : Arith) (next : Bool → Action ε α) :
    (engine.test expression >>= next) =
      engine.evaluate expression >>= fun value => next (value ≠ 0) := by
  simp only [test, bind_assoc, pure_bind]

theorem map_truthValue_test (expression : Arith) :
    truthValue <$> engine.test expression =
      engine.evaluate expression >>= fun value => pure (truthValue (value ≠ 0)) := by
  simp only [test, map_bind, map_pure]

/-- An expression that gives the truth value of an action is true where this is. -/
theorem test_of_evaluate {expression : Arith} {action : Action ε Bool}
    (evaluated : engine.evaluate expression = truthValue <$> action) :
    engine.test expression = action := by
  simp only [test, evaluated, bind_map_left, truthValue_ne_zero, bind_pure]

theorem evaluate_grouped (expression : Arith) (levels : Nat) :
    engine.evaluate (expression.grouped levels) = engine.evaluate expression := by
  induction levels with
  | zero => rfl
  | succ levels ih => rw [Arith.grouped, evaluate, ih]

theorem test_grouped (expression : Arith) (levels : Nat) :
    engine.test (expression.grouped levels) = engine.test expression := by
  rw [test, evaluate_grouped, test]

theorem evaluate_not (operand : Arith) :
    engine.evaluate operand.not = truthValue <$> notM (engine.test operand) := by
  have flips (value : Int64) : decide (value = 0) = !decide (value ≠ 0) := by simp
  simp only [Arith.not, evaluate, UnaryOperator.assigns, UnaryOperator.apply, test, notM, flips,
    map_bind, map_pure, Bool.false_eq_true, if_false]

/-- Where the left operand is zero, the right one is not evaluated. -/
theorem evaluate_and (left right : Arith) :
    engine.evaluate (left.and right) =
      truthValue <$> (engine.test left <&&> engine.test right) := by
  rw [Arith.and, evaluate, andM_eq_bind, map_bind, test_bind]
  refine bind_congr fun first => ?_
  by_cases zero : first = 0
  · subst zero
    rfl
  · have undecided : BinaryOperator.logAnd.decided? first = none := if_neg zero
    have applied (second : Int64) : BinaryOperator.logAnd.apply first second =
        .ok (truthValue (second ≠ 0)) := by
      simp only [BinaryOperator.apply, ne_eq, zero, not_false_eq_true, decide_true, Bool.true_and]
    simp only [undecided, applied, ne_eq, zero, not_false_eq_true, decide_true, if_true,
      map_truthValue_test]
    rfl

/-- Where the left operand is not zero, the right one is not evaluated. -/
theorem evaluate_or (left right : Arith) :
    engine.evaluate (left.or right) =
      truthValue <$> (engine.test left <||> engine.test right) := by
  rw [Arith.or, evaluate, orM_eq_bind, map_bind, test_bind]
  refine bind_congr fun first => ?_
  by_cases zero : first = 0
  · subst zero
    exact (engine.map_truthValue_test right).symm
  · have decided : BinaryOperator.logOr.decided? first = some 1 := if_pos zero
    simp only [decided, ne_eq, zero, not_false_eq_true, decide_true, if_true, map_pure]
    rfl

/-- The value of the left operand is not looked at. -/
theorem evaluate_comma (left right : Arith) :
    engine.evaluate (left.comma right) =
      (engine.evaluate left >>= fun _ => engine.evaluate right) := by
  simp only [Arith.comma, evaluate]
  refine bind_congr fun first => ?_
  exact bind_pure (engine.evaluate right)

theorem test_not (operand : Arith) : engine.test operand.not = notM (engine.test operand) :=
  engine.test_of_evaluate (engine.evaluate_not operand)

theorem test_and (left right : Arith) :
    engine.test (left.and right) = (engine.test left <&&> engine.test right) :=
  engine.test_of_evaluate (engine.evaluate_and left right)

theorem test_or (left right : Arith) :
    engine.test (left.or right) = (engine.test left <||> engine.test right) :=
  engine.test_of_evaluate (engine.evaluate_or left right)

/-- The laws of the logical operators and of the comma hold of all operands, whatever these do:
in every shell both sides give the same value or the same failure and leave the same shell, with
parentheses or without. -/
theorem short_circuit_laws (a b c : Arith) (levels levels' : Nat) :
    engine.evaluate ((a.and b).grouped levels).not = engine.evaluate (a.not.or b.not) ∧
      engine.evaluate ((a.or b).grouped levels).not = engine.evaluate (a.not.and b.not) ∧
      engine.evaluate (((a.and b).grouped levels).and c) =
        engine.evaluate (a.and ((b.and c).grouped levels')) ∧
      engine.evaluate (((a.or b).grouped levels).or c) =
        engine.evaluate (a.or ((b.or c).grouped levels')) ∧
      engine.evaluate ((a.and b).grouped levels).not.not = engine.evaluate (a.and b) ∧
      engine.evaluate (((a.comma b).grouped levels).comma c) =
        engine.evaluate (a.comma ((b.comma c).grouped levels')) := by
  refine ⟨?_, ?_, ?_, ?_, ?_, ?_⟩
  · rw [evaluate_not, evaluate_or, test_grouped, test_and, test_not, test_not, notM_andM]
  · rw [evaluate_not, evaluate_and, test_grouped, test_or, test_not, test_not, notM_orM]
  · simp only [evaluate_and, test_grouped, test_and, andM_assoc]
  · simp only [evaluate_or, test_grouped, test_or, orM_assoc]
  · simp only [evaluate_not, evaluate_and, test_not, test_grouped, test_and, notM_notM]
  · simp only [evaluate_comma, evaluate_grouped, bind_assoc]

end Engine

end ShellTree
