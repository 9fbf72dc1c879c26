import ShellTree.Engine.Evaluation
import ShellTree.Program.Builtin
import ShellTree.Proofs.Arithmetic.Wrapping
import ShellTree.Proofs.Engine.Mention
import ShellTree.Tree.Build

/-!
# Overflow inside of expressions

Sums, differences, products, signs and complements of wrapped numbers are the wrapped
sums, differences, products, signs and complements.  So an expression that is made of
these alone can be computed with unbounded integers and wrapped once at its end,
wherever an overflow occurs on the way.
-/

namespace ShellTree

/-- The value of an expression in unbounded integers.  It exists for literal leaves that stand
for numbers, parentheses, signs, complements, sums, differences, products and commas. -/
inductive Arith.Exact {ε : Type} [Store ε] (store : ε) : Arith → Int → Prop where
  | leaf (texts : List String) {number : Int}
      (denotes : Operand.Denotes store (String.join texts) number) :
      Exact store (.word (texts.map .literal)) number
  | paren {operand : Arith} {number : Int} (exact : Exact store operand number) :
      Exact store (.paren operand) number
  | neg {operand : Arith} {number : Int} (isPostfix : Bool) (exact : Exact store operand number) :
      Exact store (.unary .neg operand isPostfix) (-number)
  | pos {operand : Arith} {number : Int} (isPostfix : Bool) (exact : Exact store operand number) :
      Exact store (.unary .pos operand isPostfix) number
  | bitNot {operand : Arith} {number : Int} (isPostfix : Bool)
      (exact : Exact store operand number) :
      Exact store (.unary .bitNot operand isPostfix) (-number - 1)
  | add {left right : Arith} {first second : Int} (exact : Exact store left first)
      (exact' : Exact store right second) : Exact store (.binary .add left right) (first + second)
  | sub {left right : Arith} {first second : Int} (exact : Exact store left first)
      (exact' : Exact store right second) : Exact store (.binary .sub left right) (first - second)
  | mul {left right : Arith} {first second : Int} (exact : Exact store left first)
      (exact' : Exact store right second) : Exact store (.binary .mul left right) (first * second)
  | comma {left right : Arith} {first second : Int} (exact : Exact store left first)
      (exact' : Exact store right second) : Exact store (.binary .comma left right) second

theorem ofInt_complement (number : Int) :
    ~~~Int64.ofInt number = Int64.ofInt (-number - 1) := by
  rw [Int64.not_eq_neg_sub, Int64.ofInt_sub, Int64.ofInt_neg]
  rfl

namespace Engine

variable {ε : Type} [Store ε] {engine : Engine ε} {shell : Shell ε}

/-- The text of literal parts is their texts, joined. -/
theorem text?_literals (texts : List String) :
    Word.text? (texts.map .literal) = some (String.join texts) := by
  induction texts with
  | nil => rfl
  | cons text rest ih =>
      rw [List.map_cons, Word.text?, Part.text?, ih, String.join_cons]
      rfl

theorem evaluate_leaf {texts : List String} {number : Int}
    (denotes : Operand.Denotes shell.store (String.join texts) number) :
    engine.evaluate (.word (texts.map .literal)) shell = .ok (Int64.ofInt number) shell := by
  obtain ⟨operand, resolved, value⟩ := denotes.resolve
  rw [evaluate_text (text?_literals texts) resolved, value]

theorem evaluate_unary {operator : UnaryOperator} (pure : operator.assigns = false)
    {operand : Arith} {value : Int64} (evaluated : engine.evaluate operand shell = .ok value shell)
    (isPostfix : Bool) :
    engine.evaluate (.unary operator operand isPostfix) shell =
      .ok (operator.apply value) shell := by
  simp only [evaluate, pure, Bool.false_eq_true, if_false, bind, EStateM.bind, evaluated,
    Pure.pure, EStateM.pure]

theorem evaluate_binary {operator : BinaryOperator} {left right : Arith}
    {first second result : Int64} (evaluated : engine.evaluate left shell = .ok first shell)
    (evaluated' : engine.evaluate right shell = .ok second shell)
    (undecided : operator.decided? first = none)
    (applied : operator.apply first second = .ok result) :
    engine.evaluate (.binary operator left right) shell = .ok result shell := by
  simp only [evaluate, bind, EStateM.bind, evaluated, undecided, evaluated', applied,
    Action.ofExcept]

/-- Wrapping every intermediate value is wrapping the exact value once. -/
theorem evaluate_of_exact {expression : Arith} {number : Int}
    (exact : expression.Exact shell.store number) :
    engine.evaluate expression shell = .ok (Int64.ofInt number) shell := by
  induction exact with
  | leaf texts denotes => exact evaluate_leaf denotes
  | paren exact ih =>
      rw [evaluate]
      exact ih
  | @neg operand number isPostfix exact ih =>
      rw [evaluate_unary rfl ih, Int64.ofInt_neg]
      rfl
  | @pos operand number isPostfix exact ih => exact evaluate_unary rfl ih isPostfix
  | @bitNot operand number isPostfix exact ih =>
      rw [evaluate_unary rfl ih, ← ofInt_complement]
      rfl
  | add exact exact' ih ih' =>
      rw [Int64.ofInt_add]
      exact evaluate_binary ih ih' rfl rfl
  | sub exact exact' ih ih' =>
      rw [Int64.ofInt_sub]
      exact evaluate_binary ih ih' rfl rfl
  | mul exact exact' ih ih' =>
      rw [Int64.ofInt_mul]
      exact evaluate_binary ih ih' rfl rfl
  | comma exact exact' ih ih' => exact evaluate_binary ih ih' rfl rfl

/-- Evaluation of such an expression succeeds, changes nothing, and gives the one number of
64 bits that is congruent to the exact value, wherever values overflow on the way. -/
theorem evaluate_congruent (engine : Engine ε) (shell : Shell ε) (expression : Arith)
    (number : Int) (exact : expression.Exact shell.store number) :
    ∃ value, engine.evaluate expression shell = .ok value shell ∧
      ∀ other : Int64, other = value ↔ other.toInt ≡ number [ZMOD 2 ^ 64] :=
  ⟨Int64.ofInt number, evaluate_of_exact exact, fun other => eq_ofInt_iff other number⟩

def numbered : Shell Environment where
  store := .ofPairs [("x", "\t+3 "), ("blank", " "), ("least", "-9223372036854775808")]

/-- The expression `least , -least * x + ~(9223372036854775807 + 1) - blank * unset`, with one
leaf in two pieces. -/
def overflowingSum : Arith :=
  .binary .comma (.ofText "least")
    (.binary .sub
      (.binary .add
        (.binary .mul (.unary .neg (.ofText " least ") false) (.ofText "x"))
        (.unary .bitNot (.paren (.binary .add
          (.word [.literal "92233720368", .literal "54775807"]) (.ofText "1"))) false))
      (.binary .mul (.ofText "blank") (.unary .pos (.ofText "unset") false)))

theorem overflowingSum_exact :
    overflowingSum.Exact numbered.store
      (-(-2 ^ 63) * 3 + (-(9223372036854775807 + 1) - 1) - 0 * 0) := by
  have blanks {text : List Char} : text.all Text.isBlank = true → _ := List.all_eq_true.mp
  have digits {text : List Char} : text.all Char.isDigit = true → _ := List.all_eq_true.mp
  have least : IsVariable "least" "least" :=
    ⟨isName_of_isIdentifier (by decide), .refl _⟩
  have padded : IsVariable " least " "least" :=
    ⟨least.named, [' '], [' '], by decide, blanks (by decide), blanks (by decide)⟩
  have x : IsVariable "x" "x" := ⟨isName_of_isIdentifier (by decide), .refl _⟩
  have blank : IsVariable "blank" "blank" := ⟨isName_of_isIdentifier (by decide), .refl _⟩
  have unset : IsVariable "unset" "unset" := ⟨isName_of_isIdentifier (by decide), .refl _⟩
  have holds : Store.get? numbered.store "blank" = some " " := by decide
  have smallest : IsLiteral "-9223372036854775808" (-2 ^ 63) :=
    ⟨⟨_, .refl _, .minus (by decide) (digits (by decide))⟩, by decide, by decide⟩
  have three : IsLiteral "\t+3 " 3 :=
    ⟨⟨['+', '3'], ⟨['\t'], [' '], by decide, blanks (by decide), blanks (by decide)⟩,
      .plus (by decide) (digits (by decide))⟩, by decide, by decide⟩
  have largest : IsLiteral "9223372036854775807" 9223372036854775807 :=
    ⟨⟨_, .refl _, .unsigned (by decide) (digits (by decide))⟩, by decide, by decide⟩
  have one : IsLiteral "1" 1 :=
    ⟨⟨_, .refl _, .unsigned (by decide) (digits (by decide))⟩, by decide, by decide⟩
  refine .comma (.leaf ["least"] (.bound least (by decide) smallest)) ?_
  refine .sub (.add (.mul ?_ ?_) (.bitNot _ (.paren (.add ?_ ?_)))) (.mul ?_ ?_)
  · exact .neg _ (.leaf [" least "] (.bound padded (by decide) smallest))
  · exact .leaf ["x"] (.bound x (by decide) three)
  · exact .leaf ["92233720368", "54775807"] (.literal largest)
  · exact .leaf ["1"] (.literal one)
  · exact .leaf ["blank"] (.blank blank holds (blanks (by decide)))
  · exact .pos _ (.leaf ["unset"] (.unset unset (by decide)))

theorem overflowingSum_congruent :
    ∃ number : Int, overflowingSum.Exact numbered.store number ∧ number = 2 ^ 64 - 1 ∧
      ∃ value, (⟨{}, .builtin⟩ : Engine Environment).evaluate overflowingSum numbered =
          .ok value numbered ∧
        ∀ other : Int64, other = value ↔ other.toInt ≡ number [ZMOD 2 ^ 64] :=
  ⟨_, overflowingSum_exact, by decide,
    evaluate_congruent ⟨{}, .builtin⟩ numbered overflowingSum _ overflowingSum_exact⟩

end Engine

end ShellTree
