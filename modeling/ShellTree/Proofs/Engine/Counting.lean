import ShellTree.Program.Builtin
import ShellTree.Proofs.Arithmetic.Numeral
import ShellTree.Proofs.Engine.Mention
import ShellTree.Proofs.Environment.Flattening
import ShellTree.Tree.Build

/-!
# Counting variables up and down

A variable is counted by reading its value as a number and binding the next number, as
text, in the top layer.  What was read may lie in any layer and in any spelling; what is
written is read back as the number that was meant, also where counting wraps around.  So
counting up and then down, or down and then up, gives the first number again.  An operand
that is no variable with a number fails and changes nothing.
-/

namespace ShellTree

def UnaryOperator.step? : UnaryOperator → Option Int
  | .inc => some 1
  | .dec => some (-1)
  | _ => none

namespace UnaryOperator

variable {operator inverse : UnaryOperator} {step : Int}

theorem assigns_of_step? (counts : operator.step? = some step) : operator.assigns = true := by
  cases operator with
  | inc | dec => rfl
  | neg | pos | not | bitNot => cases counts

theorem apply_of_step? (counts : operator.step? = some step) (number : Int64) :
    operator.apply number = Int64.ofInt (number.toInt + step) := by
  have wrapped : Int64.ofInt (number.toInt + step) = number + Int64.ofInt step := by
    rw [Int64.ofInt_add, Int64.ofInt_toInt]
  rw [wrapped]
  cases operator with
  | inc =>
      cases counts
      rfl
  | dec =>
      cases counts
      exact Int64.sub_eq_add_neg number 1
  | neg | pos | not | bitNot => cases counts

/-- Counting back undoes counting, also where it wraps around. -/
theorem ofInt_step_back (number : Int64) (step : Int) :
    Int64.ofInt ((Int64.ofInt (number.toInt + step)).toInt + -step) = number := by
  rw [Int64.ofInt_add, Int64.ofInt_toInt, ← Int64.ofInt_add, Int.add_neg_cancel_right,
    Int64.ofInt_toInt]

end UnaryOperator

structure Environment.Binds (before : Environment) (name value : String) (after : Environment) :
    Prop where
  top : after.top.get? name = some value
  others : ∀ other, other ≠ name → after.get? other = before.get? other
  below : after.below = before.below

theorem Environment.set_binds (environment : Environment) (name value : String) :
    environment.Binds name value (environment.set name value) where
  top := by rw [set, Bindings.get?_put, if_pos rfl]
  others other different := by rw [get?_set, if_neg different]
  below := rfl

namespace Engine

variable {engine : Engine Environment} {shell : Shell Environment} {leaf : Word}
  {text name : String} {operator : UnaryOperator} {step : Int}

/-! ## One step -/

/-- Counting a word of literal text is an update of what its text names. -/
theorem evaluate_counting (counts : operator.step? = some step)
    (literal : Word.text? leaf = some text) (isPostfix : Bool) :
    engine.evaluate (.unary operator (.word leaf) isPostfix) = update operator isPostfix text := by
  rw [evaluate, if_pos (UnaryOperator.assigns_of_step? counts), updateOperand,
    expandWord_of_text? engine leaf literal, pure_bind]

theorem update_of_error {failure : Failure}
    (resolved : Operand.resolve shell.store text = .error failure) (operator : UnaryOperator)
    (isPostfix : Bool) : update operator isPostfix text shell = .error failure shell := by
  simp only [update, bind, EStateM.bind, Action.store, Action.ofExcept, resolved]

theorem update_of_literal {value : Int64}
    (resolved : Operand.resolve shell.store text = .ok (.literal value)) (operator : UnaryOperator)
    (isPostfix : Bool) :
    update operator isPostfix text shell = .error (.notAVariable text) shell := by
  simp only [update, bind, EStateM.bind, Action.store, Action.ofExcept, resolved]
  rfl

theorem update_of_named {old : Int64}
    (resolved : Operand.resolve shell.store text = .ok (.named name old))
    (operator : UnaryOperator) (isPostfix : Bool) :
    update operator isPostfix text shell =
      .ok (if isPostfix then old else operator.apply old)
        { shell with store := shell.store.set name (Decimal.text (operator.apply old).toInt) } := by
  simp only [update, bind, EStateM.bind, Action.store, Action.ofExcept, resolved]
  rfl

/-- A variable that stands for a number is counted: the next number is bound in the top layer. -/
theorem evaluate_counting_of_denotes (counts : operator.step? = some step)
    (literal : Word.text? leaf = some text) (names : IsVariable text name) {number : Int64}
    (denotes : Operand.Denotes shell.store text number.toInt) (isPostfix : Bool) :
    engine.evaluate (.unary operator (.word leaf) isPostfix) shell =
      .ok (if isPostfix then number else Int64.ofInt (number.toInt + step))
        { shell with
          store := shell.store.set name
            (Decimal.text (Int64.ofInt (number.toInt + step)).toInt) } := by
  have read : Store.number shell.store name = .ok number := by
    rw [denotes.number_eq names, Int64.ofInt_toInt]
  have resolved : Operand.resolve shell.store text = .ok (.named name number) := by
    rw [Operand.resolve_of_name? (Operand.name?_of_isVariable names), read]
    rfl
  rw [evaluate_counting counts literal, update_of_named resolved,
    UnaryOperator.apply_of_step? counts]

/-- A number that is bound is what every spelling of the variable stands for. -/
theorem denotes_set (environment : Environment) (names : IsVariable text name) (number : Int64) :
    Operand.Denotes (environment.set name (Decimal.text number.toInt)) text number.toInt := by
  refine .bound names ?_ (isLiteral_text number)
  exact (environment.get?_set _ _ _).trans (if_pos rfl)

theorem evaluate_of_denotes (literal : Word.text? leaf = some text) {number : Int64}
    (denotes : Operand.Denotes shell.store text number.toInt) :
    engine.evaluate (.word leaf) shell = .ok number shell := by
  obtain ⟨operand, resolved, value⟩ := denotes.resolve
  rw [evaluate_text literal resolved, value, Int64.ofInt_toInt]

/-- A variable that stands for no number is not counted. -/
theorem evaluate_counting_of_not_denotes (counts : operator.step? = some step)
    (literal : Word.text? leaf = some text) (names : IsVariable text name)
    (other : ∀ number, ¬ Operand.Denotes shell.store text number) (isPostfix : Bool) :
    ∃ value, shell.store.get? name = some value ∧
      engine.evaluate (.unary operator (.word leaf) isPostfix) shell =
        .error (.invalidNumber (String.ofList (Text.trim value.toList))) shell := by
  obtain ⟨value, bound, unread⟩ := Operand.number_of_not_denotes names other
  have resolved : Operand.resolve shell.store text =
      .error (.invalidNumber (String.ofList (Text.trim value.toList))) := by
    rw [Operand.resolve_of_name? (Operand.name?_of_isVariable names), unread]
    rfl
  exact ⟨value, bound, by rw [evaluate_counting counts literal, update_of_error resolved]⟩

/-- Only a word can be counted. -/
theorem evaluate_counting_of_compound (counts : operator.step? = some step) {operand : Arith}
    (compound : ∀ leaf, operand ≠ .word leaf) (isPostfix : Bool) :
    engine.evaluate (.unary operator operand isPostfix) shell =
      .error (.notAVariable operand.render) shell := by
  rw [evaluate, if_pos (UnaryOperator.assigns_of_step? counts)]
  cases operand with
  | word leaf => exact absurd rfl (compound leaf)
  | paren | unary | binary =>
      rw [updateOperand]
      · rfl
      · nofun

/-! ## There and back -/

/-- A step the other way gives the first number back, whichever values the two steps give. -/
theorem evaluate_step_back {inverse : UnaryOperator} (back : inverse.step? = some (-step))
    (literal : Word.text? leaf = some text) (names : IsVariable text name) {number : Int64}
    (denotes : Operand.Denotes shell.store text (Int64.ofInt (number.toInt + step)).toInt)
    {leaf' : Word} {text' : String} (literal' : Word.text? leaf' = some text')
    (names' : IsVariable text' name) (isPostfix : Bool) :
    ∃ value final, engine.evaluate (.unary inverse (.word leaf) isPostfix) shell =
        .ok value final ∧
      engine.evaluate (.word leaf') final = .ok number final := by
  refine ⟨_, _, evaluate_counting_of_denotes back literal names denotes isPostfix, ?_⟩
  rw [UnaryOperator.ofInt_step_back]
  exact evaluate_of_denotes literal' (denotes_set shell.store names' number)

/-- Counting a variable that is unset, blank or a numeral succeeds and gives the next number, or
the old one if the operator stands behind it.  It binds the next number in the top layer and
changes nothing else; the variable then stands for it, and counting back gives the old number.
Everything else fails and changes nothing: a variable with another value, a numeral, any other
text, and what is not a word. -/
theorem counting_exact (engine : Engine Environment) (shell : Shell Environment)
    (operator : UnaryOperator) (step : Int) (counts : operator.step? = some step)
    (isPostfix : Bool) :
    (∀ (leaf : Word) (text name : String) (number : Int64), Word.text? leaf = some text →
      IsVariable text name → Operand.Denotes shell.store text number.toInt →
      let new := Int64.ofInt (number.toInt + step)
      ∃ after, engine.evaluate (.unary operator (.word leaf) isPostfix) shell =
          .ok (if isPostfix then number else new) { shell with store := after } ∧
        shell.store.Binds name (toString new.toInt) after ∧
        ∀ (leaf' : Word) (text' : String), Word.text? leaf' = some text' →
          IsVariable text' name →
          engine.evaluate (.word leaf') { shell with store := after } =
            .ok new { shell with store := after } ∧
          ∀ (inverse : UnaryOperator) (isPostfix' : Bool), inverse.step? = some (-step) →
            ∃ value final, engine.evaluate (.unary inverse (.word leaf') isPostfix')
                { shell with store := after } = .ok value final ∧
              engine.evaluate (.word leaf) final = .ok number final) ∧
    (∀ (leaf : Word) (text name : String), Word.text? leaf = some text → IsVariable text name →
      (∀ number, ¬ Operand.Denotes shell.store text number) →
      ∃ value, shell.store.get? name = some value ∧
        engine.evaluate (.unary operator (.word leaf) isPostfix) shell =
          .error (.invalidNumber (String.ofList (Text.trim value.toList))) shell) ∧
    (∀ (leaf : Word) (text : String) (number : Int), Word.text? leaf = some text →
      IsLiteral text number →
      engine.evaluate (.unary operator (.word leaf) isPostfix) shell =
        .error (.notAVariable text) shell) ∧
    (∀ (leaf : Word) (text : String), Word.text? leaf = some text →
      (∀ name, ¬ IsVariable text name) → (∀ number, ¬ IsLiteral text number) →
      engine.evaluate (.unary operator (.word leaf) isPostfix) shell =
        .error (.invalidNumber (String.ofList (Text.trim text.toList))) shell) ∧
    ∀ operand : Arith, (∀ leaf, operand ≠ .word leaf) →
      engine.evaluate (.unary operator operand isPostfix) shell =
        .error (.notAVariable operand.render) shell := by
  refine ⟨?_, ?_, ?_, ?_, fun operand compound =>
    evaluate_counting_of_compound counts compound isPostfix⟩
  · intro leaf text name number literal names denotes new
    refine ⟨_, evaluate_counting_of_denotes counts literal names denotes isPostfix, ?_, ?_⟩
    · rw [Decimal.text_eq_toString]
      exact shell.store.set_binds name _
    · intro leaf' text' literal' names'
      have bound := denotes_set shell.store names' new
      refine ⟨evaluate_of_denotes literal' bound, fun inverse isPostfix' back => ?_⟩
      exact evaluate_step_back back literal' names' bound literal names isPostfix'
  · intro leaf text name literal names other
    exact evaluate_counting_of_not_denotes counts literal names other isPostfix
  · intro leaf text number literal numeral
    rw [evaluate_counting counts literal,
      update_of_literal (Operand.resolve_of_literal numeral)]
  · intro leaf text literal unnamed unread
    rw [evaluate_counting counts literal,
      update_of_error (Operand.resolve_of_neither unnamed unread shell.store)]

/-- A shell with the largest number between blanks in its lower layer, and a value in the upper
one that is no number. -/
def brink : Shell Environment where
  store := ⟨.ofPairs [("y", "a1")], [.ofPairs [("x", " +9223372036854775807\t")]]⟩

/-- The name `x`, in pieces and with blanks around it. -/
def spacedName : Word :=
  [.literal " ", .doubleQuoted [.singleQuoted "x", .literal " "]]

theorem spacedName_names : IsVariable " x " "x" :=
  ⟨isName_of_isIdentifier (by decide), [' '], [' '], by decide, List.all_eq_true.mp (by decide),
    List.all_eq_true.mp (by decide)⟩

theorem brink_denotes : Operand.Denotes brink.store " x " Int64.maxValue.toInt := by
  have blanks {text : List Char} : text.all Text.isBlank = true → _ := List.all_eq_true.mp
  have digits {text : List Char} : text.all Char.isDigit = true → _ := List.all_eq_true.mp
  have bound : Store.get? brink.store "x" = some " +9223372036854775807\t" := by decide
  refine .bound spacedName_names bound ?_
  exact ⟨⟨"+9223372036854775807".toList, ⟨[' '], ['\t'], by decide, blanks (by decide),
    blanks (by decide)⟩, .plus (by decide) (digits (by decide))⟩, by decide, by decide⟩

theorem brink_counting :
    UnaryOperator.step? .inc = some 1 ∧ Word.text? spacedName = some " x " ∧
      IsVariable " x " "x" ∧ Operand.Denotes brink.store " x " Int64.maxValue.toInt ∧
      (∃ after,
        evaluate ⟨{}, .builtin⟩ (.unary .inc (.word spacedName) false) brink =
          .ok Int64.minValue { brink with store := after } ∧
        brink.store.Binds "x" "-9223372036854775808" after ∧
        ∃ value final, evaluate ⟨{}, .builtin⟩ (.unary .dec (.word spacedName) true)
            { brink with store := after } = .ok value final ∧
          evaluate ⟨{}, .builtin⟩ (.word spacedName) final = .ok Int64.maxValue final) ∧
      evaluate ⟨{}, .builtin⟩ (.unary .inc (.paren (.ofText "x")) false) brink =
        .error (.notAVariable "(x)") brink := by
  have literal : Word.text? spacedName = some " x " := by decide
  obtain ⟨succeeds, -, -, -, fails⟩ :=
    counting_exact ⟨{}, .builtin⟩ brink .inc 1 rfl false
  obtain ⟨after, counted, binds, again⟩ :=
    succeeds spacedName " x " "x" Int64.maxValue literal spacedName_names brink_denotes
  have back := (again spacedName " x " literal spacedName_names).2 .dec true rfl
  have rendered := fails (.paren (.ofText "x")) nofun
  exact ⟨rfl, literal, spacedName_names, brink_denotes, ⟨after, counted, binds, back⟩, rendered⟩

end Engine

end ShellTree
