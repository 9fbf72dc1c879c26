import ShellTree.Program.Builtin
import ShellTree.Proofs.Arithmetic.Numeral
import ShellTree.Proofs.Engine.Mention
import ShellTree.Tree.Build

/-!
# Values that are read again

Values leave an expression as texts.  A text is read as a number exactly if it is a decimal
numeral of 64 bits with any blanks around it, and what is written for a value is such a
numeral.  So a value survives the way through its text: a bound of a slice may be written
and read again, and the text of a value is an expression with this value, in every shell.
-/

namespace ShellTree

/-- Reading fails for all other texts, and the failure names the text as it is. -/
theorem readNumber_eq_error_iff {text : String} {failure : Failure} :
    readNumber text = .error failure ↔
      failure = .invalidNumber text ∧ ∀ number, ¬ IsLiteral text number := by
  constructor
  · intro unread
    have other : ∀ number, ¬ IsLiteral text number := by
      intro number literal
      rw [literal.readNumber] at unread
      cases unread
    rw [readNumber_eq_error other] at unread
    exact ⟨(Except.error.inj unread).symm, other⟩
  · rintro ⟨rfl, other⟩
    exact readNumber_eq_error other

theorem readNumber_text (number : Int64) : readNumber (Decimal.text number.toInt) = .ok number :=
  readNumber_eq_ok_iff.mpr (isLiteral_text number)

namespace Engine

variable {ε : Type} [Store ε] (engine : Engine ε)

/-! ## One value -/

/-- The text of a value is the text of an arithmetic part. -/
theorem expandPart_arithmetic_eq_ok {expression : Arith} {shell after : Shell ε} {text : String}
    (expanded : engine.expandPart (.arithmetic expression) shell = .ok text after) :
    ∃ number, engine.evaluate expression shell = .ok number after ∧
      Decimal.text number.toInt = text := by
  simp only [expandPart, bind, EStateM.bind] at expanded
  split at expanded
  · next number _ evaluated =>
      cases expanded
      exact ⟨number, evaluated, rfl⟩
  · cases expanded

/-- A numeral as a leaf stands for its number in every shell. -/
theorem evaluate_literal {text : String} {number : Int64} (literal : IsLiteral text number.toInt)
    (shell : Shell ε) : engine.evaluate (.ofText text) shell = .ok number shell := by
  have written : Word.text? (Word.ofText text) = some text := by
    simp [Word.ofText, Word.text?, Part.text?]
  rw [Arith.ofText, evaluate_text written (Operand.resolve_of_literal literal), Operand.value,
    Int64.ofInt_toInt]

theorem expandPart_literal (number : Int64) (shell : Shell ε) :
    engine.expandPart (.arithmetic (.ofText (Decimal.text number.toInt))) shell =
      .ok (Decimal.text number.toInt) shell := by
  simp only [expandPart, bind, EStateM.bind, engine.evaluate_literal (isLiteral_text number)]
  rfl

/-- Evaluate an expression, write its value as a text and read this as a number. -/
def reread (expression : Arith) : Action ε Int64 := do
  Action.ofExcept (readNumber (← engine.expandPart (.arithmetic expression)))

theorem reread_eq_evaluate (expression : Arith) :
    engine.reread expression = engine.evaluate expression := by
  simp only [reread, expandPart, bind_assoc, pure_bind, readNumber_text]
  exact bind_pure (engine.evaluate expression)

/-! ## Slices -/

def rereadSlice (name : String) (offset : Arith) (bound : Option Arith) : Action ε String := do
  let value := Store.get (← Action.store) name
  let start ← engine.reread offset
  let stop ← bound.mapM engine.reread
  Action.ofExcept (slice engine.options.sliceMode value start stop)

theorem expandOperation_slice (name : String) (offset : Arith) (bound : Option Arith) :
    engine.expandOperation name (.slice offset bound) = engine.rereadSlice name offset bound := by
  cases bound with
  | none =>
      simp only [expandOperation, rereadSlice, reread_eq_evaluate]
      rfl
  | some bound =>
      simp only [expandOperation, rereadSlice, reread_eq_evaluate, Option.mapM_some, bind_map_left]

/-- A text is read as a number exactly if, without the blanks around it, it is a decimal numeral
with at most one sign whose number fits into 64 bits; otherwise the failure names the text.  What
is written for a number is read as this number.  So writing and reading the bounds of a slice does
nothing, and the text of a value, as an expression, has this text again in every shell. -/
theorem numbers_read_back :
    (∀ (text : String) (number : Int64),
      readNumber text = .ok number ↔ IsLiteral text number.toInt) ∧
    (∀ (text : String) (failure : Failure), readNumber text = .error failure ↔
      failure = .invalidNumber text ∧ ∀ number, ¬ IsLiteral text number) ∧
    (∀ number : Int64, readNumber (toString number.toInt) = .ok number) ∧
    (∀ (name : String) (offset : Arith) (bound : Option Arith),
      engine.expandOperation name (.slice offset bound) =
        engine.rereadSlice name offset bound) ∧
    ∀ (expression : Arith) (shell after : Shell ε) (text : String),
      engine.expandPart (.arithmetic expression) shell = .ok text after →
      (∃ number, readNumber text = .ok number) ∧
        ∀ (engine' : Engine ε) (shell' : Shell ε),
          engine'.expandPart (.arithmetic (.ofText text)) shell' = .ok text shell' := by
  refine ⟨fun text number => readNumber_eq_ok_iff, fun text failure => readNumber_eq_error_iff,
    fun number => ?_, engine.expandOperation_slice, fun expression shell after text expanded => ?_⟩
  · rw [← Decimal.text_eq_toString, readNumber_text]
  · obtain ⟨number, -, rfl⟩ := engine.expandPart_arithmetic_eq_ok expanded
    exact ⟨⟨number, readNumber_text number⟩, fun engine' => engine'.expandPart_literal number⟩

/-- A sum that goes beyond the largest number and counts a variable on the way. -/
def beyond : Arith :=
  .binary .add (.ofText "9223372036854775807") (.unary .inc (.ofText "x") false)

theorem beyond_read_back :
    readNumber "\u3000-007\t" = .ok (-7) ∧
      (∀ number, ¬ IsLiteral "9223372036854775808" number) ∧
      expandPart ⟨{}, .builtin⟩ (.arithmetic beyond) { store := Environment.ofPairs [] } =
        .ok "-9223372036854775808" { store := .ofPairs [("x", "1")] } ∧
      readNumber "-9223372036854775808" = .ok Int64.minValue ∧
      ∀ shell : Shell Environment,
        expandPart ⟨{}, .builtin⟩ (.arithmetic (.ofText "-9223372036854775808")) shell =
          .ok "-9223372036854775808" shell := by
  obtain ⟨reads, fails, writes, -, again⟩ :=
    numbers_read_back (⟨{}, .builtin⟩ : Engine Environment)
  have blanks {text : List Char} : text.all Text.isBlank = true → _ := List.all_eq_true.mp
  have padded : Text.Padded ['-', '0', '0', '7'] "\u3000-007\t".toList :=
    ⟨['\u3000'], ['\t'], by decide, blanks (by decide), blanks (by decide)⟩
  have literal : IsLiteral "\u3000-007\t" (-7) :=
    ⟨⟨_, padded, .minus (by decide) (List.all_eq_true.mp (by decide))⟩, by decide, by decide⟩
  have unread : readNumber "9223372036854775808" = .error (.invalidNumber "9223372036854775808") :=
    rfl
  have expanded : expandPart ⟨{}, .builtin⟩ (.arithmetic beyond)
      { store := Environment.ofPairs [] } =
        .ok "-9223372036854775808" { store := .ofPairs [("x", "1")] } := rfl
  exact ⟨(reads _ _).mpr literal, ((fails _ _).mp unread).2, expanded, writes Int64.minValue,
    (again _ _ _ _ expanded).2 _⟩

end Engine

end ShellTree
