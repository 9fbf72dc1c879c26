import Mathlib.Algebra.Group.Int.Defs
import Mathlib.Data.List.TakeWhile
import ShellTree.Proofs.Arithmetic.Operand

/-!
# Numerals read and written

Reading a text as a number succeeds for no other texts than the numerals that fit into
64 bits, with any blanks around them.  The numeral that is written for a number is one
of these.  So an operand is read as the number that it stands for, and fails where it
stands for none.
-/

namespace ShellTree

/-! ## What is read -/

/-- Nothing but blanks is trimmed. -/
theorem Text.padded_trim (chars : List Char) : Padded (trim chars) chars := by
  refine ⟨chars.takeWhile isBlank, ((chars.dropWhile isBlank).reverse.takeWhile isBlank).reverse,
    ?_, fun _ member => List.mem_takeWhile_imp member, fun _ member => ?_⟩
  · rw [trim, List.append_assoc, ← List.reverse_append, List.takeWhile_append_dropWhile,
      List.reverse_reverse, List.takeWhile_append_dropWhile]
  · exact List.mem_takeWhile_imp (List.mem_reverse.mp member)

theorem Text.Padded.trans {core middle text : List Char} (inner : Padded core middle)
    (outer : Padded middle text) : Padded core text := by
  obtain ⟨before, after, rfl, blank, blank'⟩ := inner
  obtain ⟨first, last, rfl, blankFirst, blankLast⟩ := outer
  refine ⟨first ++ before, after ++ last, by simp only [List.append_assoc], ?_, ?_⟩
  · exact List.forall_mem_append.mpr ⟨blankFirst, blank⟩
  · exact List.forall_mem_append.mpr ⟨blank', blankLast⟩

namespace Decimal

theorem digits_of_toNat? {digits : List Char} {number : Nat} (read : toNat? digits = some number) :
    digits ≠ [] ∧ (∀ digit ∈ digits, digit.isDigit = true) ∧
      number = Nat.ofDigitChars 10 digits 0 := by
  unfold toNat? at read
  split at read
  · cases read
  · next proper =>
      obtain ⟨filled, decimal⟩ := Bool.or_eq_false_iff.mp (Bool.eq_false_iff.mpr proper)
      refine ⟨List.isEmpty_eq_false_iff.mp filled, ?_, (Option.some.inj read).symm⟩
      exact List.all_eq_true.mp (by simpa using decimal)

/-- Only what spells an integer is read as one. -/
theorem spells_of_toInt? {numeral : List Char} {number : Int}
    (read : toInt? numeral = some number) : Spells numeral number := by
  unfold toInt? at read
  split at read
  all_goals
    obtain ⟨size, lifted, rfl⟩ := Option.map_eq_some_iff.mp read
    obtain ⟨count, digits, same⟩ := Option.bind_eq_some_iff.mp lifted
    obtain ⟨filled, decimal, rfl⟩ := digits_of_toNat? digits
    obtain rfl := Option.some.inj same
  · exact .minus filled decimal
  · exact .plus filled decimal
  · exact .unsigned filled decimal

end Decimal

/-- A text is read as a number of 64 bits exactly if it is a literal for it. -/
theorem readNumber_eq_ok_iff {text : String} {number : Int64} :
    readNumber text = .ok number ↔ IsLiteral text number.toInt := by
  constructor
  · intro read
    unfold readNumber Decimal.toInt64? at read
    split at read
    · next found =>
        cases read
        obtain ⟨exact, numeral, fits⟩ := Option.bind_eq_some_iff.mp found
        split at fits
        · next range =>
            have high : exact < 2 ^ 63 := Int.lt_add_one_of_le range.2
            have same : number.toInt = exact := by
              rw [← Option.some.inj fits]
              exact Int64.toInt_ofInt_of_le range.1 high
            have spelled := Decimal.spells_of_toInt? numeral
            exact same ▸ ⟨⟨_, Text.padded_trim _, spelled⟩, range.1, high⟩
        · cases fits
    · cases read
  · intro literal
    rw [literal.readNumber, Int64.ofInt_toInt]

/-- A text that is no literal is what the failure names. -/
theorem readNumber_eq_error {text : String} (other : ∀ number, ¬ IsLiteral text number) :
    readNumber text = .error (.invalidNumber text) := by
  cases read : readNumber text with
  | ok number => exact absurd (readNumber_eq_ok_iff.mp read) (other _)
  | error failure =>
      unfold readNumber at read
      split at read
      · cases read
      · exact read.symm

/-! ## What is written -/

theorem Decimal.text_eq_toString (number : Int) : Decimal.text number = toString number := by
  cases number with
  | ofNat size => rfl
  | negSucc size =>
      have negative : Int.negSucc size < 0 := Int.negSucc_lt_zero size
      simp only [Decimal.text, Decimal.ofInt, if_pos negative, String.ofList_cons]
      rfl

theorem Decimal.spells_ofInt (number : Int) : Spells (ofInt number) number := by
  have decimal : ∀ digit ∈ Nat.toDigits 10 number.natAbs, digit.isDigit = true :=
    fun _ member => Nat.isDigit_of_mem_toDigits (by decide) (by decide) member
  have value : Nat.ofDigitChars 10 (Nat.toDigits 10 number.natAbs) 0 = number.natAbs :=
    Nat.ofDigitChars_toDigits (by decide) (by decide)
  unfold ofInt ofNat
  split
  · next negative =>
      have sign : -(number.natAbs : Int) = number := by omega
      have spelled := Spells.minus Nat.toDigits_ne_nil decimal
      rwa [value, sign] at spelled
  · next nonnegative =>
      have sign : (number.natAbs : Int) = number := by omega
      have spelled := Spells.unsigned Nat.toDigits_ne_nil decimal
      rwa [value, sign] at spelled

/-- The text of a number of 64 bits is a literal for it. -/
theorem isLiteral_text (number : Int64) : IsLiteral (Decimal.text number.toInt) number.toInt := by
  refine ⟨⟨Decimal.ofInt number.toInt, ?_, Decimal.spells_ofInt _⟩, number.le_toInt,
    number.toInt_lt⟩
  rw [Decimal.text, String.toList_ofList]
  exact .refl _

/-! ## What operands are read as -/

namespace Operand

variable {ε : Type} [Store ε] {text name : String} {store : ε}

/-- A variable that stands for a number is read as it. -/
theorem Denotes.number_eq {number : Int} (denotes : Denotes store text number)
    (names : IsVariable text name) : Store.number store name = .ok (Int64.ofInt number) := by
  obtain ⟨operand, resolved, value⟩ := denotes.resolve
  rw [resolve_of_name? (name?_of_isVariable names)] at resolved
  cases read : Store.number store name with
  | ok found =>
      rw [read] at resolved
      cases resolved
      rw [← value]
      rfl
  | error failure =>
      rw [read] at resolved
      cases resolved

/-- A variable that stands for no number holds a value that is not read; the failure names it
without the blanks around it. -/
theorem number_of_not_denotes (names : IsVariable text name)
    (other : ∀ number, ¬ Denotes store text number) :
    ∃ value, Store.get? store name = some value ∧
      Store.number store name =
        .error (.invalidNumber (String.ofList (Text.trim value.toList))) := by
  cases bound : Store.get? store name with
  | none => exact absurd (.unset names bound) (other 0)
  | some value =>
      refine ⟨value, rfl, ?_⟩
      have padded := Text.padded_trim value.toList
      have filled : ¬ (Text.trim value.toList).isEmpty = true := by
        intro empty
        obtain ⟨before, after, chars, blank, blank'⟩ := padded
        rw [List.isEmpty_iff.mp empty, List.append_nil] at chars
        refine other 0 (.blank names bound ?_)
        rw [chars]
        exact List.forall_mem_append.mpr ⟨blank, blank'⟩
      have unread : ∀ number,
          ¬ IsLiteral (String.ofList (Text.trim value.toList)) number := by
        rintro number ⟨⟨numeral, inner, spelled⟩, low, high⟩
        rw [String.toList_ofList] at inner
        exact other number
          (.bound names bound ⟨⟨numeral, inner.trans padded, spelled⟩, low, high⟩)
      rw [Store.number, Store.get, bound, Option.getD_some]
      simp only [if_neg filled, readNumber_eq_error unread]

/-- An operand that is neither a name nor a numeral is not read. -/
theorem resolve_of_neither (unnamed : ∀ name, ¬ IsVariable text name)
    (unread : ∀ number, ¬ IsLiteral text number) (store : ε) :
    resolve store text = .error (.invalidNumber (String.ofList (Text.trim text.toList))) := by
  have padded := Text.padded_trim text.toList
  have none : name? text = none := by
    unfold name?
    split
    · next identifier =>
        rw [← String.toList_ofList (l := Text.trim text.toList)] at identifier padded
        exact absurd ⟨isName_of_isIdentifier identifier, padded⟩ (unnamed _)
    · rfl
  have bare : ∀ number, ¬ IsLiteral (String.ofList (Text.trim text.toList)) number := by
    rintro number ⟨⟨numeral, inner, spelled⟩, low, high⟩
    rw [String.toList_ofList] at inner
    exact unread number ⟨⟨numeral, inner.trans padded, spelled⟩, low, high⟩
  rw [resolve_of_unnamed none, readNumber_eq_error bare]
  rfl

end Operand

end ShellTree
