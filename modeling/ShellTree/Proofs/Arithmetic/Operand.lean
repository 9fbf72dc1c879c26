import Mathlib.Algebra.Group.Int.Defs
import ShellTree.Arithmetic.Operand

/-!
# What operands stand for

An operand is a decimal numeral or the name of a variable, with any blanks around it.
A variable stands for the numeral that it holds, again with any blanks around it, or
for zero.  Here this is said of the texts themselves, without reading them, and reading
is shown to follow it.
-/

namespace ShellTree

/-! ## Blanks around a text -/

namespace Text

/-- The text is the core with nothing but blanks before and after it. -/
def Padded (core text : List Char) : Prop :=
  ∃ before after, text = before ++ core ++ after ∧
    (∀ char ∈ before, isBlank char = true) ∧ ∀ char ∈ after, isBlank char = true

theorem Padded.refl (core : List Char) : Padded core core :=
  ⟨[], [], by simp, by simp, by simp⟩

theorem dropWhile_isBlank_of_solid {core : List Char}
    (solid : ∀ char ∈ core, isBlank char = false) (rest : List Char) (nonempty : core ≠ []) :
    (core ++ rest).dropWhile isBlank = core ++ rest := by
  obtain ⟨first, others, rfl⟩ := List.exists_cons_of_ne_nil nonempty
  have start := solid first List.mem_cons_self
  rw [List.cons_append, List.dropWhile_cons_of_neg (by simp [start])]

/-- What has no blanks itself is what trimming leaves of it when it is padded. -/
theorem Padded.trim_eq {core text : List Char} (padded : Padded core text)
    (solid : ∀ char ∈ core, isBlank char = false) : trim text = core := by
  obtain ⟨before, after, rfl, blank, blank'⟩ := padded
  unfold trim
  rw [List.append_assoc, List.dropWhile_append_of_pos blank]
  by_cases empty : core = []
  · subst empty
    have gone : (after ++ []).dropWhile isBlank = [] := List.dropWhile_append_of_pos blank'
    rw [List.append_nil] at gone
    rw [List.nil_append, gone]
    rfl
  · have reversed : ∀ char ∈ core.reverse, isBlank char = false := fun char member =>
      solid char (List.mem_reverse.mp member)
    have blanks : ∀ char ∈ after.reverse, isBlank char = true := fun char member =>
      blank' char (List.mem_reverse.mp member)
    have kept := dropWhile_isBlank_of_solid reversed [] (by simp [empty])
    rw [List.append_nil] at kept
    rw [dropWhile_isBlank_of_solid solid after empty, List.reverse_append,
      List.dropWhile_append_of_pos blanks, kept, List.reverse_reverse]

/-- The visible characters of ASCII are no blanks. -/
theorem isBlank_of_visible {char : Char} (low : 0x21 ≤ char.toNat) (high : char.toNat ≤ 0x7E) :
    isBlank char = false := by
  simp only [isBlank, Bool.or_eq_false_iff, Bool.and_eq_false_iff, decide_eq_false_iff_not,
    beq_eq_false_iff_ne]
  omega

end Text

/-! ## Names -/

def IsNameStart (char : Char) : Prop :=
  ('A' ≤ char ∧ char ≤ 'Z') ∨ ('a' ≤ char ∧ char ≤ 'z') ∨ char = '_'

/-- A letter or an underscore, and then letters, underscores and digits. -/
def IsName (name : String) : Prop :=
  ∃ first rest, name.toList = first :: rest ∧ IsNameStart first ∧
    ∀ char ∈ rest, IsNameStart char ∨ ('0' ≤ char ∧ char ≤ '9')

theorem isNameStart_of_isAlpha {char : Char} (alpha : char.isAlpha = true) :
    IsNameStart char := by
  rcases (Bool.or_eq_true _ _).mp alpha with upper | lower
  · exact .inl (of_decide_eq_true upper)
  · obtain ⟨low, high⟩ := (Bool.and_eq_true _ _).mp lower
    exact .inr (.inl ⟨of_decide_eq_true low, of_decide_eq_true high⟩)

/-- An identifier is made of a letter or underscore and then of these and digits. -/
theorem isName_of_isIdentifier {name : String} (identifier : isIdentifier name.toList = true) :
    IsName name := by
  unfold isIdentifier at identifier
  split at identifier
  · cases identifier
  · next first rest chars =>
      obtain ⟨start, others⟩ := (Bool.and_eq_true _ _).mp identifier
      refine ⟨first, rest, chars, ?_, ?_⟩
      · rcases (Bool.or_eq_true _ _).mp start with alpha | underscore
        · exact isNameStart_of_isAlpha alpha
        · exact .inr (.inr (eq_of_beq underscore))
      · intro char member
        have taken := List.all_eq_true.mp others char member
        rcases (Bool.or_eq_true _ _).mp taken with alphanum | underscore
        · rcases (Bool.or_eq_true _ _).mp alphanum with alpha | digit
          · exact .inl (isNameStart_of_isAlpha alpha)
          · exact .inr (by simpa [Char.isDigit, Char.le_def] using digit)
        · exact .inl (.inr (.inr (eq_of_beq underscore)))

theorem IsNameStart.code {char : Char} (start : IsNameStart char) :
    0x41 ≤ char.toNat ∧ char.toNat ≤ 0x7A := by
  rcases start with ⟨low, high⟩ | ⟨low, high⟩ | rfl
  · exact ⟨low, Nat.le_trans high (by decide)⟩
  · exact ⟨Nat.le_trans (by decide) low, high⟩
  · decide

theorem isAlpha_of_isNameStart {char : Char} (start : IsNameStart char) :
    (char.isAlpha || char == '_') = true := by
  rcases start with upper | ⟨low, high⟩ | rfl
  · have isUpper : char.isUpper = true := decide_eq_true upper
    exact (Bool.or_eq_true _ _).mpr (.inl ((Bool.or_eq_true _ _).mpr (.inl isUpper)))
  · have isLower : char.isLower = true :=
      (Bool.and_eq_true _ _).mpr ⟨decide_eq_true low, decide_eq_true high⟩
    exact (Bool.or_eq_true _ _).mpr (.inl ((Bool.or_eq_true _ _).mpr (.inr isLower)))
  · rfl

theorem isIdentifier_of_isName {name : String} (named : IsName name) :
    isIdentifier name.toList = true := by
  obtain ⟨first, rest, chars, start, others⟩ := named
  rw [chars, isIdentifier, isAlpha_of_isNameStart start, Bool.true_and, List.all_eq_true]
  intro char member
  apply (Bool.or_eq_true _ _).mpr
  rcases others char member with start | ⟨low, high⟩
  · rcases (Bool.or_eq_true _ _).mp (isAlpha_of_isNameStart start) with alpha | underscore
    · exact .inl ((Bool.or_eq_true _ _).mpr (.inl alpha))
    · exact .inr underscore
  · have digit : char.isDigit = true :=
      (Bool.and_eq_true _ _).mpr ⟨decide_eq_true low, decide_eq_true high⟩
    exact .inl ((Bool.or_eq_true _ _).mpr (.inr digit))

theorem isDigit_code {char : Char} (digit : char.isDigit = true) :
    0x30 ≤ char.toNat ∧ char.toNat ≤ 0x39 := by
  obtain ⟨low, high⟩ := (Bool.and_eq_true _ _).mp digit
  exact ⟨of_decide_eq_true low, of_decide_eq_true high⟩

theorem IsName.solid {name : String} (named : IsName name) :
    ∀ char ∈ name.toList, Text.isBlank char = false := by
  obtain ⟨first, rest, chars, start, others⟩ := named
  rw [chars]
  intro char member
  have code : 0x30 ≤ char.toNat ∧ char.toNat ≤ 0x7A := by
    rcases List.mem_cons.mp member with rfl | later
    · have code := start.code
      omega
    · rcases others char later with start | ⟨low, high⟩
      · have code := start.code
        omega
      · exact ⟨low, Nat.le_trans high (by decide)⟩
  exact Text.isBlank_of_visible (by omega) (by omega)

/-! ## Numerals -/

/-- Digits after at most one sign, and the integer that they stand for. -/
inductive Decimal.Spells : List Char → Int → Prop where
  | unsigned {digits : List Char} (nonempty : digits ≠ [])
      (decimal : ∀ digit ∈ digits, digit.isDigit = true) :
      Spells digits (Nat.ofDigitChars 10 digits 0)
  | plus {digits : List Char} (nonempty : digits ≠ [])
      (decimal : ∀ digit ∈ digits, digit.isDigit = true) :
      Spells ('+' :: digits) (Nat.ofDigitChars 10 digits 0)
  | minus {digits : List Char} (nonempty : digits ≠ [])
      (decimal : ∀ digit ∈ digits, digit.isDigit = true) :
      Spells ('-' :: digits) (-(Nat.ofDigitChars 10 digits 0 : Int))

namespace Decimal

theorem toNat?_of_digits {digits : List Char} (nonempty : digits ≠ [])
    (decimal : ∀ digit ∈ digits, digit.isDigit = true) :
    toNat? digits = some (Nat.ofDigitChars 10 digits 0) := by
  have all : digits.all Char.isDigit = true := List.all_eq_true.mpr decimal
  have filled : digits.isEmpty = false := by simp [nonempty]
  simp only [toNat?, filled, all, Bool.not_true, Bool.or_false, Bool.false_eq_true, if_false]

namespace Spells

variable {numeral : List Char} {number : Int}

theorem solid (spelled : Spells numeral number) :
    ∀ char ∈ numeral, Text.isBlank char = false := by
  have digits {digits : List Char} (decimal : ∀ digit ∈ digits, digit.isDigit = true) :
      ∀ char ∈ digits, Text.isBlank char = false := by
    intro char member
    have code := isDigit_code (decimal char member)
    exact Text.isBlank_of_visible (by omega) (by omega)
  cases spelled with
  | unsigned _ decimal => exact digits decimal
  | plus _ decimal => exact List.forall_mem_cons.mpr ⟨rfl, digits decimal⟩
  | minus _ decimal => exact List.forall_mem_cons.mpr ⟨rfl, digits decimal⟩

theorem toInt? (spelled : Spells numeral number) : Decimal.toInt? numeral = some number := by
  cases spelled with
  | @unsigned _ nonempty decimal =>
      obtain ⟨first, rest, rfl⟩ := List.exists_cons_of_ne_nil nonempty
      have digit := decimal first List.mem_cons_self
      unfold Decimal.toInt?
      split
      · next same =>
          cases same
          cases digit
      · next same =>
          cases same
          cases digit
      · rw [toNat?_of_digits nonempty decimal]
        rfl
  | plus nonempty decimal =>
      rw [Decimal.toInt?, toNat?_of_digits nonempty decimal]
      rfl
  | minus nonempty decimal =>
      rw [Decimal.toInt?, toNat?_of_digits nonempty decimal]
      rfl

theorem isEmpty_eq_false (spelled : Spells numeral number) : numeral.isEmpty = false := by
  cases spelled with
  | unsigned nonempty _ => exact List.isEmpty_eq_false_iff.mpr nonempty
  | plus _ _ => rfl
  | minus _ _ => rfl

theorem head_code (spelled : Spells numeral number) {first : Char} {rest : List Char}
    (chars : numeral = first :: rest) : first.toNat ≤ 0x39 := by
  cases spelled with
  | unsigned _ decimal =>
      subst chars
      exact (isDigit_code (decimal first List.mem_cons_self)).2
  | plus _ _ =>
      cases chars
      decide
  | minus _ _ =>
      cases chars
      decide

/-- No numeral is a name. -/
theorem isIdentifier_eq_false (spelled : Spells numeral number) :
    isIdentifier numeral = false := by
  apply Bool.eq_false_iff.mpr
  intro identifier
  have named : IsName (String.ofList numeral) :=
    isName_of_isIdentifier (by rw [String.toList_ofList]; exact identifier)
  obtain ⟨first, rest, chars, start, -⟩ := named
  rw [String.toList_ofList] at chars
  have low := start.code.1
  have high := spelled.head_code chars
  omega

end Spells

end Decimal

/-- The text is a decimal numeral with any blanks around it, and its number fits into 64 bits. -/
structure IsLiteral (text : String) (number : Int) : Prop where
  spelled : ∃ numeral, Text.Padded numeral text.toList ∧ Decimal.Spells numeral number
  low : -2 ^ 63 ≤ number
  high : number < 2 ^ 63

theorem IsLiteral.readNumber {text : String} {number : Int} (literal : IsLiteral text number) :
    readNumber text = .ok (Int64.ofInt number) := by
  obtain ⟨numeral, padded, spelled⟩ := literal.spelled
  have range : Int64.minValue.toInt ≤ number ∧ number ≤ Int64.maxValue.toInt :=
    ⟨literal.low, Int.le_of_lt_add_one literal.high⟩
  have read : Decimal.toInt64? numeral = some (Int64.ofInt number) := by
    simp only [Decimal.toInt64?, spelled.toInt?, Option.bind_eq_bind, Option.bind_some,
      if_pos range]
  rw [ShellTree.readNumber, padded.trim_eq spelled.solid, read]

/-- Without the blanks around it, a literal is still one. -/
theorem IsLiteral.exists_trim {text : String} {number : Int} (literal : IsLiteral text number) :
    ∃ numeral, Text.trim text.toList = numeral ∧ Decimal.Spells numeral number ∧
      IsLiteral (String.ofList numeral) number := by
  obtain ⟨numeral, padded, spelled⟩ := literal.spelled
  refine ⟨numeral, padded.trim_eq spelled.solid, spelled, ⟨numeral, ?_, spelled⟩, literal.low,
    literal.high⟩
  rw [String.toList_ofList]
  exact .refl numeral

/-! ## Operands -/

structure IsVariable (text name : String) : Prop where
  named : IsName name
  padded : Text.Padded name.toList text.toList

section Variables

variable {ε ε' : Type} [Store ε] [Store ε']

def Operand.name? (text : String) : Option String :=
  if isIdentifier (Text.trim text.toList) then some (String.ofList (Text.trim text.toList))
  else none

def Store.number (store : ε) (name : String) : Except Failure Int64 :=
  let raw := Text.trim (Store.get store name).toList
  if raw.isEmpty then .ok 0 else readNumber (String.ofList raw)

theorem Store.get_congr_at {store : ε} {store' : ε'} {name : String}
    (same : get? store name = get? store' name) : get store name = get store' name := by
  rw [get, get, same]

theorem Store.number_congr {store : ε} {store' : ε'} {name : String}
    (same : get? store name = get? store' name) : number store name = number store' name := by
  rw [number, number, get_congr_at same]

namespace Operand

variable {text name : String}

theorem resolve_of_name? (named : name? text = some name) (store : ε) :
    resolve store text = (Store.number store name).map (.named name) := by
  unfold name? at named
  split at named
  · next identifier =>
      obtain rfl := Option.some.inj named
      simp only [resolve, identifier, if_true, Store.number]
      split <;> rfl
  · cases named

theorem resolve_of_unnamed (unnamed : name? text = none) (store : ε) :
    resolve store text =
      (readNumber (String.ofList (Text.trim text.toList))).map .literal := by
  unfold name? at unnamed
  split at unnamed
  · cases unnamed
  · next other => simp only [resolve, if_neg other]

/-- An operand depends on no variable but the one that it names. -/
theorem resolve_congr_name? {store : ε} {store' : ε'}
    (same : ∀ name, name? text = some name → Store.get? store name = Store.get? store' name) :
    resolve store text = resolve store' text := by
  cases found : name? text with
  | none => rw [resolve_of_unnamed found, resolve_of_unnamed found]
  | some name =>
      rw [resolve_of_name? found, resolve_of_name? found, Store.number_congr (same name found)]

theorem name?_of_resolve {store : ε} {value : Int64}
    (resolved : resolve store text = .ok (.named name value)) : name? text = some name := by
  cases found : name? text with
  | none =>
      rw [resolve_of_unnamed found] at resolved
      cases read : readNumber (String.ofList (Text.trim text.toList)) <;>
        rw [read] at resolved <;> cases resolved
  | some other =>
      rw [resolve_of_name? found] at resolved
      cases read : Store.number store other <;> rw [read] at resolved <;> cases resolved
      rfl

theorem name?_of_isVariable (names : IsVariable text name) : name? text = some name := by
  have trimmed := names.padded.trim_eq names.named.solid
  simp only [name?, trimmed, isIdentifier_of_isName names.named, if_true, String.ofList_toList]

end Operand

end Variables

/-- What the text of an operand stands for, as an unbounded integer. -/
inductive Operand.Denotes {ε : Type} [Store ε] (store : ε) (text : String) : Int → Prop where
  | literal {number : Int} (literal : IsLiteral text number) : Denotes store text number
  | unset {name : String} (names : IsVariable text name) (unset : Store.get? store name = none) :
      Denotes store text 0
  | blank {name value : String} (names : IsVariable text name)
      (bound : Store.get? store name = some value)
      (blank : ∀ char ∈ value.toList, Text.isBlank char = true) : Denotes store text 0
  | bound {name value : String} {number : Int} (names : IsVariable text name)
      (bound : Store.get? store name = some value) (literal : IsLiteral value number) :
      Denotes store text number

namespace Operand

variable {ε : Type} [Store ε] {store : ε} {text name : String} {number : Int}

theorem resolve_of_literal (literal : IsLiteral text number) :
    resolve store text = .ok (.literal (Int64.ofInt number)) := by
  obtain ⟨numeral, trimmed, spelled, bare⟩ := literal.exists_trim
  simp only [resolve, trimmed, spelled.isIdentifier_eq_false, bare.readNumber]
  rfl

/-- Reading an operand gives the number that it stands for. -/
theorem Denotes.resolve (denotes : Denotes store text number) :
    ∃ operand, Operand.resolve store text = .ok operand ∧ operand.value = Int64.ofInt number := by
  cases denotes with
  | literal literal => exact ⟨_, resolve_of_literal literal, rfl⟩
  | @unset name names unset =>
      refine ⟨.named name 0, ?_, rfl⟩
      rw [resolve_of_name? (name?_of_isVariable names), Store.number, Store.get, unset]
      rfl
  | @blank name value names bound blank =>
      have padded : Text.Padded [] value.toList := ⟨value.toList, [], by simp, blank, by simp⟩
      refine ⟨.named name 0, ?_, rfl⟩
      rw [resolve_of_name? (name?_of_isVariable names), Store.number, Store.get, bound,
        Option.getD_some, padded.trim_eq (by simp)]
      rfl
  | @bound name value number names bound literal =>
      obtain ⟨numeral, trimmed, spelled, bare⟩ := literal.exists_trim
      have filled : ¬ numeral.isEmpty = true := by simp [spelled.isEmpty_eq_false]
      refine ⟨.named name (Int64.ofInt number), ?_, rfl⟩
      rw [resolve_of_name? (name?_of_isVariable names), Store.number, Store.get, bound,
        Option.getD_some, trimmed]
      simp only [if_neg filled, bare.readNumber]
      rfl

end Operand

end ShellTree
