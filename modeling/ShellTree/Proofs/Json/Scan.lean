import Mathlib.Data.List.Chain
import Mathlib.Tactic.IntervalCases
import ShellTree.Json.Text
import ShellTree.Proofs.Json.Numeral

/-!
# Scanning the text of tokens

Compact text is scanned into the tokens that it was written from.  A word or a
numeral ends only with the character behind it, so the text of a token list can be
scanned when no two of its tokens would run into each other.  The tokens of a value
are like that.
-/

namespace ShellTree.Json

namespace Scanner

theorem run_cons {scanner next : Scanner} {char : Char} (read : scanner.step char = some next)
    (rest : List Char) : scanner.run (char :: rest) = next.run rest := by
  rw [run, read]

end Scanner

/-! ## Strings -/

def OpenString.plain (chars : List Char) : OpenString where
  chars := chars

/-- The hexadecimal digits of a control character. -/
theorem hexPadded_control {code : Nat} (control : code < 32) :
    ∃ high low, Digit.hexPadded 4 code = ['0', '0', high, low] ∧
      Digit.hexValue? high = some (code / 16) ∧ Digit.hexValue? low = some (code % 16) := by
  interval_cases code <;> exact ⟨_, _, rfl, rfl, rfl⟩

open Scanner

theorem step_digit {char : Char} {digit count : Nat} (value : Digit.hexValue? char = some digit)
    (more : count ≠ 3) (tokens : List Token) (read : OpenString) (before : Nat) :
    step ⟨tokens, .unit read count before⟩ char =
      some ⟨tokens, .unit read (count + 1) (16 * before + digit)⟩ := by
  simp only [step, value, Option.map_some, if_neg more]

theorem step_lastDigit {char : Char} {digit : Nat} (value : Digit.hexValue? char = some digit)
    (tokens : List Token) (read : OpenString) (before : Nat) :
    step ⟨tokens, .unit read 3 before⟩ char =
      some ⟨tokens, .string (read.pushUnit (16 * before + digit))⟩ := by
  simp only [step, value, Option.map_some, if_true]

theorem run_unit {code : Nat} (control : code < 32) (tokens : List Token)
    (chars rest : List Char) :
    run ⟨tokens, .unit (.plain chars) 0 0⟩ (Digit.hexPadded 4 code ++ rest) =
      run ⟨tokens, .string (.plain (Char.ofNat code :: chars))⟩ rest := by
  obtain ⟨high, low, digits, highValue, lowValue⟩ := hexPadded_control control
  have zero : Digit.hexValue? '0' = some 0 := rfl
  have value : 16 * (16 * (16 * (16 * 0 + 0) + 0) + code / 16) + code % 16 = code := by omega
  have unit : (OpenString.plain chars).pushUnit code = .plain (Char.ofNat code :: chars) := by
    unfold OpenString.pushUnit
    rw [if_neg (by omega), if_neg (by omega)]
    rfl
  rw [digits]
  simp only [List.cons_append, List.nil_append]
  rw [run_cons (step_digit zero (by decide) ..), run_cons (step_digit zero (by decide) ..),
    run_cons (step_digit highValue (by decide) ..), run_cons (step_lastDigit lowValue ..), value,
    unit]

/-- Reading the escape of a character reads that character. -/
theorem run_escape (char : Char) (tokens : List Token) (chars rest : List Char) :
    run ⟨tokens, .string (.plain chars)⟩ (escape char ++ rest) =
      run ⟨tokens, .string (.plain (char :: chars))⟩ rest := by
  unfold escape
  split_ifs with quote backslash backspace feed newline carriage tab control
  · subst quote; rfl
  · subst backslash; rfl
  · subst backspace; rfl
  · subst feed; rfl
  · subst newline; rfl
  · subst carriage; rfl
  · subst tab; rfl
  · have small : char.toNat < 32 := control
    have unit := run_unit small tokens chars rest
    rw [Char.ofNat_toNat] at unit
    exact unit
  · have taken : step ⟨tokens, .string (.plain chars)⟩ char =
        some ⟨tokens, .string (.plain (char :: chars))⟩ := by
      simp only [step, quote, backslash, control, if_false]
      rfl
    exact run_cons taken rest

/-- Only the quotation mark, the backslash and the characters below the space are escaped. -/
theorem escape_eq_self_iff (char : Char) :
    escape char = [char] ↔ char ≠ '"' ∧ char ≠ '\\' ∧ ' ' ≤ char := by
  unfold escape
  split_ifs with quote backslash backspace feed newline carriage tab control
  · subst quote; decide
  · subst backslash; decide
  · subst backspace; decide
  · subst feed; decide
  · subst newline; decide
  · subst carriage; decide
  · subst tab; decide
  · have long : '\\' :: 'u' :: Digit.hexPadded 4 char.toNat ≠ [char] := by simp
    exact iff_of_false long fun printed => absurd control (Char.not_lt.mpr printed.2.2)
  · exact iff_of_true rfl ⟨quote, backslash, Char.not_lt.mp control⟩

theorem run_escapes (text : List Char) (tokens : List Token) (chars rest : List Char) :
    run ⟨tokens, .string (.plain chars)⟩ (text.flatMap escape ++ rest) =
      run ⟨tokens, .string (.plain (text.reverse ++ chars))⟩ rest := by
  induction text generalizing chars with
  | nil => rfl
  | cons char more ih =>
      rw [List.flatMap_cons, List.append_assoc, run_escape, ih, List.reverse_cons,
        List.append_assoc, List.singleton_append]

/-- What is between the quotation marks of a string is read as its token. -/
theorem run_quoted (text : String) (tokens : List Token) (rest : List Char) :
    run ⟨tokens, .string (.plain [])⟩ (text.toList.flatMap escape ++ '"' :: rest) =
      run ⟨.string text :: tokens, .gap⟩ rest := by
  have ended : step ⟨tokens, .string (.plain text.toList.reverse)⟩ '"' =
      some ⟨.string text :: tokens, .gap⟩ := by
    have token : (OpenString.plain text.toList.reverse).token = .string text := by
      change Token.string (String.ofList text.toList.reverse.reverse) = .string text
      rw [List.reverse_reverse, String.ofList_toList]
    simp only [step, if_true, token]
  rw [run_escapes, List.append_nil]
  exact run_cons ended rest

/-! ## Numerals and words -/

theorem digit_cases {char : Char} (digit : char.isDigit = true) :
    ∃ value : Fin 10, char = Char.ofNat (48 + value.val) := by
  have bounds : 48 ≤ char.toNat ∧ char.toNat ≤ 57 := by
    simpa [Char.isDigit, UInt32.le_iff_toNat_le] using digit
  refine ⟨⟨char.toNat - 48, by omega⟩, ?_⟩
  rw [show 48 + (char.toNat - 48) = char.toNat by omega, Char.ofNat_toNat]

theorem start_digit {char : Char} (digit : char.isDigit = true) (tokens : List Token) :
    start tokens char = some ⟨tokens, .numeral [char]⟩ := by
  obtain ⟨value, rfl⟩ := digit_cases digit
  match value with
  | 0 | 1 | 2 | 3 | 4 | 5 | 6 | 7 | 8 | 9 => rfl

theorem run_numeral {text : List Char} (numeral : ∀ char ∈ text, isNumeralChar char = true)
    (tokens : List Token) (read rest : List Char) :
    run ⟨tokens, .numeral read⟩ (text ++ rest) =
      run ⟨tokens, .numeral (text.reverse ++ read)⟩ rest := by
  induction text generalizing read with
  | nil => rfl
  | cons char more ih =>
      have taken : step ⟨tokens, .numeral read⟩ char = some ⟨tokens, .numeral (char :: read)⟩ := by
        simp only [step, numeral char (by simp), if_true]
      rw [List.cons_append, run_cons taken,
        ih (fun char member => numeral char (List.mem_cons_of_mem _ member)), List.reverse_cons,
        List.append_assoc, List.singleton_append]

/-- The text of an integer is read as a numeral. -/
theorem run_integer (negative : Bool) (magnitude : Nat) (tokens : List Token) (rest : List Char) :
    run ⟨tokens, .gap⟩ (Numeral.chars (.integer negative magnitude) ++ rest) =
      run ⟨tokens, .numeral (Numeral.chars (.integer negative magnitude)).reverse⟩ rest := by
  have digits := Numeral.all_isDigit_toDigits magnitude
  have numeral : ∀ char ∈ Nat.toDigits 10 magnitude, isNumeralChar char = true := by
    intro char member
    simp only [isNumeralChar, digits char member, Bool.true_or]
  cases negative with
  | true =>
      change run _ (('-' :: Nat.toDigits 10 magnitude) ++ rest) = run ⟨tokens, .numeral
        ('-' :: Nat.toDigits 10 magnitude).reverse⟩ rest
      rw [List.cons_append, run_cons rfl, run_numeral numeral, List.reverse_cons]
  | false =>
      change run _ (Nat.toDigits 10 magnitude ++ rest) = run ⟨tokens, .numeral
        (Nat.toDigits 10 magnitude).reverse⟩ rest
      obtain ⟨first, more, text⟩ := List.exists_cons_of_ne_nil
        (Nat.toDigits_ne_nil : Nat.toDigits 10 magnitude ≠ [])
      rw [text] at digits numeral ⊢
      have begun : step ⟨tokens, .gap⟩ first = some ⟨tokens, .numeral [first]⟩ :=
        start_digit (digits first (by simp)) tokens
      rw [List.cons_append, run_cons begun,
        run_numeral fun char member => numeral char (List.mem_cons_of_mem _ member),
        List.reverse_cons]

/-! ## Token lists -/

/-- A scanner that has read the given tokens, last first; the last one may lack its end. -/
inductive Scanner.Holds : List Token → Scanner → Prop where
  | gap (tokens : List Token) : Holds tokens ⟨tokens, .gap⟩
  | word {read : List Char} {token : Token} (whole : wordToken? read = some token)
      (tokens : List Token) : Holds (token :: tokens) ⟨tokens, .word read⟩
  | numeral {read : List Char} {token : Token} (whole : numeralToken? read = some token)
      (tokens : List Token) : Holds (token :: tokens) ⟨tokens, .numeral read⟩

namespace Scanner.Holds

variable {tokens : List Token} {scanner : Scanner}

theorem finish (holds : Holds tokens scanner) : scanner.finish = some tokens.reverse := by
  cases holds with
  | gap tokens => rfl
  | word whole tokens => simp only [Scanner.finish, whole, Option.map_some]
  | numeral whole tokens => simp only [Scanner.finish, whole, Option.map_some]

/-- A character that goes on with no word and no numeral ends the token before it. -/
theorem step_delimiter (holds : Holds tokens scanner) {char : Char}
    (letter : char.isAlpha = false) (numeral : isNumeralChar char = false) :
    scanner.step char = start tokens char := by
  cases holds with
  | gap tokens => rfl
  | word whole tokens => simp only [step, letter, whole, Option.bind_some]; rfl
  | numeral whole tokens => simp only [step, numeral, whole, Option.bind_some]; rfl

end Scanner.Holds

/-- Whether the text of a token ends only with what follows. -/
def Token.isBare : Token → Bool
  | .null | .bool _ | .number _ | .overflow => true
  | _ => false

/-- Whether a token is written by one that can be read again: a numeral has to be that of an
integer of at most 64 bits. -/
def Token.isPlain : Token → Bool
  | .number (.integer _ magnitude) => magnitude < UInt64.size
  | .number (.decimal ..) | .overflow | .halfPair => false
  | _ => true

/-- A bare token is read between two tokens. -/
theorem run_bare {token : Token} (bare : token.isBare = true) (plain : token.isPlain = true)
    (tokens : List Token) (rest : List Char) :
    ∃ scanner, run ⟨tokens, .gap⟩ (token.chars ++ rest) = scanner.run rest ∧
      Holds (token :: tokens) scanner := by
  cases token with
  | null => exact ⟨⟨tokens, .word ['l', 'l', 'u', 'n']⟩, rfl, .word rfl tokens⟩
  | bool value =>
      cases value with
      | true => exact ⟨⟨tokens, .word ['e', 'u', 'r', 't']⟩, rfl, .word rfl tokens⟩
      | false => exact ⟨⟨tokens, .word ['e', 's', 'l', 'a', 'f']⟩, rfl, .word rfl tokens⟩
  | number value =>
      cases value with
      | integer negative magnitude =>
          have small : magnitude < UInt64.size := of_decide_eq_true plain
          refine ⟨_, run_integer negative magnitude tokens rest, .numeral ?_ tokens⟩
          rw [numeralToken?, List.reverse_reverse, Numeral.ofChars?_chars, Option.map_some,
            Numeral.isFinite_of_lt small]
          rfl
      | decimal => cases plain
  | overflow => cases plain
  | _ => cases bare

/-- Any other token ends the one before it and is complete. -/
theorem run_closed {token : Token} (closed : token.isBare = false) (plain : token.isPlain = true)
    {tokens : List Token} {scanner : Scanner} (holds : Holds tokens scanner) (rest : List Char) :
    scanner.run (token.chars ++ rest) = run ⟨token :: tokens, .gap⟩ rest := by
  cases token with
  | openBracket => exact run_cons (holds.step_delimiter rfl rfl) rest
  | closeBracket => exact run_cons (holds.step_delimiter rfl rfl) rest
  | openBrace => exact run_cons (holds.step_delimiter rfl rfl) rest
  | closeBrace => exact run_cons (holds.step_delimiter rfl rfl) rest
  | comma => exact run_cons (holds.step_delimiter rfl rfl) rest
  | colon => exact run_cons (holds.step_delimiter rfl rfl) rest
  | string value =>
      have opened : scanner.step '"' = some ⟨tokens, .string (.plain [])⟩ :=
        holds.step_delimiter rfl rfl
      have quoted := run_quoted value tokens rest
      simp only [Token.chars, quote, List.cons_append, List.append_assoc, List.nil_append]
      rw [run_cons opened]
      exact quoted
  | halfPair => cases plain
  | _ => cases closed

def Separated (tokens : List Token) : Prop :=
  tokens.IsChain fun first second => first.isBare = true → second.isBare = false

theorem separated_cons {token : Token} {rest : List Token} (closed : token.isBare = false)
    (separated : Separated rest) : Separated (token :: rest) := by
  refine List.isChain_cons.mpr ⟨fun next _ bare => ?_, separated⟩
  rw [closed] at bare
  cases bare

theorem separated_append_cons {first rest : List Token} {token : Token}
    (closed : token.isBare = false) (before : Separated first) (after : Separated rest) :
    Separated (first ++ token :: rest) := by
  refine List.isChain_append.mpr ⟨before, separated_cons closed after, ?_⟩
  intro last _ next head _
  cases head
  exact closed

mutual

/-- A comma, a colon, a bracket or a brace stands between any two values. -/
theorem separated_tokens : ∀ value : Json, Separated value.tokens
  | .null => List.isChain_singleton _
  | .bool _ => List.isChain_singleton _
  | .number _ => List.isChain_singleton _
  | .string _ => List.isChain_singleton _
  | .unreadable => List.isChain_singleton _
  | .array items => by
      rw [tokens]
      exact separated_cons rfl
        (separated_append_cons rfl (separated_itemTokens items) List.isChain_nil)
  | .object members => by
      rw [tokens]
      exact separated_cons rfl
        (separated_append_cons rfl (separated_memberTokens members) List.isChain_nil)

theorem separated_itemTokens : ∀ items : List Json, Separated (itemTokens items)
  | [] => List.isChain_nil
  | [item] => by
      rw [itemTokens]
      exact separated_tokens item
  | item :: next :: rest => by
      rw [itemTokens]
      exact separated_append_cons rfl (separated_tokens item) (separated_itemTokens (next :: rest))

theorem separated_memberTokens : ∀ members : List (String × Json), Separated (memberTokens members)
  | [] => List.isChain_nil
  | [(name, value)] => by
      rw [memberTokens]
      exact separated_cons rfl (separated_cons rfl (separated_tokens value))
  | (name, value) :: next :: rest => by
      rw [memberTokens]
      exact separated_cons rfl (separated_cons rfl
        (separated_append_cons rfl (separated_tokens value)
          (separated_memberTokens (next :: rest))))

end

/-- Separated tokens are read one after the other, given that the first one is kept apart from
what has been read. -/
theorem run_separated {todo : List Token} (separated : Separated todo)
    (plain : ∀ token ∈ todo, token.isPlain = true) {tokens : List Token} {scanner : Scanner}
    (holds : Holds tokens scanner)
    (apart : ∀ token ∈ todo.head?, token.isBare = true → scanner = ⟨tokens, .gap⟩) :
    ∃ last, scanner.run (todo.flatMap Token.chars) = some last ∧
      Holds (todo.reverse ++ tokens) last := by
  induction todo generalizing tokens scanner with
  | nil => exact ⟨scanner, rfl, holds⟩
  | cons token rest ih =>
      obtain ⟨next, separated⟩ := List.isChain_cons.mp separated
      have plainRest : ∀ token ∈ rest, token.isPlain = true :=
        fun token member => plain token (List.mem_cons_of_mem _ member)
      have plain : token.isPlain = true := plain token List.mem_cons_self
      rw [List.flatMap_cons, List.reverse_cons, List.append_assoc]
      cases bare : token.isBare with
      | true =>
          rw [apart token rfl bare]
          obtain ⟨scanner, read, holds⟩ :=
            run_bare bare plain tokens (rest.flatMap Token.chars)
          rw [read]
          refine ih separated plainRest holds fun following head bare' => ?_
          rw [next following head bare] at bare'
          cases bare'
      | false =>
          rw [run_closed bare plain holds]
          exact ih separated plainRest (.gap _) fun _ _ _ => rfl

/-- Text of separated tokens is scanned into these tokens. -/
theorem scan?_chars {tokens : List Token} (separated : Separated tokens)
    (plain : ∀ token ∈ tokens, token.isPlain = true) :
    scan? (tokens.flatMap Token.chars) = some tokens := by
  obtain ⟨last, read, holds⟩ := run_separated separated plain (.gap []) fun _ _ _ => rfl
  rw [scan?, read, Option.bind_some, holds.finish, List.append_nil, List.reverse_reverse]

end ShellTree.Json
