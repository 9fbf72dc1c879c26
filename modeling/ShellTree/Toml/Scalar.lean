import ShellTree.Text.Digit
import ShellTree.Text.Double
import ShellTree.Toml.Basic

/-!
# TOML numbers, truth values and datetimes

A scalar that is not a string is a run of letters, digits and a few marks.  The
whole run has to be a truth value, an integer, a float or a datetime.
-/

namespace ShellTree.Toml

def isScalarChar (char : Char) : Bool :=
  char.isAlphanum || char == '_' || char == '+' || char == '-' || char == '.' || char == ':'

/-- Digits with single underscores between them; the digits alone. -/
def digitGroup? (isDigit : Char → Bool) : List Char → Option (List Char)
  | [] => none
  | [digit] => if isDigit digit then some [digit] else none
  | digit :: '_' :: rest =>
      if isDigit digit then (digitGroup? isDigit rest).map (digit :: ·) else none
  | digit :: rest => if isDigit digit then (digitGroup? isDigit rest).map (digit :: ·) else none

/-- The digits of a decimal integer without sign: no zero before other digits. -/
def wholeDigits? (chars : List Char) : Option (List Char) :=
  (digitGroup? Char.isDigit chars).filter fun digits =>
    digits.length == 1 || digits.head? != some '0'

def boundedInteger? (number : Int) : Option Toml :=
  if Int64.minValue.toInt ≤ number ∧ number ≤ Int64.maxValue.toInt then some (.integer number)
  else none

def basedInteger? (base : Nat) (chars : List Char) : Option Toml :=
  (digitGroup? (Digit.isDigitOf base) chars).bind fun digits =>
    boundedInteger? (Digit.toNat base digits)

def exponent? : List Char → Option Int
  | '-' :: rest =>
      (digitGroup? Char.isDigit rest).map fun digits => -(Nat.ofDigitChars 10 digits 0 : Int)
  | '+' :: rest =>
      (digitGroup? Char.isDigit rest).map fun digits => (Nat.ofDigitChars 10 digits 0 : Int)
  | rest =>
      (digitGroup? Char.isDigit rest).map fun digits => (Nat.ofDigitChars 10 digits 0 : Int)

def isExponentMark (char : Char) : Bool :=
  char == 'e' || char == 'E'

/-- A float without sign, given its whole digits and the rest.  A positive float
has to be finite. -/
def float? (negative : Bool) (whole fraction rest : List Char) : Option Toml := do
  let power ← match rest with
    | [] => some 0
    | _ :: digits => exponent? digits
  let significand := Nat.ofDigitChars 10 (whole ++ fraction) 0
  if negative || Double.fits significand (power - fraction.length) then some .float else none

def unsigned? (negative : Bool) (chars : List Char) : Option Toml := do
  let (mantissa, rest) := chars.span fun char => !isExponentMark char
  let (before, after) := mantissa.span (· != '.')
  let whole ← wholeDigits? before
  match after with
  | [] =>
      if rest.isEmpty then
        let magnitude := Nat.ofDigitChars 10 whole 0
        boundedInteger? (if negative then -(magnitude : Int) else magnitude)
      else float? negative whole [] rest
  | _ :: digits => float? negative whole (← digitGroup? Char.isDigit digits) rest

def number? : List Char → Option Toml
  | '0' :: 'x' :: rest => basedInteger? 16 rest
  | '0' :: 'o' :: rest => basedInteger? 8 rest
  | '0' :: 'b' :: rest => basedInteger? 2 rest
  | '+' :: rest => signed? false rest
  | '-' :: rest => signed? true rest
  | chars => signed? false chars
where
  signed? (negative : Bool) (chars : List Char) : Option Toml :=
    if chars = ['i', 'n', 'f'] ∨ chars = ['n', 'a', 'n'] then some .float
    else unsigned? negative chars

def twoDigits? (least greatest : Nat) (tens units : Char) : Option Nat :=
  if tens.isDigit && units.isDigit then
    let number := Nat.ofDigitChars 10 [tens, units] 0
    if least ≤ number ∧ number ≤ greatest then some number else none
  else none

def daysIn (year month : Nat) : Nat :=
  if month = 2 then
    if year % 4 = 0 ∧ (year % 100 ≠ 0 ∨ year % 400 = 0) then 29 else 28
  else if month = 4 ∨ month = 6 ∨ month = 9 ∨ month = 11 then 30
  else 31

/-- A date at the front: its ten characters and what follows. -/
def date? : List Char → Option (List Char × List Char)
  | a :: b :: c :: d :: '-' :: e :: f :: '-' :: g :: h :: rest => do
      let century ← twoDigits? 0 99 a b
      let year ← twoDigits? 0 99 c d
      let month ← twoDigits? 1 12 e f
      let _ ← twoDigits? 1 (daysIn (century * 100 + year) month) g h
      return ([a, b, c, d, '-', e, f, '-', g, h], rest)
  | _ => none

/-- The fraction of a second in at most nine digits, without zeros at the end. -/
def fractionText (digits : List Char) : List Char :=
  match ((digits.take 9).reverse.dropWhile (· == '0')).reverse with
  | [] => []
  | kept => '.' :: kept

def time? : List Char → Option (List Char × List Char)
  | a :: b :: ':' :: c :: d :: ':' :: e :: f :: rest => do
      let _ ← twoDigits? 0 23 a b
      let _ ← twoDigits? 0 59 c d
      let _ ← twoDigits? 0 60 e f
      let seconds := [a, b, ':', c, d, ':', e, f]
      match rest with
      | '.' :: more =>
          let digits := more.takeWhile Char.isDigit
          if digits.isEmpty then none
          else return (seconds ++ fractionText digits, more.dropWhile Char.isDigit)
      | _ => return (seconds, rest)
  | _ => none

/-- The offset of a time, which ends a datetime; it may be missing. -/
def offset? : List Char → Option (List Char)
  | [] => some []
  | ['Z'] => some ['Z']
  | ['z'] => some ['Z']
  | [sign, a, b, ':', c, d] => do
      guard (sign == '+' || sign == '-')
      let hours ← twoDigits? 0 23 a b
      let minutes ← twoDigits? 0 59 c d
      return (if hours = 0 ∧ minutes = 0 then '+' else sign) :: [a, b, ':', c, d]
  | _ => none

def datetime? (chars : List Char) : Option (List Char) :=
  match date? chars with
  | some (date, []) => some date
  | some (date, mark :: rest) => do
      guard (mark == 'T' || mark == 't' || mark == ' ')
      let (time, rest) ← time? rest
      return date ++ 'T' :: time ++ (← offset? rest)
  | none => do
      let (time, rest) ← time? chars
      guard rest.isEmpty
      return time

def scalar? (chars : List Char) : Option Toml :=
  if chars = ['t', 'r', 'u', 'e'] then some (.bool true)
  else if chars = ['f', 'a', 'l', 's', 'e'] then some (.bool false)
  else match datetime? chars with
    | some text => some (.datetime (String.ofList text))
    | none => number? chars

/-- A scalar at the front and what follows.  A date may be followed by a blank and a
time. -/
def scalarFront? (chars : List Char) : Option (Toml × List Char) := do
  let (run, rest) := chars.span isScalarChar
  match date? run, rest with
  | some (_, []), ' ' :: digit :: more =>
      if digit.isDigit then
        let (time, rest) := (digit :: more).span isScalarChar
        return (← scalar? (run ++ ' ' :: time), rest)
      else return (← scalar? run, rest)
  | _, _ => return (← scalar? run, rest)

end ShellTree.Toml
