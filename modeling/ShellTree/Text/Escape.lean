import ShellTree.Text.Digit

/-!
# Backslash escapes

A backslash and a letter stand for a control character, a backslash with digits
for the character with that code, and `\c` ends the text.  What is not an escape
is kept as it is written.
-/

namespace ShellTree.Text

/-- Text without its escapes, and whether an escape ended it early. -/
structure Unescaped where
  output : List Char
  stopped : Bool
  deriving DecidableEq

def Unescaped.prepend (chars : List Char) (rest : Unescaped) : Unescaped :=
  ⟨chars ++ rest.output, rest.stopped⟩

def control? (letter : Char) : Option Char :=
  if letter = '\\' then some '\\'
  else if letter = 'n' then some '\n'
  else if letter = 't' then some '\t'
  else if letter = 'r' then some '\r'
  else if letter = 'a' then some '\x07'
  else if letter = 'b' then some '\x08'
  else if letter = 'f' then some '\x0c'
  else if letter = 'v' then some '\x0b'
  else if letter = 'e' ∨ letter = 'E' then some '\x1b'
  else none

def hexWidth? (letter : Char) : Option Nat :=
  if letter = 'x' then some 2
  else if letter = 'u' then some 4
  else if letter = 'U' then some 8
  else none

def leadingDigits (base count : Nat) (chars : List Char) : List Char :=
  (chars.take count).takeWhile (Digit.isDigitOf base)

/-- The character that octal digits stand for; codes are taken modulo 256. -/
def octalChar (digits : List Char) : Char :=
  Char.ofNat (Digit.toNat 8 digits % 256)

/-- What a letter and hexadecimal digits after a backslash stand for: a character,
or themselves when there is no digit or no such character. -/
def hexChars (letter : Char) (digits : List Char) : List Char :=
  match if digits.isEmpty then none else Digit.scalar? (Digit.toNat 16 digits) with
  | some char => [char]
  | none => '\\' :: letter :: digits

def unescape : List Char → Unescaped
  | [] => ⟨[], false⟩
  | '\\' :: letter :: rest =>
      match control? letter with
      | some char => (unescape rest).prepend [char]
      | none =>
          if letter = 'c' then ⟨[], true⟩
          else if letter = '0' then
            let digits := leadingDigits 8 3 rest
            (unescape (rest.drop digits.length)).prepend [octalChar digits]
          else match hexWidth? letter with
            | some width =>
                let digits := leadingDigits 16 width rest
                (unescape (rest.drop digits.length)).prepend (hexChars letter digits)
            | none => (unescape rest).prepend ['\\', letter]
  | char :: rest => (unescape rest).prepend [char]
termination_by chars => chars.length
decreasing_by all_goals simp +arith

end ShellTree.Text
