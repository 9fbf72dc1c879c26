import ShellTree.Json.Basic
import ShellTree.Text.Digit

/-!
# JSON tokens

Text is scanned one character at a time into tokens, with blanks between them
dropped.  Compact text is the concatenation of the texts of its tokens.
-/

namespace ShellTree.Json

inductive Token where
  | openBracket
  | closeBracket
  | openBrace
  | closeBrace
  | comma
  | colon
  | null
  | bool (value : Bool)
  | number (value : Numeral)
  | overflow
  | string (value : String)
  | halfPair
  deriving DecidableEq

/-- The escape of a character inside a string: only the quotation mark, the
backslash and the characters below the space are escaped. -/
def escape (char : Char) : List Char :=
  if char = '"' then ['\\', '"']
  else if char = '\\' then ['\\', '\\']
  else if char = '\x08' then ['\\', 'b']
  else if char = '\x0c' then ['\\', 'f']
  else if char = '\n' then ['\\', 'n']
  else if char = '\r' then ['\\', 'r']
  else if char = '\t' then ['\\', 't']
  else if char < ' ' then '\\' :: 'u' :: Digit.hexPadded 4 char.toNat
  else [char]

def quote (text : List Char) : List Char :=
  '"' :: text.flatMap escape ++ ['"']

end Json

namespace Numeral

def chars : Numeral → List Char
  | .integer negative magnitude =>
      (if negative then ['-'] else []) ++ Nat.toDigits 10 magnitude
  | .decimal negative significand exponent =>
      (if negative then ['-'] else []) ++ Nat.toDigits 10 significand ++ ['e'] ++
        (if exponent < 0 then ['-'] else []) ++ Nat.toDigits 10 exponent.natAbs

/-- The digits after an exponent mark, with at most one sign before them. -/
def exponent? : List Char → Option Int
  | '-' :: digits => magnitude? digits |>.map fun size => -(size : Int)
  | '+' :: digits => magnitude? digits |>.map fun size => (size : Int)
  | digits => magnitude? digits |>.map fun size => (size : Int)
where
  magnitude? (digits : List Char) : Option Nat :=
    if digits.isEmpty || !digits.all Char.isDigit then none
    else some (Nat.ofDigitChars 10 digits 0)

def scaled? (negative : Bool) (whole fraction : List Char) : List Char → Option Numeral
  | [] => some (.decimal negative (Nat.ofDigitChars 10 (whole ++ fraction) 0) (-fraction.length))
  | mark :: rest =>
      if mark = 'e' ∨ mark = 'E' then
        (exponent? rest).map fun power =>
          .decimal negative (Nat.ofDigitChars 10 (whole ++ fraction) 0) (power - fraction.length)
      else none

/-- A numeral without its sign: no leading zero, at least one digit on each side
of a point, and an exponent last. -/
def unsigned? (negative : Bool) (chars : List Char) : Option Numeral :=
  let whole := chars.takeWhile Char.isDigit
  if whole.isEmpty || (whole.head? == some '0' && whole.length != 1) then none
  else match chars.dropWhile Char.isDigit with
    | [] => some (.integer negative (Nat.ofDigitChars 10 whole 0))
    | '.' :: rest =>
        let fraction := rest.takeWhile Char.isDigit
        if fraction.isEmpty then none
        else scaled? negative whole fraction (rest.dropWhile Char.isDigit)
    | rest => scaled? negative whole [] rest

def ofChars? : List Char → Option Numeral
  | '-' :: rest => unsigned? true rest
  | chars => unsigned? false chars

end Numeral

namespace Json

def Token.chars : Token → List Char
  | .openBracket => ['[']
  | .closeBracket => [']']
  | .openBrace => ['\x7b']
  | .closeBrace => ['\x7d']
  | .comma => [',']
  | .colon => [':']
  | .null => ['n', 'u', 'l', 'l']
  | .bool true => ['t', 'r', 'u', 'e']
  | .bool false => ['f', 'a', 'l', 's', 'e']
  | .number value => value.chars
  | .overflow => ['1', 'e', '9', '9', '9']
  | .string value => quote value.toList
  | .halfPair => ['"', '\\', 'u', 'd', '8', '0', '0', '"']

/-- A string that has been read in part: its characters, last first, the high
half of a surrogate pair that waits for its low half, and whether each half so
far has found its partner. -/
structure OpenString where
  chars : List Char := []
  high : Option Nat := none
  paired : Bool := true

namespace OpenString

def push (open_ : OpenString) (char : Char) : OpenString where
  chars := char :: open_.chars
  paired := open_.paired && open_.high.isNone

def pushUnit (open_ : OpenString) (unit : Nat) : OpenString :=
  if 0xD800 ≤ unit ∧ unit < 0xDC00 then
    { open_ with high := some unit, paired := open_.paired && open_.high.isNone }
  else if 0xDC00 ≤ unit ∧ unit < 0xE000 then
    match open_.high with
    | some high =>
        { open_ with
          chars := Char.ofNat (0x10000 + (high - 0xD800) * 0x400 + (unit - 0xDC00)) :: open_.chars
          high := none }
    | none => { open_ with paired := false }
  else open_.push (Char.ofNat unit)

def token (open_ : OpenString) : Token :=
  if open_.paired && open_.high.isNone then .string (String.ofList open_.chars.reverse)
  else .halfPair

end OpenString

inductive Mode where
  | gap
  | word (read : List Char)
  | numeral (read : List Char)
  | string (read : OpenString)
  | escaped (read : OpenString)
  | unit (read : OpenString) (count value : Nat)

/-- The token of a letter run, given last letter first. -/
def wordToken? (read : List Char) : Option Token :=
  match read.reverse with
  | ['n', 'u', 'l', 'l'] => some .null
  | ['t', 'r', 'u', 'e'] => some (.bool true)
  | ['f', 'a', 'l', 's', 'e'] => some (.bool false)
  | _ => none

/-- The token of a numeral, given last character first. -/
def numeralToken? (read : List Char) : Option Token :=
  (Numeral.ofChars? read.reverse).map fun value =>
    if value.isFinite then .number value else .overflow

def unescape? (letter : Char) : Option Char :=
  if letter = '"' ∨ letter = '\\' ∨ letter = '/' then some letter
  else if letter = 'b' then some '\x08'
  else if letter = 'f' then some '\x0c'
  else if letter = 'n' then some '\n'
  else if letter = 'r' then some '\r'
  else if letter = 't' then some '\t'
  else none

def isNumeralChar (char : Char) : Bool :=
  char.isDigit || char == '.' || char == 'e' || char == 'E' || char == '+' || char == '-'

/-- A scanner: the tokens so far, last first, and where it stands. -/
structure Scanner where
  tokens : List Token := []
  mode : Mode := .gap

namespace Scanner

def start (tokens : List Token) (char : Char) : Option Scanner :=
  if char = ' ' ∨ char = '\t' ∨ char = '\n' ∨ char = '\r' then some ⟨tokens, .gap⟩
  else if char = '[' then some ⟨.openBracket :: tokens, .gap⟩
  else if char = ']' then some ⟨.closeBracket :: tokens, .gap⟩
  else if char = '\x7b' then some ⟨.openBrace :: tokens, .gap⟩
  else if char = '\x7d' then some ⟨.closeBrace :: tokens, .gap⟩
  else if char = ',' then some ⟨.comma :: tokens, .gap⟩
  else if char = ':' then some ⟨.colon :: tokens, .gap⟩
  else if char = '"' then some ⟨tokens, .string {}⟩
  else if char = '-' ∨ char.isDigit then some ⟨tokens, .numeral [char]⟩
  else if char.isAlpha then some ⟨tokens, .word [char]⟩
  else none

def step (scanner : Scanner) (char : Char) : Option Scanner :=
  match scanner.mode with
  | .gap => start scanner.tokens char
  | .word read =>
      if char.isAlpha then some ⟨scanner.tokens, .word (char :: read)⟩
      else (wordToken? read).bind fun token => start (token :: scanner.tokens) char
  | .numeral read =>
      if isNumeralChar char then some ⟨scanner.tokens, .numeral (char :: read)⟩
      else (numeralToken? read).bind fun token => start (token :: scanner.tokens) char
  | .string read =>
      if char = '"' then some ⟨read.token :: scanner.tokens, .gap⟩
      else if char = '\\' then some ⟨scanner.tokens, .escaped read⟩
      else if char < ' ' then none
      else some ⟨scanner.tokens, .string (read.push char)⟩
  | .escaped read =>
      if char = 'u' then some ⟨scanner.tokens, .unit read 0 0⟩
      else (unescape? char).map fun plain => ⟨scanner.tokens, .string (read.push plain)⟩
  | .unit read count value =>
      (Digit.hexValue? char).map fun digit =>
        if count = 3 then ⟨scanner.tokens, .string (read.pushUnit (16 * value + digit))⟩
        else ⟨scanner.tokens, .unit read (count + 1) (16 * value + digit)⟩

def run (scanner : Scanner) : List Char → Option Scanner
  | [] => some scanner
  | char :: rest =>
      match scanner.step char with
      | some next => next.run rest
      | none => none

def finish (scanner : Scanner) : Option (List Token) :=
  match scanner.mode with
  | .gap => some scanner.tokens.reverse
  | .word read => (wordToken? read).map fun token => (token :: scanner.tokens).reverse
  | .numeral read => (numeralToken? read).map fun token => (token :: scanner.tokens).reverse
  | _ => none

end Scanner

def scan? (text : List Char) : Option (List Token) :=
  (Scanner.run {} text).bind Scanner.finish

end Json

end ShellTree
