import ShellTree.Text.Digit

/-!
# TOML strings

Basic strings have escapes, literal strings have none, and both have a form that
may hold newlines.  A reader takes the characters after the opening quotation mark
and gives the text and the characters after the closing one.
-/

namespace ShellTree.Toml

/-- The tab and every character that is not an ASCII control character. -/
def isPlain (char : Char) : Bool :=
  char == '\t' || (' ' ≤ char && char != '\x7f')

def unescape? (letter : Char) : Option Char :=
  if letter = 'b' then some '\x08'
  else if letter = 't' then some '\t'
  else if letter = 'n' then some '\n'
  else if letter = 'f' then some '\x0c'
  else if letter = 'r' then some '\r'
  else if letter = '"' then some '"'
  else if letter = '\\' then some '\\'
  else none

def codeChar? (digits : List Char) : Option Char :=
  if digits.all (Digit.isDigitOf 16) then Digit.scalar? (Digit.toNat 16 digits) else none

def prepend (char : Char) (read : List Char × List Char) : List Char × List Char :=
  (char :: read.1, read.2)

def basicString? : List Char → Option (List Char × List Char)
  | [] => none
  | '"' :: rest => some ([], rest)
  | '\\' :: 'u' :: a :: b :: c :: d :: rest =>
      (codeChar? [a, b, c, d]).bind fun char => (basicString? rest).map (prepend char)
  | '\\' :: 'U' :: a :: b :: c :: d :: e :: f :: g :: h :: rest =>
      (codeChar? [a, b, c, d, e, f, g, h]).bind fun char =>
        (basicString? rest).map (prepend char)
  | '\\' :: letter :: rest =>
      (unescape? letter).bind fun char => (basicString? rest).map (prepend char)
  | char :: rest =>
      if isPlain char && char != '\\' then (basicString? rest).map (prepend char) else none

def literalString? : List Char → Option (List Char × List Char)
  | [] => none
  | '\'' :: rest => some ([], rest)
  | char :: rest => if isPlain char then (literalString? rest).map (prepend char) else none

/-- Whether a newline comes next, perhaps after blanks. -/
def breaksLine (chars : List Char) : Bool :=
  match chars.dropWhile fun char => char == ' ' || char == '\t' with
  | '\n' :: _ => true
  | '\r' :: '\n' :: _ => true
  | _ => false

/-- What follows three quotation marks at the end of a string: up to two more of
them belong to the text. -/
def closing (mark : Char) : List Char → List Char × List Char
  | first :: second :: rest =>
      if first = mark ∧ second = mark then ([mark, mark], rest)
      else if first = mark then ([mark], second :: rest)
      else ([], first :: second :: rest)
  | [only] => if only = mark then ([mark], []) else ([], [only])
  | [] => ([], [])

/-- A basic string over several lines.  A backslash at the end of a line drops all
blanks and newlines up to the next character; `dropping` says that this goes on. -/
def basicLines? : (dropping : Bool) → List Char → Option (List Char × List Char)
  | _, [] => none
  | _, '"' :: '"' :: '"' :: rest => some (closing '"' rest)
  | _, '\\' :: 'u' :: a :: b :: c :: d :: rest =>
      (codeChar? [a, b, c, d]).bind fun char => (basicLines? false rest).map (prepend char)
  | _, '\\' :: 'U' :: a :: b :: c :: d :: e :: f :: g :: h :: rest =>
      (codeChar? [a, b, c, d, e, f, g, h]).bind fun char =>
        (basicLines? false rest).map (prepend char)
  | dropping, '\r' :: '\n' :: rest =>
      if dropping then basicLines? true rest else (basicLines? false rest).map (prepend '\n')
  | _, '\\' :: letter :: rest =>
      if breaksLine (letter :: rest) then basicLines? true rest
      else (unescape? letter).bind fun char => (basicLines? false rest).map (prepend char)
  | dropping, char :: rest =>
      if dropping && (char == ' ' || char == '\t' || char == '\n') then basicLines? true rest
      else if (isPlain char && char != '\\') || char == '\n' then
        (basicLines? false rest).map (prepend char)
      else none

def literalLines? : List Char → Option (List Char × List Char)
  | [] => none
  | '\'' :: '\'' :: '\'' :: rest => some (closing '\'' rest)
  | '\r' :: '\n' :: rest => (literalLines? rest).map (prepend '\n')
  | char :: rest =>
      if isPlain char || char == '\n' then (literalLines? rest).map (prepend char) else none

/-- The text after a newline that directly follows the opening of a string. -/
def dropNewline : List Char → List Char
  | '\n' :: rest => rest
  | '\r' :: '\n' :: rest => rest
  | chars => chars

def string? : List Char → Option (String × List Char)
  | '"' :: '"' :: '"' :: rest => finish (basicLines? false (dropNewline rest))
  | '\'' :: '\'' :: '\'' :: rest => finish (literalLines? (dropNewline rest))
  | '"' :: rest => finish (basicString? rest)
  | '\'' :: rest => finish (literalString? rest)
  | _ => none
where
  finish (read : Option (List Char × List Char)) : Option (String × List Char) :=
    read.map fun (text, rest) => (String.ofList text, rest)

end ShellTree.Toml
