import ShellTree.Toml.Basic
import ShellTree.Toml.Quoted
import ShellTree.Toml.Scalar

/-!
# TOML text

Reading a document line by line.  Keys have fewer than eighty parts, and arrays and
inline tables nest fewer than eighty levels deep.
-/

namespace ShellTree.Toml

def skipBlanks (chars : List Char) : List Char :=
  chars.dropWhile fun char => char == ' ' || char == '\t'

def newline? : List Char → Option (List Char)
  | '\n' :: rest => some rest
  | '\r' :: '\n' :: rest => some rest
  | _ => none

def skipComment : List Char → List Char
  | '#' :: rest => rest.dropWhile isPlain
  | chars => chars

/-- What follows the end of a line, where blanks and a comment may stand. -/
def lineEnd? (chars : List Char) : Option (List Char) :=
  match skipComment (skipBlanks chars) with
  | [] => some []
  | rest => newline? rest

def isBareChar (char : Char) : Bool :=
  char.isAlphanum || char == '_' || char == '-'

def keyPart? : List Char → Option (String × List Char)
  | '"' :: rest => (basicString? rest).map fun (text, rest) => (String.ofList text, rest)
  | '\'' :: rest => (literalString? rest).map fun (text, rest) => (String.ofList text, rest)
  | chars =>
      let (bare, rest) := chars.span isBareChar
      if bare.isEmpty then none else some (String.ofList bare, rest)

/-- A key: parts with points between them, up to a number of parts. -/
def key? : Nat → List Char → Option (List String × List Char)
  | 0, _ => none
  | count + 1, chars => do
      let (part, rest) ← keyPart? (skipBlanks chars)
      match skipBlanks rest with
      | '.' :: rest => do
          let (parts, rest) ← key? count rest
          return (part :: parts, rest)
      | rest => return ([part], rest)

/-- The limit on the parts of a key and on the nesting of values. -/
def maxNesting : Nat :=
  79

/-- Drop blanks, newlines and comments; the fuel bounds their number. -/
def skipLines : Nat → List Char → List Char
  | 0, chars => chars
  | fuel + 1, chars =>
      match skipComment (skipBlanks chars) with
      | '\n' :: rest => skipLines fuel rest
      | '\r' :: '\n' :: rest => skipLines fuel rest
      | rest => rest

def items? (item : List Char → Option (Toml × List Char)) :
    Nat → List Char → Option (List Toml × List Char)
  | 0, _ => none
  | fuel + 1, chars =>
      match skipLines chars.length chars with
      | ']' :: rest => some ([], rest)
      | start => do
          let (value, rest) ← item start
          match skipLines rest.length rest with
          | ']' :: rest => return ([value], rest)
          | ',' :: rest => do
              let (values, rest) ← items? item fuel rest
              return (value :: values, rest)
          | _ => none

/-- The entries of an inline table, after its opening brace and at least one key. -/
def entries? (item : List Char → Option (Toml × List Char)) :
    Nat → Entries → List Char → Option (Entries × List Char)
  | 0, _, _ => none
  | fuel + 1, known, chars => do
      let (path, rest) ← key? maxNesting chars
      let name ← path.getLast?
      match rest with
      | '=' :: rest => do
          let (value, rest) ← item (skipBlanks rest)
          let known ← setInline? name value path.dropLast known
          match skipBlanks rest with
          | '\x7d' :: rest => return (known, rest)
          | ',' :: rest => entries? item fuel known rest
          | _ => none
      | _ => none

/-- A value; arrays and inline tables may nest to the given depth. -/
def value? : Nat → List Char → Option (Toml × List Char)
  | _, '"' :: rest => (string? ('"' :: rest)).map fun (text, rest) => (.string text, rest)
  | _, '\'' :: rest => (string? ('\'' :: rest)).map fun (text, rest) => (.string text, rest)
  | depth + 1, '[' :: rest =>
      (items? (value? depth) (rest.length + 1) rest).map fun (items, rest) => (.array items, rest)
  | depth + 1, '\x7b' :: rest =>
      match skipBlanks rest with
      | '\x7d' :: rest => some (.inline false [], rest)
      | start =>
          (entries? (value? depth) (start.length + 1) [] start).map fun (entries, rest) =>
            (.inline false entries, rest)
  | _, chars => scalarFront? chars

/-- A header: a key up to its closing brackets and the end of the line. -/
def header? (closing : List Char) (chars : List Char) : Option (List String × List Char) := do
  let (path, rest) ← key? maxNesting chars
  guard (closing.isPrefixOf rest)
  return (path, ← lineEnd? (rest.drop closing.length))

/-- Read one line, or a value over several lines. -/
def line? (document : Document) (chars : List Char) : Option (Document × List Char) :=
  match skipBlanks chars with
  | '[' :: '[' :: rest => do
      let (path, rest) ← header? [']', ']'] rest
      return (← document.openElement? path, rest)
  | '[' :: rest => do
      let (path, rest) ← header? [']'] rest
      return (← document.openTable? path, rest)
  | start =>
      match lineEnd? start with
      | some rest => some (document, rest)
      | none => do
          let (path, rest) ← key? maxNesting start
          match rest with
          | '=' :: rest => do
              let (value, rest) ← value? maxNesting (skipBlanks rest)
              return (← document.set? path value, ← lineEnd? rest)
          | _ => none

/-- Read lines up to the end of the text; the fuel bounds their number. -/
def lines? : Nat → Document → List Char → Option Document
  | _, document, [] => some document
  | 0, _, _ :: _ => none
  | fuel + 1, document, chars => do
      let (document, rest) ← line? document chars
      lines? fuel document rest

/-- The text without a byte order mark. -/
def dropMark : List Char → List Char
  | '\uFEFF' :: rest => rest
  | chars => chars

def ofText? (text : String) : Option Entries := do
  let chars := dropMark text.toList
  let document ← lines? chars.length {} chars
  return (← document.close?).entries

end ShellTree.Toml
