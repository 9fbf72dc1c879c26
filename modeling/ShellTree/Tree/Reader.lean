import ShellTree.Json.Fields
import ShellTree.Json.Text
import ShellTree.Tree.Basic

/-!
# Reading trees

Each reader takes the number of levels that arrays and objects may still nest
and whether the value stands below a held node, as described with the fields of
records.  A tree inside a larger value is read with as many levels as it has.
-/

namespace ShellTree.Reader

open Json

mutual

def part? (held : Bool) : Nat → Json → Option Part
  | 0, _ => none
  | levels + 1, value =>
      node? "type" held (levels + 1) value fun (kind : PartKind) rest => do
        match kind with
        | .literal =>
            match ← fields? ["value"] rest with
            | [text] => return .literal (← required string? text)
            | _ => none
        | .singleQuoted =>
            match ← fields? ["value"] rest with
            | [text] => return .singleQuoted (← required string? text)
            | _ => none
        | .doubleQuoted =>
            match ← fields? ["parts"] rest with
            | [parts] => return .doubleQuoted (← required (parts? true levels) parts)
            | _ => none
        | .parameter =>
            match ← fields? ["parameter", "operation"] rest with
            | [name, operation] =>
                return .parameter (← required string? name)
                  (← optional (operation? true levels) operation)
            | _ => none
        | .arithmetic =>
            match ← fields? ["expression"] rest with
            | [expression] => return .arithmetic (← required (arith? true levels) expression)
            | _ => none
        | .substitution =>
            match ← fields? ["body"] rest with
            | [body] => return .substitution (← required (script? true levels) body)
            | _ => none
        | .brace =>
            match ← fields? ["items"] rest with
            | [items] => return .brace (← required (words? true levels) items)
            | _ => none
        | .extGlob =>
            match ← fields? ["operator", "pattern"] rest with
            | [operator, pattern] =>
                return .extGlob (← required char? operator) (← required string? pattern)
            | _ => none
        | .process =>
            match ← fields? ["body", "direction"] rest with
            | [body, direction] =>
                return .process (← required (script? true levels) body)
                  (← required (name? true levels) direction)
            | _ => none

def parts? (held : Bool) : Nat → Json → Option (List Part)
  | 0, _ => none
  | levels + 1, value => do (← items? value).mapM (part? held levels)

def word? (held : Bool) : Nat → Json → Option (List Part)
  | 0, _ => none
  | levels + 1, value => do
      match ← fields? ["parts"] value with
      | [parts] => required (parts? held levels) parts
      | _ => none

def words? (held : Bool) : Nat → Json → Option (List (List Part))
  | 0, _ => none
  | levels + 1, value => do (← items? value).mapM (word? held levels)

def operation? (held : Bool) : Nat → Json → Option Operation
  | 0, _ => none
  | levels + 1, value =>
      node? "op" held (levels + 1) value fun (kind : OperationKind) rest => do
        match kind with
        | .length => (fields? [] rest).map fun _ => .length
        | .indirect => (fields? [] rest).map fun _ => .indirect
        | .slice =>
            match ← fields? ["offset", "length"] rest with
            | [offset, bound] =>
                return .slice (← required (arith? true levels) offset)
                  (← optional (arith? true levels) bound)
            | _ => none
        | .replace =>
            match ← fields? ["pattern", "replacement", "all"] rest with
            | [pattern, replacement, all] =>
                return .replace (← required (word? true levels) pattern)
                  (← defaulted [] (word? true levels) replacement) (← defaulted false bool? all)
            | _ => none
        | .default =>
            match ← fields? ["word", "check_empty"] rest with
            | [word, checkEmpty] =>
                return .default (← required (word? true levels) word)
                  (← defaulted false bool? checkEmpty)
            | _ => none
        | .alternate =>
            match ← fields? ["word", "check_empty"] rest with
            | [word, checkEmpty] =>
                return .alternate (← required (word? true levels) word)
                  (← defaulted false bool? checkEmpty)
            | _ => none
        | .modifyCase =>
            match ← fields? ["direction", "all"] rest with
            | [direction, all] =>
                return .modifyCase (← required (name? true levels) direction)
                  (← defaulted false bool? all)
            | _ => none
        | .width => (fields? [] rest).map fun _ => .width
        | .index =>
            match ← fields? ["index"] rest with
            | [expression] => return .index (← required (arith? true levels) expression)
            | _ => none

def arith? (held : Bool) : Nat → Json → Option Arith
  | 0, _ => none
  | levels + 1, value =>
      node? "type" held (levels + 1) value fun (kind : ArithKind) rest => do
        match kind with
        | .word =>
            match ← fields? ["word"] rest with
            | [word] => return .word (← required (word? true levels) word)
            | _ => none
        | .paren =>
            match ← fields? ["expression"] rest with
            | [expression] => return .paren (← required (arith? true levels) expression)
            | _ => none
        | .unary =>
            match ← fields? ["operator", "operand", "postfix"] rest with
            | [operator, operand, isPostfix] =>
                return .unary (← required (name? true levels) operator)
                  (← required (arith? true levels) operand) (← defaulted false bool? isPostfix)
            | _ => none
        | .binary =>
            match ← fields? ["operator", "left", "right"] rest with
            | [operator, left, right] =>
                return .binary (← required (name? true levels) operator)
                  (← required (arith? true levels) left) (← required (arith? true levels) right)
            | _ => none

def expressions? (held : Bool) : Nat → Json → Option (List Arith)
  | 0, _ => none
  | levels + 1, value => do (← items? value).mapM (arith? held levels)

def assignment? (held : Bool) : Nat → Json → Option Assignment
  | 0, _ => none
  | levels + 1, value => do
      match ← fields? ["name", "value"] value with
      | [name, word] =>
          return ⟨← required string? name, ← defaulted [] (word? held levels) word⟩
      | _ => none

def assignments? (held : Bool) : Nat → Json → Option (List Assignment)
  | 0, _ => none
  | levels + 1, value => do (← items? value).mapM (assignment? held levels)

def redirection? (held : Bool) : Nat → Json → Option Redirection
  | 0, _ => none
  | levels + 1, value => do
      match ← fields? ["fd", "operator", "target"] value with
      | [descriptor, operator, target] =>
          return ⟨← optional int32? descriptor, ← required (name? held levels) operator,
            ← required (word? held levels) target⟩
      | _ => none

def redirections? (held : Bool) : Nat → Json → Option (List Redirection)
  | 0, _ => none
  | levels + 1, value => do (← items? value).mapM (redirection? held levels)

def caseItem? (held : Bool) : Nat → Json → Option CaseItem
  | 0, _ => none
  | levels + 1, value => do
      match ← fields? ["patterns", "body"] value with
      | [patterns, body] =>
          return ⟨← required (words? held levels) patterns,
            ← required (statements? held levels) body⟩
      | _ => none

def caseItems? (held : Bool) : Nat → Json → Option (List CaseItem)
  | 0, _ => none
  | levels + 1, value => do (← items? value).mapM (caseItem? held levels)

def script? (held : Bool) : Nat → Json → Option (List Statement)
  | 0, _ => none
  | levels + 1, value => do
      match ← fields? ["statements"] value with
      | [statements] => required (statements? held levels) statements
      | _ => none

def statements? (held : Bool) : Nat → Json → Option (List Statement)
  | 0, _ => none
  | levels + 1, value => do (← items? value).mapM (statement? held levels)

def statement? (held : Bool) : Nat → Json → Option Statement
  | 0, _ => none
  | levels + 1, value => do
      match ← fields? ["command", "negated", "background", "coprocess", "redirections"] value with
      | [command, negated, background, coprocess, redirections] =>
          return ⟨← optional (command? held levels) command, ← defaulted false bool? negated,
            ← defaulted false bool? background, ← defaulted false bool? coprocess,
            ← defaulted [] (redirections? held levels) redirections⟩
      | _ => none

def command? (held : Bool) : Nat → Json → Option Command
  | 0, _ => none
  | levels + 1, value =>
      node? "type" held (levels + 1) value fun (kind : CommandKind) rest => do
        match kind with
        | .call =>
            match ← fields? ["assignments", "args"] rest with
            | [assignments, arguments] =>
                return .call (← defaulted [] (assignments? true levels) assignments)
                  (← defaulted [] (words? true levels) arguments)
            | _ => none
        | .arithmetic =>
            match ← fields? ["expression"] rest with
            | [expression] => return .arithmetic (← required (arith? true levels) expression)
            | _ => none
        | .binary =>
            match ← fields? ["operator", "left", "right"] rest with
            | [operator, left, right] =>
                return .binary (← required (name? true levels) operator)
                  (← required (statement? true levels) left)
                  (← required (statement? true levels) right)
            | _ => none
        | .block =>
            match ← fields? ["statements"] rest with
            | [statements] => return .block (← required (statements? true levels) statements)
            | _ => none
        | .choice =>
            match ← fields? ["word", "items"] rest with
            | [word, items] =>
                return .choice (← required (word? true levels) word)
                  (← required (caseItems? true levels) items)
            | _ => none
        | .coproc =>
            match ← fields? ["name", "body"] rest with
            | [name, body] =>
                return .coproc (← optional string? name) (← required (statement? true levels) body)
            | _ => none
        | .declare =>
            match ← fields? ["variant", "args"] rest with
            | [variant, arguments] =>
                return .declare (← required string? variant)
                  (← defaulted [] (words? true levels) arguments)
            | _ => none
        | .forLoop =>
            match ← fields? ["variable", "words", "body"] rest with
            | [name, words, body] =>
                return .forLoop (← required string? name) (← optional (words? true levels) words)
                  (← required (statements? true levels) body)
            | _ => none
        | .function =>
            match ← fields? ["name", "body"] rest with
            | [name, body] =>
                return .function (← required string? name)
                  (← required (statement? true levels) body)
            | _ => none
        | .conditional =>
            match ← fields? ["condition", "then_body", "else_body"] rest with
            | [condition, thenBody, elseBody] =>
                return .conditional (← required (statements? true levels) condition)
                  (← required (statements? true levels) thenBody)
                  (← optional (statements? true levels) elseBody)
            | _ => none
        | .letAll =>
            match ← fields? ["expressions"] rest with
            | [expressions] => return .letAll (← required (expressions? true levels) expressions)
            | _ => none
        | .subshell =>
            match ← fields? ["statements"] rest with
            | [statements] => return .subshell (← required (statements? true levels) statements)
            | _ => none
        | .test =>
            match ← fields? ["words"] rest with
            | [words] => return .test (← required (words? true levels) words)
            | _ => none
        | .timed =>
            match ← fields? ["posix", "statement"] rest with
            | [posix, statement] =>
                return .timed (← defaulted false bool? posix)
                  (← optional (statement? true levels) statement)
            | _ => none
        | .whileLoop =>
            match ← fields? ["condition", "body", "until"] rest with
            | [condition, body, isUntil] =>
                return .whileLoop (← required (statements? true levels) condition)
                  (← required (statements? true levels) body) (← defaulted false bool? isUntil)
            | _ => none

end

/-- Read a parameter expansion that stands without a tag. -/
def parameter? (held : Bool) : Nat → Json → Option Part
  | 0, _ => none
  | levels + 1, value => do
      match ← fields? ["parameter", "operation"] value with
      | [name, operation] =>
          return .parameter (← required string? name)
            (← optional (operation? held levels) operation)
      | _ => none

/-- How deep the arrays and objects of a text may nest. -/
def textLevels : Nat :=
  127

/-- Read a tree that stands inside a larger value. -/
def ofJson? {α : Type} (read : Bool → Nat → Json → Option α) (value : Json) : Option α :=
  read false value.depth value

def ofText? {α : Type} (read : Bool → Nat → Json → Option α) (text : String) : Option α :=
  (Json.ofText? text).bind (read false textLevels)

end ShellTree.Reader
