import ShellTree.Text.Decimal
import ShellTree.Tree.Basic

/-!
# Trees as shell text

A statement is shown on one line, for traces and messages.  The text is meant to
be read, not to be parsed again: commands other than calls are only named.
-/

namespace ShellTree

def LetterCase.mark : LetterCase → Bool → String
  | .upper, false => "^"
  | .upper, true => "^^"
  | .lower, false => ","
  | .lower, true => ",,"

def Flow.opening : Flow → String
  | .input => "<("
  | .output => ">("

def braced (text : String) : String :=
  "$\x7b" ++ text ++ "\x7d"

mutual

def Part.render : Part → String
  | .literal value => value
  | .singleQuoted value => "'" ++ value ++ "'"
  | .doubleQuoted parts => "\"" ++ renderWord parts ++ "\""
  | .parameter name none => "$" ++ name
  | .parameter name (some operation) => braced (operation.render name)
  | .arithmetic expression => "$((" ++ expression.render ++ "))"
  | .substitution body => "$(" ++ "; ".intercalate (renderStatements body) ++ ")"
  | .brace items => "\x7b" ++ ",".intercalate (renderWords items) ++ "\x7d"
  | .extGlob operator pattern => operator.toString ++ "(" ++ pattern ++ ")"
  | .process body direction =>
      direction.opening ++ "; ".intercalate (renderStatements body) ++ ")"

def renderWord : List Part → String
  | [] => ""
  | part :: rest => part.render ++ renderWord rest

def renderWords : List (List Part) → List String
  | [] => []
  | word :: rest => renderWord word :: renderWords rest

/-- The inside of a braced expansion of the named parameter. -/
def Operation.render (name : String) : Operation → String
  | .length => "#" ++ name
  | .indirect => "!" ++ name
  | .slice offset none => name ++ ":" ++ offset.render
  | .slice offset (some bound) => name ++ ":" ++ offset.render ++ ":" ++ bound.render
  | .replace pattern replacement all =>
      name ++ (if all then "//" else "/") ++ renderWord pattern ++ "/" ++ renderWord replacement
  | .default word checkEmpty => name ++ (if checkEmpty then ":-" else "-") ++ renderWord word
  | .alternate word checkEmpty => name ++ (if checkEmpty then ":+" else "+") ++ renderWord word
  | .modifyCase direction all => name ++ direction.mark all
  | .width => "%" ++ name
  | .index expression => name ++ "[" ++ expression.render ++ "]"

def Arith.render : Arith → String
  | .word parts => renderWord parts
  | .paren expression => "(" ++ expression.render ++ ")"
  | .unary operator operand isPostfix =>
      if isPostfix then operand.render ++ operator.symbol else operator.symbol ++ operand.render
  | .binary operator left right =>
      left.render ++ (if operator = .comma then ", " else " " ++ operator.symbol ++ " ") ++
        right.render

def renderAssignments : List Assignment → List String
  | [] => []
  | ⟨name, value⟩ :: rest => (name ++ "=" ++ renderWord value) :: renderAssignments rest

def Redirection.render : Redirection → String
  | ⟨descriptor, operator, target⟩ =>
      (match descriptor with
        | some number => Decimal.text number.toInt
        | none => "") ++ operator.symbol ++ renderWord target

/-- The redirections of a statement, each after a blank. -/
def renderRedirections : List Redirection → String
  | [] => ""
  | redirection :: rest => " " ++ redirection.render ++ renderRedirections rest

/-- A command as shell text; only calls are spelled out. -/
def Command.render : Command → String
  | .call assignments arguments =>
      " ".intercalate (renderAssignments assignments ++ renderWords arguments)
  | other => "UNIMPLEMENTED(" ++ other.kind.title ++ ")"

def Statement.render : Statement → String
  | ⟨command, negated, background, coprocess, redirections⟩ =>
      (if coprocess then "coproc " else "") ++ (if negated then "! " else "") ++
        (match command with
          | some command => command.render
          | none => "") ++
        renderRedirections redirections ++ (if background then " &" else "")

def renderStatements : List Statement → List String
  | [] => []
  | statement :: rest => statement.render :: renderStatements rest

end

end ShellTree
