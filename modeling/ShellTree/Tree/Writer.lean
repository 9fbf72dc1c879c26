import ShellTree.Json.Basic
import ShellTree.Tree.Basic

/-!
# Trees as JSON values

A record is an object with all its fields in order.  A node that has variants
is an object whose first member is the tag, followed by the fields of the
variant.  Absent options are `null`.
-/

namespace ShellTree

def Json.ofName {α : Type} [Vocabulary α] (member : α) : Json :=
  .string (Vocabulary.name member)

/-- A node with variants: the tag, then the fields. -/
def Json.node {α : Type} [Vocabulary α] (tag : String) (kind : α)
    (fields : List (String × Json)) : Json :=
  .object ((tag, .ofName kind) :: fields)

def Json.ofText : Option String → Json
  | none => .null
  | some text => .string text

def Json.ofDescriptor : Option Int32 → Json
  | none => .null
  | some descriptor => .ofInt descriptor.toInt

def Json.ofParts (parts : List Json) : Json :=
  .object [("parts", .array parts)]

def Json.ofStatements (statements : List Json) : Json :=
  .object [("statements", .array statements)]

mutual

def Part.toJson : Part → Json
  | .literal value => .node "type" PartKind.literal [("value", .string value)]
  | .singleQuoted value => .node "type" PartKind.singleQuoted [("value", .string value)]
  | .doubleQuoted parts => .node "type" PartKind.doubleQuoted [("parts", .array (partsJson parts))]
  | .parameter name operation =>
      .node "type" PartKind.parameter
        [("parameter", .string name), ("operation", operationJson operation)]
  | .arithmetic expression =>
      .node "type" PartKind.arithmetic [("expression", expression.toJson)]
  | .substitution body =>
      .node "type" PartKind.substitution [("body", .ofStatements (statementsJson body))]
  | .brace items => .node "type" PartKind.brace [("items", .array (wordsJson items))]
  | .extGlob operator pattern =>
      .node "type" PartKind.extGlob
        [("operator", .string operator.toString), ("pattern", .string pattern)]
  | .process body direction =>
      .node "type" PartKind.process
        [("body", .ofStatements (statementsJson body)), ("direction", .ofName direction)]

def partsJson : List Part → List Json
  | [] => []
  | part :: rest => part.toJson :: partsJson rest

def wordsJson : List (List Part) → List Json
  | [] => []
  | word :: rest => .ofParts (partsJson word) :: wordsJson rest

def operationJson : Option Operation → Json
  | none => .null
  | some operation => operation.toJson

def Operation.toJson : Operation → Json
  | .length => .node "op" OperationKind.length []
  | .indirect => .node "op" OperationKind.indirect []
  | .slice offset bound =>
      .node "op" OperationKind.slice [("offset", offset.toJson), ("length", boundJson bound)]
  | .replace pattern replacement all =>
      .node "op" OperationKind.replace
        [("pattern", .ofParts (partsJson pattern)),
          ("replacement", .ofParts (partsJson replacement)), ("all", .bool all)]
  | .default word checkEmpty =>
      .node "op" OperationKind.default
        [("word", .ofParts (partsJson word)), ("check_empty", .bool checkEmpty)]
  | .alternate word checkEmpty =>
      .node "op" OperationKind.alternate
        [("word", .ofParts (partsJson word)), ("check_empty", .bool checkEmpty)]
  | .modifyCase direction all =>
      .node "op" OperationKind.modifyCase [("direction", .ofName direction), ("all", .bool all)]
  | .width => .node "op" OperationKind.width []
  | .index expression => .node "op" OperationKind.index [("index", expression.toJson)]

def boundJson : Option Arith → Json
  | none => .null
  | some expression => expression.toJson

def Arith.toJson : Arith → Json
  | .word parts => .node "type" ArithKind.word [("word", .ofParts (partsJson parts))]
  | .paren expression => .node "type" ArithKind.paren [("expression", expression.toJson)]
  | .unary operator operand isPostfix =>
      .node "type" ArithKind.unary
        [("operator", .ofName operator), ("operand", operand.toJson), ("postfix", .bool isPostfix)]
  | .binary operator left right =>
      .node "type" ArithKind.binary
        [("operator", .ofName operator), ("left", left.toJson), ("right", right.toJson)]

def expressionsJson : List Arith → List Json
  | [] => []
  | expression :: rest => expression.toJson :: expressionsJson rest

def Assignment.toJson : Assignment → Json
  | ⟨name, value⟩ => .object [("name", .string name), ("value", .ofParts (partsJson value))]

def assignmentsJson : List Assignment → List Json
  | [] => []
  | assignment :: rest => assignment.toJson :: assignmentsJson rest

def Redirection.toJson : Redirection → Json
  | ⟨descriptor, operator, target⟩ =>
      .object [("fd", .ofDescriptor descriptor), ("operator", .ofName operator),
        ("target", .ofParts (partsJson target))]

def redirectionsJson : List Redirection → List Json
  | [] => []
  | redirection :: rest => redirection.toJson :: redirectionsJson rest

def caseItemsJson : List CaseItem → List Json
  | [] => []
  | ⟨patterns, body⟩ :: rest =>
      .object [("patterns", .array (wordsJson patterns)), ("body", .array (statementsJson body))] ::
        caseItemsJson rest

def statementsJson : List Statement → List Json
  | [] => []
  | statement :: rest => statement.toJson :: statementsJson rest

def Statement.toJson : Statement → Json
  | ⟨command, negated, background, coprocess, redirections⟩ =>
      .object [("command", commandJson command), ("negated", .bool negated),
        ("background", .bool background), ("coprocess", .bool coprocess),
        ("redirections", .array (redirectionsJson redirections))]

def optionalStatementJson : Option Statement → Json
  | none => .null
  | some statement => statement.toJson

def optionalStatementsJson : Option (List Statement) → Json
  | none => .null
  | some statements => .array (statementsJson statements)

def optionalWordsJson : Option (List (List Part)) → Json
  | none => .null
  | some words => .array (wordsJson words)

def commandJson : Option Command → Json
  | none => .null
  | some command => command.toJson

def Command.toJson : Command → Json
  | .call assignments arguments =>
      .node "type" CommandKind.call
        [("assignments", .array (assignmentsJson assignments)),
          ("args", .array (wordsJson arguments))]
  | .arithmetic expression =>
      .node "type" CommandKind.arithmetic [("expression", expression.toJson)]
  | .binary operator left right =>
      .node "type" CommandKind.binary
        [("operator", .ofName operator), ("left", left.toJson), ("right", right.toJson)]
  | .block statements =>
      .node "type" CommandKind.block [("statements", .array (statementsJson statements))]
  | .choice word items =>
      .node "type" CommandKind.choice
        [("word", .ofParts (partsJson word)), ("items", .array (caseItemsJson items))]
  | .coproc name body =>
      .node "type" CommandKind.coproc [("name", .ofText name), ("body", body.toJson)]
  | .declare variant arguments =>
      .node "type" CommandKind.declare
        [("variant", .string variant), ("args", .array (wordsJson arguments))]
  | .forLoop name words body =>
      .node "type" CommandKind.forLoop
        [("variable", .string name), ("words", optionalWordsJson words),
          ("body", .array (statementsJson body))]
  | .function name body =>
      .node "type" CommandKind.function [("name", .string name), ("body", body.toJson)]
  | .conditional condition thenBody elseBody =>
      .node "type" CommandKind.conditional
        [("condition", .array (statementsJson condition)),
          ("then_body", .array (statementsJson thenBody)),
          ("else_body", optionalStatementsJson elseBody)]
  | .letAll expressions =>
      .node "type" CommandKind.letAll [("expressions", .array (expressionsJson expressions))]
  | .subshell statements =>
      .node "type" CommandKind.subshell [("statements", .array (statementsJson statements))]
  | .test words => .node "type" CommandKind.test [("words", .array (wordsJson words))]
  | .timed posix statement =>
      .node "type" CommandKind.timed
        [("posix", .bool posix), ("statement", optionalStatementJson statement)]
  | .whileLoop condition body isUntil =>
      .node "type" CommandKind.whileLoop
        [("condition", .array (statementsJson condition)), ("body", .array (statementsJson body)),
          ("until", .bool isUntil)]

end

def wordJson (word : Word) : Json :=
  .ofParts (partsJson word)

def scriptJson (script : Script) : Json :=
  .ofStatements (statementsJson script)

end ShellTree
