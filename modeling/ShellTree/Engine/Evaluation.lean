import ShellTree.Arithmetic.Operand
import ShellTree.Arithmetic.Operator
import ShellTree.Parameter.Slice
import ShellTree.Program.Basic
import ShellTree.Text.Case.Basic
import ShellTree.Text.Replacement
import ShellTree.Tree.Render

/-!
# Evaluation

Words are expanded to texts, arithmetic expressions are evaluated to integers and
statements are executed to statuses.  A word can hold an arithmetic expression or
a command substitution, so all of this is one recursion over the tree.

Each call has a scope of its own: neither its assignments nor what the program
binds outlives it.  A command substitution has a scope and a standard output of
its own.
-/

namespace ShellTree

/-- What stays the same during evaluation: the options and the known programs. -/
structure Engine (ε : Type) where
  options : Options := {}
  registry : Registry ε := {}

def stripNewlines (text : String) : String :=
  String.ofList (text.toList.reverse.dropWhile (· == '\n')).reverse

def negateStatus (status : Status) : Status :=
  if status = 0 then 1 else 0

namespace Engine

variable {ε : Type} [Store ε]

def invoke (engine : Engine ε) : List String → Action ε Status
  | [] => throw .missingCommand
  | name :: arguments =>
      match engine.registry.get? name with
      | some program => program.run arguments
      | none => throw (.commandNotFound name)

/-- The value that the value of a name refers to. -/
def indirect (store : ε) (name : String) : Except Failure String :=
  match Store.get? store name with
  | some target => .ok (Store.get store target)
  | none => .error (.invalidIndirection name)

/-- Change the variable that the text of an operand names, and give its new value,
or its old value if the operator stands behind it. -/
def update (operator : UnaryOperator) (isPostfix : Bool) (text : String) : Action ε Int64 := do
  match ← Action.ofExcept (Operand.resolve (← Action.store) text) with
  | .named name old =>
      let new := operator.apply old
      Action.set name (Decimal.text new.toInt)
      return if isPostfix then old else new
  | .literal _ => throw (.notAVariable text)

mutual

def expandPart (engine : Engine ε) : Part → Action ε String
  | .literal value => return value
  | .singleQuoted value => return value
  | .doubleQuoted parts => expandWord engine parts
  | .parameter name none => return Store.get (← Action.store) name
  | .parameter name (some operation) => expandOperation engine name operation
  | .arithmetic expression => return Decimal.text (← evaluate engine expression).toInt
  | .substitution body =>
      return stripNewlines (← Action.captured (Action.inScope (executeAll engine body)))
  | .brace _ => throw (.unsupported .braceExpansion)
  | .extGlob .. => throw (.unsupported .extendedGlob)
  | .process .. => throw (.unsupported .processSubstitution)

def expandWord (engine : Engine ε) : List Part → Action ε String
  | [] => return ""
  | part :: rest => do
      let first ← expandPart engine part
      return first ++ (← expandWord engine rest)

def expandWords (engine : Engine ε) : List (List Part) → Action ε (List String)
  | [] => return []
  | word :: rest => do
      let first ← expandWord engine word
      return first :: (← expandWords engine rest)

/-- The text of a parameter with an operation.  The value is read before the words
and expressions of the operation, which may change it. -/
def expandOperation (engine : Engine ε) (name : String) : Operation → Action ε String
  | .length => return Decimal.text (Store.get (← Action.store) name).length
  | .indirect => do Action.ofExcept (indirect (← Action.store) name)
  | .slice offset none => do
      let value := Store.get (← Action.store) name
      let start ← evaluate engine offset
      Action.ofExcept (slice engine.options.sliceMode value start none)
  | .slice offset (some bound) => do
      let value := Store.get (← Action.store) name
      let start ← evaluate engine offset
      let stop ← evaluate engine bound
      Action.ofExcept (slice engine.options.sliceMode value start (some stop))
  | .replace pattern replacement all => do
      let value := Store.get (← Action.store) name
      let pattern ← expandWord engine pattern
      let replacement ← expandWord engine replacement
      return Text.replace pattern replacement value all
  | .default word checkEmpty => do
      let store ← Action.store
      if Store.lacks store name checkEmpty then expandWord engine word
      else return Store.get store name
  | .alternate word checkEmpty => do
      if Store.lacks (← Action.store) name checkEmpty then return ""
      else expandWord engine word
  | .modifyCase direction all =>
      return Text.modifyCase direction all (Store.get (← Action.store) name)
  | .width => throw (.unsupported .widthExpansion)
  | .index _ => throw (.unsupported .indexedExpansion)

def evaluate (engine : Engine ε) : Arith → Action ε Int64
  | .word parts => do
      let text ← expandWord engine parts
      return (← Action.ofExcept (Operand.resolve (← Action.store) text)).value
  | .paren expression => evaluate engine expression
  | .unary operator operand isPostfix =>
      if operator.assigns then updateOperand engine operator isPostfix operand
      else do return operator.apply (← evaluate engine operand)
  | .binary operator left right => do
      let first ← evaluate engine left
      match operator.decided? first with
      | some value => return value
      | none => do Action.ofExcept (operator.apply first (← evaluate engine right))

/-- Change the variable that an operand names; it has to be a word. -/
def updateOperand (engine : Engine ε) (operator : UnaryOperator) (isPostfix : Bool) :
    Arith → Action ε Int64
  | .word parts => do update operator isPostfix (← expandWord engine parts)
  | other => throw (.notAVariable other.render)

/-- Expand and bind the assignments of a call, each before the next. -/
def assign (engine : Engine ε) : List Assignment → Action ε Unit
  | [] => return ()
  | ⟨name, word⟩ :: rest => do
      Action.set name (← expandWord engine word)
      assign engine rest

/-- Execute a statement and give its status.  A statement that is to run beside
the script is skipped. -/
def execute (engine : Engine ε) : Statement → Action ε Status
  | ⟨none, _, _, _, _⟩ => return 0
  | ⟨some command, negated, background, coprocess, redirections⟩ =>
      if background || coprocess then do
        Action.warn (.skipped command.kind background coprocess)
        return 0
      else if !redirections.isEmpty then throw (.unsupported .redirection)
      else do
        let status ← executeCommand engine command
        return if negated then negateStatus status else status

/-- Execute a command and give its status.  Only calls are executed. -/
def executeCommand (engine : Engine ε) : Command → Action ε Status
  | .call assignments arguments =>
      Action.inScope do
        assign engine assignments
        invoke engine (← expandWords engine arguments)
  | other => throw (.unsupported (.command other.kind))

def executeAll (engine : Engine ε) : List Statement → Action ε Unit
  | [] => return ()
  | statement :: rest => do
      let _ ← execute engine statement
      executeAll engine rest

end

end Engine

end ShellTree
