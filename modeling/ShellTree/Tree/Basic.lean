import ShellTree.Tree.Operator

/-!
# Statement trees

A script is a list of statements.  A statement holds at most one command, and
the commands, words, parameter operations and arithmetic expressions below it
refer to each other, so all of them form one mutual family.  A word is the list
of its parts.
-/

namespace ShellTree

mutual

inductive Part where
  | literal (value : String)
  | singleQuoted (value : String)
  | doubleQuoted (parts : List Part)
  | parameter (name : String) (operation : Option Operation)
  | arithmetic (expression : Arith)
  | substitution (body : List Statement)
  | brace (items : List (List Part))
  | extGlob (operator : Char) (pattern : String)
  | process (body : List Statement) (direction : Flow)

/-- What is done to the value of a parameter. -/
inductive Operation where
  | length
  | indirect
  | slice (offset : Arith) (bound : Option Arith)
  | replace (pattern replacement : List Part) (all : Bool)
  | default (word : List Part) (checkEmpty : Bool)
  | alternate (word : List Part) (checkEmpty : Bool)
  | modifyCase (direction : LetterCase) (all : Bool)
  | width
  | index (expression : Arith)

/-- An arithmetic expression; its leaves are words. -/
inductive Arith where
  | word (parts : List Part)
  | paren (expression : Arith)
  | unary (operator : UnaryOperator) (operand : Arith) (isPostfix : Bool)
  | binary (operator : BinaryOperator) (left right : Arith)

structure Assignment where
  name : String
  value : List Part := []

structure Redirection where
  descriptor : Option Int32 := none
  operator : RedirectionOperator
  target : List Part

structure CaseItem where
  patterns : List (List Part)
  body : List Statement

/-- A statement: a command, if there is one, and how it is to be run. -/
structure Statement where
  command : Option Command := none
  negated : Bool := false
  background : Bool := false
  coprocess : Bool := false
  redirections : List Redirection := []

/-- A command.  Only calls are executed; the other kinds are carried as data. -/
inductive Command where
  | call (assignments : List Assignment) (arguments : List (List Part))
  | arithmetic (expression : Arith)
  | binary (operator : Connective) (left right : Statement)
  | block (statements : List Statement)
  | choice (word : List Part) (items : List CaseItem)
  | coproc (name : Option String) (body : Statement)
  | declare (variant : String) (arguments : List (List Part))
  | forLoop (name : String) (words : Option (List (List Part))) (body : List Statement)
  | function (name : String) (body : Statement)
  | conditional (condition thenBody : List Statement) (elseBody : Option (List Statement))
  | letAll (expressions : List Arith)
  | subshell (statements : List Statement)
  | test (words : List (List Part))
  | timed (posix : Bool) (statement : Option Statement)
  | whileLoop (condition body : List Statement) (isUntil : Bool)

end

abbrev Word := List Part

abbrev Script := List Statement

inductive CommandKind where
  | call
  | arithmetic
  | binary
  | block
  | choice
  | coproc
  | declare
  | forLoop
  | function
  | conditional
  | letAll
  | subshell
  | test
  | timed
  | whileLoop
  deriving DecidableEq

inductive PartKind where
  | literal
  | singleQuoted
  | doubleQuoted
  | parameter
  | arithmetic
  | substitution
  | brace
  | extGlob
  | process
  deriving DecidableEq

inductive OperationKind where
  | length
  | indirect
  | slice
  | replace
  | default
  | alternate
  | modifyCase
  | width
  | index
  deriving DecidableEq

inductive ArithKind where
  | word
  | paren
  | unary
  | binary
  deriving DecidableEq

instance : Vocabulary CommandKind where
  members :=
    [.call, .arithmetic, .binary, .block, .choice, .coproc, .declare, .forLoop, .function,
      .conditional, .letAll, .subshell, .test, .timed, .whileLoop]
  name
    | .call => "call"
    | .arithmetic => "arithmetic"
    | .binary => "binary"
    | .block => "block"
    | .choice => "case"
    | .coproc => "coproc"
    | .declare => "declare"
    | .forLoop => "for"
    | .function => "function"
    | .conditional => "if"
    | .letAll => "let"
    | .subshell => "subshell"
    | .test => "test"
    | .timed => "time"
    | .whileLoop => "while"

instance : Vocabulary PartKind where
  members :=
    [.literal, .singleQuoted, .doubleQuoted, .parameter, .arithmetic, .substitution, .brace,
      .extGlob, .process]
  name
    | .literal => "literal"
    | .singleQuoted => "single_quoted"
    | .doubleQuoted => "double_quoted"
    | .parameter => "parameter_expansion"
    | .arithmetic => "arithmetic_expansion"
    | .substitution => "command_substitution"
    | .brace => "brace_expansion"
    | .extGlob => "ext_glob"
    | .process => "process_substitution"

instance : Vocabulary OperationKind where
  members :=
    [.length, .indirect, .slice, .replace, .default, .alternate, .modifyCase, .width, .index]
  name
    | .length => "length"
    | .indirect => "indirect"
    | .slice => "slice"
    | .replace => "replace"
    | .default => "default"
    | .alternate => "alternate"
    | .modifyCase => "case_modification"
    | .width => "width"
    | .index => "index"

instance : Vocabulary ArithKind where
  members := [.word, .paren, .unary, .binary]
  name
    | .word => "word"
    | .paren => "paren"
    | .unary => "unary"
    | .binary => "binary"

def Command.kind : Command → CommandKind
  | .call .. => .call
  | .arithmetic .. => .arithmetic
  | .binary .. => .binary
  | .block .. => .block
  | .choice .. => .choice
  | .coproc .. => .coproc
  | .declare .. => .declare
  | .forLoop .. => .forLoop
  | .function .. => .function
  | .conditional .. => .conditional
  | .letAll .. => .letAll
  | .subshell .. => .subshell
  | .test .. => .test
  | .timed .. => .timed
  | .whileLoop .. => .whileLoop

/-- The name of a command kind in messages and in shell text. -/
def CommandKind.title : CommandKind → String
  | .arithmetic => "arithmetic command"
  | .binary => "binary command"
  | kind => Vocabulary.name kind

end ShellTree
