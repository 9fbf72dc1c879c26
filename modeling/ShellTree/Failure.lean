import ShellTree.Stream.Sink
import ShellTree.Text.Decimal
import ShellTree.Tree.Basic

/-!
# Failures and warnings

Why a statement, a word or an expression could not be evaluated, and what is
noted while a script goes on.
-/

namespace ShellTree

/-- What a tree can hold but is not executed. -/
inductive Construct where
  | command (kind : CommandKind)
  | redirection
  | braceExpansion
  | extendedGlob
  | processSubstitution
  | widthExpansion
  | indexedExpansion
  deriving DecidableEq

def Construct.title : Construct → String
  | .command kind => kind.title
  | .redirection => "redirection"
  | .braceExpansion => "brace expansion"
  | .extendedGlob => "extended glob"
  | .processSubstitution => "process substitution"
  | .widthExpansion => "width expansion"
  | .indexedExpansion => "indexed expansion"

inductive Failure where
  | invalidNumber (operand : String)
  | invalidIndirection (name : String)
  | commandNotFound (name : String)
  | missingCommand
  | program (name message : String)
  | sliceOutOfRange (offset bound : Int64) (size : Nat)
  | notAVariable (operand : String)
  | divisionByZero
  | negativeExponent
  | unsupported (construct : Construct)
  | stream (fault : StreamFault)
  deriving DecidableEq

def Failure.message : Failure → String
  | .invalidNumber operand => operand ++ ": invalid number (error token is \"" ++ operand ++ "\")"
  | .invalidIndirection name => name ++ ": invalid indirect expansion"
  | .commandNotFound name => name ++ ": command not found"
  | .missingCommand => "invalid command: no command name"
  | .program name message => name ++ ": " ++ message
  | .sliceOutOfRange offset bound size =>
      Decimal.text offset.toInt ++ ":" ++ Decimal.text bound.toInt ++
        ": substring expression out of range (value has " ++ Decimal.text size ++ " characters)"
  | .notAVariable operand => operand ++ ": attempted assignment to non-variable"
  | .divisionByZero => "division by 0"
  | .negativeExponent => "exponent less than 0"
  | .unsupported construct => construct.title ++ ": not supported"
  | .stream fault => fault.message

inductive Warning where
  | skipped (kind : CommandKind) (background coprocess : Bool)
  | unflushed (cause : Failure)
  | unreported (cause : Failure)
  deriving DecidableEq

def Warning.items : Warning → List (String × String)
  | .skipped kind background coprocess =>
      [("message", "asynchronous statement skipped"), ("command", kind.title),
        ("background", if background then "true" else "false"),
        ("coprocess", if coprocess then "true" else "false")]
  | .unflushed cause =>
      [("message", "failed to flush output streams"), ("error", cause.message)]
  | .unreported cause =>
      [("message", "could not report statement error"), ("error", cause.message)]

end ShellTree
