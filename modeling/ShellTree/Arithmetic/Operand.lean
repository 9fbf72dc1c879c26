import ShellTree.Environment.Store
import ShellTree.Failure
import ShellTree.Text.Blank

/-!
# Arithmetic operands

The text of an operand, without the blanks around it, is the name of a variable
or a decimal numeral.  A variable that is unset or blank counts as zero.
-/

namespace ShellTree

/-- Letters, digits and underscores, with no digit first. -/
def isIdentifier : List Char → Bool
  | [] => false
  | first :: rest =>
      (first.isAlpha || first == '_') && rest.all fun char => char.isAlphanum || char == '_'

def readNumber (text : String) : Except Failure Int64 :=
  match Decimal.toInt64? (Text.trim text.toList) with
  | some number => .ok number
  | none => .error (.invalidNumber text)

inductive Operand where
  | named (name : String) (value : Int64)
  | literal (value : Int64)

def Operand.value : Operand → Int64
  | .named _ value => value
  | .literal value => value

def Operand.resolve {ε : Type} [Store ε] (store : ε) (text : String) : Except Failure Operand :=
  let trimmed := Text.trim text.toList
  let name := String.ofList trimmed
  if isIdentifier trimmed then
    let raw := Text.trim (Store.get store name).toList
    if raw.isEmpty then .ok (.named name 0)
    else (readNumber (String.ofList raw)).map (.named name)
  else (readNumber name).map .literal

end ShellTree
