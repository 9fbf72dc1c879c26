import ShellTree.Text.Case.Context
import ShellTree.Text.Case.Lower
import ShellTree.Text.Case.Upper
import ShellTree.Tree.Operator

/-!
# Case mapping

Full case mapping, independent of any language.  It depends on the context in one
place only: a capital sigma at the end of a word is lowered to a final sigma.
-/

namespace ShellTree.Text

def mapChar (expansions : List (Nat × List Nat)) (runs : List Run) (char : Char) : List Char :=
  match expansions.lookup char.toNat with
  | some codes => codes.map Char.ofNat
  | none =>
      match mapCode? runs char.toNat with
      | some code => [Char.ofNat code]
      | none => [char]

def upper (chars : List Char) : List Char :=
  chars.flatMap (mapChar upperExpansions upperRuns)

/-- Whether the first character that is not case-ignorable is cased. -/
def nearestCased (chars : List Char) : Bool :=
  match chars.dropWhile fun char => inRanges ignorableRanges char.toNat with
  | [] => false
  | char :: _ => inRanges casedRanges char.toNat

/-- The lower case of a capital sigma between the characters before it, last
first, and those after it. -/
def lowerSigma (before after : List Char) : Char :=
  if nearestCased before && !nearestCased after then 'ς' else 'σ'

/-- A text in lower case, after the given characters, last first. -/
def lowerAfter (before : List Char) : List Char → List Char
  | [] => []
  | char :: rest =>
      (if char = 'Σ' then [lowerSigma before rest] else mapChar lowerExpansions lowerRuns char) ++
        lowerAfter (char :: before) rest

def lower (chars : List Char) : List Char :=
  lowerAfter [] chars

def toCase : LetterCase → List Char → List Char
  | .upper => upper
  | .lower => lower

/-- Bring the first character, or all characters, to the given case. -/
def modifyCase (direction : LetterCase) (all : Bool) (value : String) : String :=
  String.ofList <|
    if all then toCase direction value.toList
    else match value.toList with
      | [] => []
      | first :: rest => toCase direction [first] ++ rest

end ShellTree.Text
