/-!
# Replacement of literal text

Occurrences are taken from the left and do not overlap.  An empty pattern occurs
before each character and at the end.
-/

namespace ShellTree.Text

/-- Replace every occurrence of a pattern with at least one character.  `skip`
counts the characters of the last occurrence that are still to be passed over. -/
def replaceEvery (pattern replacement : List Char) : (skip : Nat) → List Char → List Char
  | _, [] => []
  | skip + 1, _ :: rest => replaceEvery pattern replacement skip rest
  | 0, char :: rest =>
      if pattern.isPrefixOf (char :: rest) then
        replacement ++ replaceEvery pattern replacement (pattern.length - 1) rest
      else char :: replaceEvery pattern replacement 0 rest

/-- Put the replacement before each character and at the end. -/
def interleave (replacement : List Char) : List Char → List Char
  | [] => replacement
  | char :: rest => replacement ++ char :: interleave replacement rest

def replaceFirst (pattern replacement : List Char) : List Char → List Char
  | [] => if pattern.isEmpty then replacement else []
  | char :: rest =>
      if pattern.isPrefixOf (char :: rest) then
        replacement ++ (char :: rest).drop pattern.length
      else char :: replaceFirst pattern replacement rest

def replace (pattern replacement value : String) (all : Bool) : String :=
  String.ofList <|
    if all then
      if pattern.isEmpty then interleave replacement.toList value.toList
      else replaceEvery pattern.toList replacement.toList 0 value.toList
    else replaceFirst pattern.toList replacement.toList value.toList

end ShellTree.Text
