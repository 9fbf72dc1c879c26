/-!
# Vocabularies

A vocabulary is a finite list of values, each with one written name.  The
operators and node kinds of a tree are vocabularies: a text names a member, and
the place of a member in the list is its position.
-/

namespace ShellTree

/-- The members of a finite type in their fixed order, with their names. -/
class Vocabulary (α : Type) where
  members : List α
  name : α → String

namespace Vocabulary

variable {α : Type} [Vocabulary α]

def ofName? (text : String) : Option α :=
  members.find? fun member => name member == text

def ofPosition? (position : Nat) : Option α :=
  (members : List α)[position]?

end Vocabulary

end ShellTree
