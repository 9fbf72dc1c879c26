import ShellTree.Json.Basic
import ShellTree.Vocabulary

/-!
# Reading records and variants

A record is given as an object, by the names of its fields, or as an array, by
their order.  A node with variants is given as an object that has its tag among
the members, or as an array that starts with the tag.

Nesting is counted while reading: a value may only be read as an array or an
object while levels are left.  A tagged node is taken in whole before its fields
are read, so everything below it, even what will be ignored, has to be readable
and to fit into the levels that are left.  Below such a node, which is then
called *held*, a tag may also be given by its position, and a name may also be
an object with an empty object under it.
-/

namespace ShellTree.Json

/-- The member with the given name; it must not be repeated. -/
def member? (name : String) (members : List (String × Json)) : Option (Option Json) :=
  match members.filter (·.1 == name) with
  | [] => some none
  | [(_, value)] => some (some value)
  | _ => none

/-- The values of the named fields, as far as they are given. -/
def fields? (names : List String) : Json → Option (List (Option Json))
  | .object members => names.mapM fun name => member? name members
  | .array items =>
      if items.length ≤ names.length then
        some (items.map some ++ List.replicate (names.length - items.length) none)
      else none
  | _ => none

def tagged? (tag : String) : Json → Option (Json × Json)
  | .object members =>
      (member? tag members).bind fun found =>
        found.map fun value => (value, .object (members.filter (·.1 != tag)))
  | .array (value :: rest) => some (value, .array rest)
  | _ => none

def items? : Json → Option (List Json)
  | .array items => some items
  | _ => none

def required {α : Type} (read : Json → Option α) (field : Option Json) : Option α :=
  field.bind read

def defaulted {α : Type} (value : α) (read : Json → Option α) : Option Json → Option α
  | none => some value
  | some given => read given

/-- A field that may be left out or be `null`. -/
def optional {α : Type} (read : Json → Option α) : Option Json → Option (Option α)
  | none => some none
  | some .null => some none
  | some given => (read given).map some

def bool? : Json → Option Bool
  | .bool value => some value
  | _ => none

def string? : Json → Option String
  | .string value => some value
  | _ => none

/-- A text of exactly one character. -/
def char? : Json → Option Char
  | .string value =>
      match value.toList with
      | [char] => some char
      | _ => none
  | _ => none

def int32? : Json → Option Int32
  | .number value => do
      let number ← value.toInt?
      if Int32.minValue.toInt ≤ number ∧ number ≤ Int32.maxValue.toInt then
        some (Int32.ofInt number)
      else none
  | _ => none

/-- A tag: a name, or below a held node also a position. -/
def tag? {α : Type} [Vocabulary α] (held : Bool) : Json → Option α
  | .string name => Vocabulary.ofName? name
  | .number (.integer false position) => if held then Vocabulary.ofPosition? position else none
  | _ => none

/-- A member of a vocabulary: its name, or an object with that name and nothing under it. -/
def name? {α : Type} [Vocabulary α] (held : Bool) (levels : Nat) : Json → Option α
  | .string name => Vocabulary.ofName? name
  | .object [(name, .null)] => if levels = 0 then none else Vocabulary.ofName? name
  | .object [(name, .object [])] =>
      if held = true ∧ 0 < levels then Vocabulary.ofName? name else none
  | _ => none

/-- Whether a tagged node can be taken in whole. -/
def holds (held : Bool) (levels : Nat) (value : Json) : Bool :=
  held || (value.readable && value.depth ≤ levels)

/-- Read a tagged node: take it in whole, then read the fields of its kind. -/
def node? {κ α : Type} [Vocabulary κ] (tag : String) (held : Bool) (levels : Nat) (value : Json)
    (fields : κ → Json → Option α) : Option α := do
  guard (holds held levels value)
  let (kind, rest) ← tagged? tag value
  fields (← tag? held kind) rest

end ShellTree.Json
