import ShellTree.Environment.Basic
import ShellTree.Json.Text
import ShellTree.Options
import ShellTree.Toml.Text

/-!
# Settings

The options of a run and its first variables, as a TOML document gives them in the
tables `options` and `env`.
-/

namespace ShellTree

structure Settings where
  options : Options := {}
  bindings : Bindings := {}
  deriving DecidableEq

namespace Toml

/-- The key under which a datetime gives its text when a table is asked for. -/
def datetimeKey : String :=
  "$__toml_private_datetime"

def entriesOf? : Toml → Option Entries
  | .inline _ entries => some entries
  | .table _ entries => some entries
  | .datetime text => some [(datetimeKey, .string text)]
  | _ => none

/-- The values of named fields: by name from a table, and by order from an array, which may
have more items than there are fields. -/
def fields? (names : List String) : Toml → Option (List (Option Toml))
  | .array items => some (names.zipIdx.map fun (_, index) => items[index]?)
  | .tables elements =>
      some (names.zipIdx.map fun (_, index) => elements[index]?.map (.table .header))
  | value => (entriesOf? value).map fun entries => names.map fun name => entries.lookup name

def bool? : Toml → Option Bool
  | .bool value => some value
  | _ => none

def text? : Toml → Option String
  | .string value => some value
  | _ => none

/-- Whether a value is a table or an array with nothing in it. -/
def isEmpty : Toml → Bool
  | .array items => items.isEmpty
  | .inline _ entries => entries.isEmpty
  | .table _ entries => entries.isEmpty
  | .tables elements => elements.isEmpty
  | _ => false

/-- A member of a vocabulary: its name, or a table with that name alone and nothing in
the value under it. -/
def name? {α : Type} [Vocabulary α] : Toml → Option α
  | .string name => Vocabulary.ofName? name
  | .inline _ [(name, value)] => if value.isEmpty then Vocabulary.ofName? name else none
  | .table _ [(name, value)] => if value.isEmpty then Vocabulary.ofName? name else none
  | _ => none

def defaulted {α : Type} (value : α) (read : Toml → Option α) : Option Toml → Option α
  | none => some value
  | some given => read given

end Toml

def Options.ofToml? (value : Toml) : Option Options := do
  match ← value.fields? fieldNames with
  | [exitOnError, printExecuted, sliceMode] =>
      return ⟨← Toml.defaulted false Toml.bool? exitOnError,
        ← Toml.defaulted false Toml.bool? printExecuted,
        ← Toml.defaulted .endIndex Toml.name? sliceMode⟩
  | _ => none

namespace Settings

def bindings? (value : Toml) : Option Bindings := do
  let pairs ← (← value.entriesOf?).mapM fun (name, text) => do return (name, ← text.text?)
  return .ofPairs pairs

def ofToml? (text : String) : Option Settings := do
  let entries ← Toml.ofText? text
  return ⟨← Toml.defaulted {} Options.ofToml? (entries.lookup "options"),
    ← Toml.defaulted {} bindings? (entries.lookup "env")⟩

def toJson (settings : Settings) : Json :=
  .object [("options", settings.options.toJson),
    ("env", .object (settings.bindings.pairs.map fun (name, value) => (name, .string value)))]

def environment (settings : Settings) : Environment :=
  { top := settings.bindings }

end Settings

end ShellTree
