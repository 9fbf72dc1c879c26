/-!
# TOML documents

A document is a tree of tables.  Where a table came from decides what may be added
to it later: a table made by a header is complete, a table that only stands on the
way to another header may still get a header of its own, and a table made by a
dotted key may grow by dotted keys only.  Inline tables are closed, except for the
tables that dotted keys make inside them.
-/

namespace ShellTree

inductive TableOrigin where
  | header
  | parent
  | dotted
  deriving DecidableEq

/-- A value of a TOML document.  Floats are only checked, not kept. -/
inductive Toml where
  | string (value : String)
  | integer (value : Int)
  | float
  | bool (value : Bool)
  | datetime (text : String)
  | array (items : List Toml)
  | inline (dotted : Bool) (entries : List (String × Toml))
  | table (origin : TableOrigin) (entries : List (String × Toml))
  | tables (elements : List (List (String × Toml)))

namespace Toml

abbrev Entries := List (String × Toml)

def Entries.replace (key : String) (value : Toml) (entries : Entries) : Entries :=
  entries.map fun entry => if entry.1 = key then (key, value) else entry

def Entries.add? (key : String) (value : Toml) (entries : Entries) : Option Entries :=
  match entries.lookup key with
  | none => some (entries ++ [(key, value)])
  | some _ => none

structure Table where
  origin : TableOrigin := .header
  entries : Entries := []

/-- Change the table that a path of keys leads to.  Missing tables on the way are
made, and an array of tables is entered at its last element.  Dotted keys do not
enter a table that has a header. -/
def Table.change {α : Type} (dotted : Bool) (change : Table → Option (α × Table)) :
    List String → Table → Option (α × Table)
  | [], here => change here
  | key :: rest, here =>
      match here.entries.lookup key with
      | none => do
          let (result, child) ←
            Table.change dotted change rest ⟨if dotted then .dotted else .parent, []⟩
          return (result,
            { here with entries := here.entries ++ [(key, .table child.origin child.entries)] })
      | some (.table origin entries) =>
          if dotted && origin == .header then none
          else do
            let (result, child) ← Table.change dotted change rest ⟨origin, entries⟩
            return (result,
              { here with
                entries := Entries.replace key (.table child.origin child.entries) here.entries })
      | some (.tables elements) => do
          let (result, child) ←
            Table.change dotted change rest ⟨.header, ← elements.getLast?⟩
          return (result,
            { here with
              entries :=
                Entries.replace key (.tables (elements.dropLast ++ [child.entries])) here.entries })
      | some _ => none

def Table.set? (path : List String) (key : String) (value : Toml) (here : Table) :
    Option Table := do
  let ((), changed) ← Table.change true (fun target =>
    if (target.origin == .dotted) == path.isEmpty then none
    else do return ((), { target with entries := ← Entries.add? key value target.entries }))
    path here
  return changed

def setInline? (key : String) (value : Toml) : List String → Entries → Option Entries
  | [], entries => Entries.add? key value entries
  | next :: rest, entries =>
      match entries.lookup next with
      | none => do return entries ++ [(next, .inline true (← setInline? key value rest []))]
      | some (.inline true inner) => do
          return Entries.replace next (.inline true (← setInline? key value rest inner)) entries
      | some _ => none

/-- A document in the making: what is finished, the table that is being filled, and
the path of its header.  An array of tables gets the table as its next element. -/
structure Document where
  root : Table := {}
  current : Table := {}
  path : List String := []
  isElement : Bool := false

namespace Document

def close? (document : Document) : Option Table :=
  match document.path.getLast? with
  | none => some document.current
  | some key => do
      let ((), root) ← Table.change false (fun target =>
        if document.isElement then
          match target.entries.lookup key with
          | some (.tables elements) =>
              some ((), { target with
                entries := Entries.replace key
                  (.tables (elements ++ [document.current.entries])) target.entries })
          | some _ => none
          | none =>
              some ((), { target with
                entries := target.entries ++ [(key, .tables [document.current.entries])] })
        else do
          return ((), { target with
            entries := ← Entries.add? key
              (.table document.current.origin document.current.entries) target.entries }))
        document.path.dropLast document.root
      return root

/-- Start the table with the given path.  A table that only stood on the way to
others is continued. -/
def openTable? (document : Document) (path : List String) : Option Document := do
  let root ← document.close?
  let key ← path.getLast?
  let (entries, root) ← Table.change false (fun target =>
    match target.entries.lookup key with
    | none => some ([], target)
    | some (.table .parent entries) =>
        some (entries, { target with entries := target.entries.filter (·.1 != key) })
    | some _ => none)
    path.dropLast root
  return { root, current := ⟨.header, entries⟩, path }

def openElement? (document : Document) (path : List String) : Option Document := do
  let root ← document.close?
  let key ← path.getLast?
  let ((), root) ← Table.change false (fun target =>
    match target.entries.lookup key with
    | none => some ((), { target with entries := target.entries ++ [(key, .tables [])] })
    | some (.tables _) => some ((), target)
    | some _ => none)
    path.dropLast root
  return { root, path, isElement := true }

def set? (document : Document) (path : List String) (value : Toml) : Option Document := do
  let key ← path.getLast?
  return { document with current := ← document.current.set? path.dropLast key value }

end Document

end Toml

end ShellTree
