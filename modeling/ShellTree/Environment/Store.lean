import ShellTree.Environment.Basic

/-!
# Stores with scopes

What evaluation needs of a store of variables.  The layered environment is the
store of a running shell.  A snapshot keeps all variables in one place, and its
guard is a copy of all of them.
-/

namespace ShellTree

/-- A store of variables whose bindings can be undone back to a guard. -/
class Store (ε : Type) where
  /-- What a pushed scope is popped by. -/
  Guard : Type
  get? : ε → String → Option String
  set : ε → String → String → ε
  push : ε → Guard × ε
  pop : ε → Guard → ε
  bindings : ε → Bindings

instance : Store Environment where
  Guard := Environment.Guard
  get? := Environment.get?
  set := Environment.set
  push := Environment.push
  pop := Environment.pop
  bindings := Environment.bindings

namespace Store

variable {ε : Type} [Store ε]

/-- The value of a name; an unset name has the empty value. -/
def get (store : ε) (name : String) : String :=
  (get? store name).getD ""

def isSet (store : ε) (name : String) : Bool :=
  (get? store name).isSome

/-- Whether a default word stands in for a name: it is unset, or empty when that counts. -/
def lacks (store : ε) (name : String) (checkEmpty : Bool) : Bool :=
  match get? store name with
  | none => true
  | some value => checkEmpty && value.isEmpty

def tracePrefix (store : ε) : String :=
  (get? store "PS4").getD "+ "

end Store

structure Snapshot where
  all : Bindings := {}
  deriving DecidableEq

instance : Store Snapshot where
  Guard := Bindings
  get? store name := store.all.get? name
  set store name value := ⟨store.all.put name value⟩
  push store := (store.all, store)
  pop _ saved := ⟨saved⟩
  bindings store := store.all

end ShellTree
