import ShellTree.Environment.Bindings

/-!
# Layered environments

Variables live in a stack of layers above a base layer.  A name has the value of
the topmost layer that binds it, and is bound in the top layer only.  Pushing a
scope puts an empty layer on top and gives a guard; popping a guard drops every
layer above those that existed when the guard was taken.
-/

namespace ShellTree

/-- A top layer and the layers below it, from the top down to the base. -/
structure Environment where
  top : Bindings := {}
  below : List Bindings := []
  deriving DecidableEq

namespace Environment

/-- The number of layers that existed when a scope was pushed. -/
structure Guard where
  layers : Nat
  deriving DecidableEq

def layers (environment : Environment) : List Bindings :=
  environment.top :: environment.below

def ofPairs (pairs : List (String × String)) : Environment where
  top := .ofPairs pairs

def depth (environment : Environment) : Nat :=
  environment.below.length

def get? (environment : Environment) (name : String) : Option String :=
  environment.layers.findSome? fun layer => layer.get? name

def set (environment : Environment) (name value : String) : Environment :=
  { environment with top := environment.top.put name value }

def push (environment : Environment) : Guard × Environment :=
  (⟨environment.layers.length⟩, ⟨{}, environment.layers⟩)

/-- Drop layers from the top while there are more than `count` of them; the base stays. -/
def keep (count : Nat) (top : Bindings) : List Bindings → Environment
  | [] => ⟨top, []⟩
  | next :: rest => if rest.length + 2 ≤ count then ⟨top, next :: rest⟩ else keep count next rest

/-- Drop the layer that the guard was taken for and every layer above it. -/
def pop (environment : Environment) (guard : Guard) : Environment :=
  keep guard.layers environment.top environment.below

/-- The visible names in the order of their first binding, from the base up. -/
def bindings (environment : Environment) : Bindings :=
  environment.layers.foldr (fun layer known => known.putAll layer.pairs) {}

def size (environment : Environment) : Nat :=
  environment.bindings.pairs.length

def isEmpty (environment : Environment) : Bool :=
  environment.layers.all fun layer => layer.pairs.isEmpty

/-- Whether two environments have the same layers, whatever the order inside each. -/
def sameAs (left right : Environment) : Bool :=
  left.depth == right.depth &&
    (left.layers.zip right.layers).all fun pair => pair.1.sameAs pair.2

end Environment

end ShellTree
