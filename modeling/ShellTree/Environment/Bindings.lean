/-!
# Bindings

Variables with their values in the order in which they were first bound.
Binding a name again changes its value and keeps its place, so no name occurs twice.
-/

namespace ShellTree

/-- Names with their values; each name occurs once. -/
structure Bindings where
  pairs : List (String × String) := []
  distinct : (pairs.map Prod.fst).Nodup := by exact List.nodup_nil
  deriving DecidableEq

namespace Bindings

/-- Bind a name in a list of pairs: in its place if it is bound already, and at the end
if not. -/
def putPair (name value : String) : List (String × String) → List (String × String)
  | [] => [(name, value)]
  | (bound, old) :: rest =>
      if bound = name then (bound, value) :: rest else (bound, old) :: putPair name value rest

theorem names_putPair (name value : String) (pairs : List (String × String)) :
    (putPair name value pairs).map Prod.fst =
      if name ∈ pairs.map Prod.fst then pairs.map Prod.fst else pairs.map Prod.fst ++ [name] := by
  induction pairs with
  | nil => rfl
  | cons pair rest ih =>
      obtain ⟨bound, old⟩ := pair
      by_cases same : bound = name
      · simp [putPair, same]
      · have other : ¬ name = bound := fun equal => same equal.symm
        simp only [putPair, if_neg same, List.map_cons, ih, List.mem_cons, other, false_or]
        split <;> rfl

theorem putPair_distinct (name value : String) {pairs : List (String × String)}
    (distinct : (pairs.map Prod.fst).Nodup) :
    ((putPair name value pairs).map Prod.fst).Nodup := by
  rw [names_putPair]
  split
  · exact distinct
  · next fresh =>
      refine List.nodup_append.mpr ⟨distinct, by simp, ?_⟩
      intro bound present new single equal
      exact fresh (List.mem_singleton.mp single ▸ equal ▸ present)

def put (bindings : Bindings) (name value : String) : Bindings :=
  ⟨putPair name value bindings.pairs, putPair_distinct name value bindings.distinct⟩

def putAll (bindings : Bindings) (pairs : List (String × String)) : Bindings :=
  pairs.foldl (fun known pair => known.put pair.1 pair.2) bindings

def ofPairs (pairs : List (String × String)) : Bindings :=
  putAll {} pairs

def get? (bindings : Bindings) (name : String) : Option String :=
  bindings.pairs.lookup name

/-- Whether two bindings give the same values to the same names, in any order. -/
def sameAs (left right : Bindings) : Bool :=
  left.pairs.length == right.pairs.length &&
    left.pairs.all fun pair => right.get? pair.1 == some pair.2

end Bindings

end ShellTree
