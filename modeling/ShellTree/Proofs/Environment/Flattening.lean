import ShellTree.Environment.Store

/-!
# The flat view of layered environments

The visible bindings of an environment are one ordered list.  Reading a name gives
its value in this list, and binding a name in the top layer binds it in this list: a
name that any layer binds keeps its place, and a new name comes last.  A new scope
shows the same bindings.
-/

namespace ShellTree

namespace Bindings

def names (bindings : Bindings) : List String :=
  bindings.pairs.map Prod.fst

theorem ext_pairs {left right : Bindings} (same : left.pairs = right.pairs) : left = right := by
  cases left
  cases right
  simp only at same
  subst same
  rfl

theorem lookup_pair (name value other : String) (rest : List (String × String)) :
    ((name, value) :: rest).lookup other =
      if other = name then some value else rest.lookup other := by
  rw [List.lookup_cons]
  by_cases same : other = name
  · simp [same]
  · simp [same, beq_eq_false_iff_ne.mpr same]

theorem lookup_putPair (name value other : String) (pairs : List (String × String)) :
    (putPair name value pairs).lookup other =
      if other = name then some value else pairs.lookup other := by
  induction pairs with
  | nil => exact lookup_pair name value other []
  | cons pair rest ih =>
      obtain ⟨bound, old⟩ := pair
      by_cases same : bound = name
      · subst same
        by_cases asked : other = bound <;> simp [putPair, lookup_pair, asked]
      · by_cases asked : other = bound
        · subst asked
          simp [putPair, same]
        · simp [putPair, same, lookup_pair, asked, ih]

@[simp]
theorem get?_put (bindings : Bindings) (name value other : String) :
    (bindings.put name value).get? other =
      if other = name then some value else bindings.get? other :=
  lookup_putPair name value other bindings.pairs

theorem putPair_putPair (name first second : String) (pairs : List (String × String)) :
    putPair name second (putPair name first pairs) = putPair name second pairs := by
  induction pairs with
  | nil => simp [putPair]
  | cons pair rest ih =>
      obtain ⟨bound, old⟩ := pair
      by_cases same : bound = name
      · simp [putPair, same]
      · simp [putPair, same, ih]

@[simp]
theorem put_put (bindings : Bindings) (name first second : String) :
    (bindings.put name first).put name second = bindings.put name second :=
  ext_pairs (putPair_putPair name first second bindings.pairs)

/-- Binding a bound name again and binding another one can be exchanged. -/
theorem putPair_comm {name other : String} (different : other ≠ name) (value value' : String)
    {pairs : List (String × String)} (bound : name ∈ pairs.map Prod.fst) :
    putPair name value (putPair other value' pairs) =
      putPair other value' (putPair name value pairs) := by
  induction pairs with
  | nil => cases bound
  | cons pair rest ih =>
      obtain ⟨head, old⟩ := pair
      by_cases first : head = name
      · subst first
        simp [putPair, different.symm]
      · have inner : name ∈ rest.map Prod.fst := by
          rcases List.mem_cons.mp bound with here | there
          · exact absurd here.symm first
          · exact there
        by_cases second : head = other
        · subst second
          simp [putPair, first]
        · simp [putPair, first, second, ih inner]

theorem put_comm {bindings : Bindings} {name other : String} (different : other ≠ name)
    (value value' : String) (bound : name ∈ bindings.names) :
    (bindings.put other value').put name value = (bindings.put name value).put other value' :=
  ext_pairs (putPair_comm different value value' bound)

theorem mem_names_put (bindings : Bindings) (name value : String) :
    name ∈ (bindings.put name value).names := by
  unfold names put
  rw [names_putPair]
  split
  · assumption
  · simp

theorem mem_names_put_of_mem {bindings : Bindings} {name : String} (bound : name ∈ bindings.names)
    (other value : String) : name ∈ (bindings.put other value).names := by
  unfold names put
  rw [names_putPair]
  split
  · exact bound
  · exact List.mem_append_left _ bound

@[simp]
theorem putAll_nil (bindings : Bindings) : bindings.putAll [] = bindings :=
  rfl

@[simp]
theorem putAll_cons (bindings : Bindings) (pair : String × String)
    (rest : List (String × String)) :
    bindings.putAll (pair :: rest) = (bindings.put pair.1 pair.2).putAll rest :=
  rfl

/-- Pairs with other names do not get in the way of binding a bound name again. -/
theorem put_putAll {bindings : Bindings} {name : String} (bound : name ∈ bindings.names)
    (value : String) {pairs : List (String × String)} (absent : name ∉ pairs.map Prod.fst) :
    (bindings.putAll pairs).put name value = (bindings.put name value).putAll pairs := by
  induction pairs generalizing bindings with
  | nil => rfl
  | cons pair rest ih =>
      have other : pair.1 ≠ name := fun same => absent (by simp [same])
      have later : name ∉ rest.map Prod.fst :=
        fun present => absent (List.mem_cons_of_mem _ present)
      rw [putAll_cons, putAll_cons, ih (mem_names_put_of_mem bound _ _) later,
        put_comm other value pair.2 bound]

/-- Putting the pairs of bindings that a name was bound in binds the name last of all. -/
theorem putAll_putPair (bindings : Bindings) (name value : String)
    {pairs : List (String × String)} (distinct : (pairs.map Prod.fst).Nodup) :
    bindings.putAll (putPair name value pairs) = (bindings.putAll pairs).put name value := by
  induction pairs generalizing bindings with
  | nil => rfl
  | cons pair rest ih =>
      obtain ⟨bound, old⟩ := pair
      obtain ⟨absent, distinct⟩ := List.nodup_cons.mp distinct
      by_cases same : bound = name
      · subst same
        have known := mem_names_put bindings bound old
        simp only [putPair, if_true, putAll_cons]
        rw [put_putAll known value absent, put_put]
      · simp only [putPair, if_neg same, putAll_cons]
        exact ih _ distinct

theorem get?_putAll (bindings : Bindings) (name : String) {pairs : List (String × String)}
    (distinct : (pairs.map Prod.fst).Nodup) :
    (bindings.putAll pairs).get? name = (pairs.lookup name).or (bindings.get? name) := by
  induction pairs generalizing bindings with
  | nil => rfl
  | cons pair rest ih =>
      obtain ⟨bound, value⟩ := pair
      obtain ⟨absent, distinct⟩ := List.nodup_cons.mp distinct
      rw [putAll_cons, ih _ distinct, get?_put]
      by_cases same : name = bound
      · subst same
        have unbound : rest.lookup name = none := by
          rw [List.lookup_eq_none_iff]
          intro pair member
          have other : name ≠ pair.1 := fun equal =>
            absent (List.mem_map.mpr ⟨pair, member, equal.symm⟩)
          simpa using other
        simp [unbound]
      · simp [lookup_pair, same]

end Bindings

namespace Environment

theorem bindings_eq (environment : Environment) :
    environment.bindings =
      Bindings.putAll (environment.below.foldr (fun layer known => known.putAll layer.pairs) {})
        environment.top.pairs :=
  rfl

/-- A name has the value that the visible bindings give it. -/
theorem get?_bindings (environment : Environment) (name : String) :
    environment.bindings.get? name = environment.get? name := by
  unfold get? bindings
  induction environment.layers with
  | nil => rfl
  | cons layer rest ih =>
      rw [List.foldr_cons, Bindings.get?_putAll _ _ layer.distinct, ih, List.findSome?_cons]
      change (layer.get? name).or _ = _
      cases layer.get? name <;> rfl

/-- Binding a name in the top layer binds it in the visible bindings. -/
theorem bindings_set (environment : Environment) (name value : String) :
    (environment.set name value).bindings = environment.bindings.put name value := by
  rw [bindings_eq, bindings_eq]
  exact Bindings.putAll_putPair _ name value environment.top.distinct

theorem get?_set (environment : Environment) (name value other : String) :
    (environment.set name value).get? other =
      if other = name then some value else environment.get? other := by
  rw [← get?_bindings, bindings_set, Bindings.get?_put, get?_bindings]

end Environment

end ShellTree
