import Mathlib.Data.List.TakeDrop

/-!
# Lists searched from the front

Under keys that are not repeated, looking up a key finds the entry that has it.  A run of
elements that pass a test ends where an element stands that fails it.
-/

namespace ShellTree

section Keys

variable {κ β : Type} [BEq κ] [LawfulBEq κ] {entries : List (κ × β)} {key : κ} {value : β}

theorem lookup_eq_none (fresh : key ∉ entries.map Prod.fst) : entries.lookup key = none := by
  rw [List.lookup_eq_none_iff]
  intro entry member
  have other : key ≠ entry.1 := by
    rintro rfl
    exact fresh (List.mem_map_of_mem member)
  simpa using other

theorem mem_of_lookup (found : entries.lookup key = some value) : (key, value) ∈ entries := by
  obtain ⟨before, after, whole, -⟩ := List.lookup_eq_some_iff.mp found
  rw [whole]
  exact List.mem_append_right _ List.mem_cons_self

theorem lookup_of_mem (distinct : (entries.map Prod.fst).Nodup) (member : (key, value) ∈ entries) :
    entries.lookup key = some value := by
  obtain ⟨before, after, whole⟩ := List.append_of_mem member
  refine List.lookup_eq_some_iff.mpr ⟨before, after, whole, ?_⟩
  intro earlier present
  rw [whole, List.map_append, List.map_cons] at distinct
  have apart := (List.nodup_append.mp distinct).2.2 earlier.1 (List.mem_map_of_mem present) key
    List.mem_cons_self
  exact bne_iff_ne.mpr apart.symm

theorem find?_eq_some_iff_of_key {α : Type} (keyOf : α → κ) {items : List α}
    (injective : ∀ first ∈ items, ∀ second ∈ items, keyOf first = keyOf second → first = second)
    {item : α} :
    items.find? (fun item => keyOf item == key) = some item ↔ item ∈ items ∧ keyOf item = key := by
  constructor
  · intro found
    have same := List.find?_some found
    exact ⟨List.mem_of_find?_eq_some found, eq_of_beq same⟩
  · rintro ⟨inside, rfl⟩
    have present : (items.find? fun other => keyOf other == keyOf item).isSome :=
      List.find?_isSome.mpr ⟨item, inside, beq_self_eq_true (keyOf item)⟩
    obtain ⟨other, found⟩ := Option.isSome_iff_exists.mp present
    have same := List.find?_some found
    rw [found, injective other (List.mem_of_find?_eq_some found) item inside (eq_of_beq same)]

end Keys

theorem span_append {α : Type} {test : α → Bool} {front rest : List α}
    (all : ∀ item ∈ front, test item = true) (apart : ∀ first ∈ rest.head?, test first = false) :
    (front ++ rest).span test = (front, rest) := by
  rw [List.span_eq_takeWhile_dropWhile, List.takeWhile_append_of_pos all,
    List.dropWhile_append_of_pos all]
  cases rest with
  | nil => simp
  | cons first others =>
      have other : ¬ test first = true := by simp [apart first rfl]
      rw [List.takeWhile_cons_of_neg other, List.dropWhile_cons_of_neg other, List.append_nil]

end ShellTree
