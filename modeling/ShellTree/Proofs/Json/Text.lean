import ShellTree.Proofs.Json.Parse
import ShellTree.Proofs.Json.Scan

/-!
# Compact text of values

A plain value has integers of at most 64 bits for its numbers and nothing
unreadable in it.  Its compact text spells it: scanning gives back the tokens, and
parsing gives back the value.
-/

namespace ShellTree.Json

/-- The values that are written and read without loss. -/
inductive Plain : Json → Prop where
  | null : Plain .null
  | bool (value : Bool) : Plain (.bool value)
  | integer (negative : Bool) {magnitude : Nat} (small : magnitude < UInt64.size) :
      Plain (.number (.integer negative magnitude))
  | string (value : String) : Plain (.string value)
  | array {items : List Json} (plain : ∀ item ∈ items, Plain item) : Plain (.array items)
  | object {members : List (String × Json)} (plain : ∀ member ∈ members, Plain member.2) :
      Plain (.object members)

theorem readableItems_iff {items : List Json} :
    readableItems items = true ↔ ∀ item ∈ items, item.readable = true := by
  induction items with
  | nil => simp [readableItems]
  | cons item rest ih => rw [readableItems, Bool.and_eq_true, ih, List.forall_mem_cons]

theorem readableMembers_iff {members : List (String × Json)} :
    readableMembers members = true ↔ ∀ member ∈ members, member.2.readable = true := by
  induction members with
  | nil => simp [readableMembers]
  | cons member rest ih => rw [readableMembers, Bool.and_eq_true, ih, List.forall_mem_cons]

theorem Plain.readable {value : Json} (plain : value.Plain) : value.readable = true := by
  induction plain with
  | null => rfl
  | bool => rfl
  | integer => rfl
  | string => rfl
  | array _ ih =>
      rw [Json.readable]
      exact readableItems_iff.mpr ih
  | object _ ih =>
      rw [Json.readable]
      exact readableMembers_iff.mpr ih

theorem depthItems_le {items : List Json} {levels : Nat} :
    depthItems items ≤ levels ↔ ∀ item ∈ items, item.depth ≤ levels := by
  induction items with
  | nil => simp [depthItems]
  | cons item rest ih => rw [depthItems, Nat.max_le, ih, List.forall_mem_cons]

theorem depthMembers_le {members : List (String × Json)} {levels : Nat} :
    depthMembers members ≤ levels ↔ ∀ member ∈ members, member.2.depth ≤ levels := by
  induction members with
  | nil => simp [depthMembers]
  | cons member rest ih => rw [depthMembers, Nat.max_le, ih, List.forall_mem_cons]

theorem itemTokens_plain {items : List Json}
    (plain : ∀ item ∈ items, ∀ token ∈ item.tokens, token.isPlain = true) :
    ∀ token ∈ itemTokens items, token.isPlain = true := by
  induction items with
  | nil => simp [itemTokens]
  | cons item rest ih =>
      rw [List.forall_mem_cons] at plain
      have later := ih plain.2
      cases rest with
      | nil =>
          rw [itemTokens]
          exact plain.1
      | cons next rest =>
          simp only [itemTokens, List.forall_mem_append, List.forall_mem_cons]
          exact ⟨plain.1, rfl, later⟩

theorem memberTokens_plain {members : List (String × Json)}
    (plain : ∀ member ∈ members, ∀ token ∈ member.2.tokens, token.isPlain = true) :
    ∀ token ∈ memberTokens members, token.isPlain = true := by
  induction members with
  | nil => simp [memberTokens]
  | cons member rest ih =>
      rw [List.forall_mem_cons] at plain
      have later := ih plain.2
      cases rest with
      | nil =>
          simp only [memberTokens, List.forall_mem_cons]
          exact ⟨rfl, rfl, plain.1⟩
      | cons next rest =>
          simp only [memberTokens, List.cons_append, List.forall_mem_append, List.forall_mem_cons]
          exact ⟨rfl, rfl, plain.1, rfl, later⟩

theorem Plain.tokens {value : Json} (plain : value.Plain) :
    ∀ token ∈ value.tokens, token.isPlain = true := by
  induction plain with
  | null => simp [Json.tokens, Token.isPlain]
  | bool => simp [Json.tokens, Token.isPlain]
  | integer negative small => simpa [Json.tokens, Token.isPlain] using small
  | string => simp [Json.tokens, Token.isPlain]
  | array _ ih =>
      simp only [Json.tokens, List.cons_append, List.forall_mem_append, List.forall_mem_cons]
      exact ⟨rfl, itemTokens_plain ih, rfl, by simp⟩
  | object _ ih =>
      simp only [Json.tokens, List.cons_append, List.forall_mem_append, List.forall_mem_cons]
      exact ⟨rfl, memberTokens_plain ih, rfl, by simp⟩

/-- The compact text of a plain value is read as that value. -/
theorem Plain.ofText?_text {value : Json} (plain : value.Plain) :
    ofText? value.text = some value := by
  have scanned := scan?_chars (separated_tokens value) plain.tokens
  rw [ofText?, text, String.toList_ofList, scanned, Option.bind_some, ofTokens?_tokens]

end ShellTree.Json
