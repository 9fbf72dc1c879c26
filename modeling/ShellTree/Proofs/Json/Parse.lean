import ShellTree.Json.Text

/-!
# Parsing the tokens of a value

A parser that waits for a value and takes all tokens of one has read that value, with
the arrays and objects around it untouched.  The statements for the items of an array
and the members of an object say what is read up to the closing token.
-/

namespace ShellTree.Json

namespace Parser

theorem run_cons {parser next : Parser} {token : Token} (taken : parser.step token = some next)
    (rest : List Token) : parser.run (token :: rest) = next.run rest := by
  rw [run, taken]

/-- An array waits for its first item as it waits for any other, unless it is closed. -/
theorem run_firstItem (stack : List Frame) {token : Token} (opens : token ≠ .closeBracket)
    (rest : List Token) :
    run ⟨stack, .firstItem⟩ (token :: rest) = run ⟨stack, .value⟩ (token :: rest) := by
  have same : step ⟨stack, .firstItem⟩ token = step ⟨stack, .value⟩ token := by
    simp only [step]
    split
    · exact absurd rfl opens
    · rfl
  rw [run, run, same]

/-- An object waits for its first name as it waits for any other, unless it is closed. -/
theorem run_firstName (stack : List Frame) (name : String) (rest : List Token) :
    run ⟨stack, .firstName [] true⟩ (.string name :: rest) =
      run ⟨stack, .name [] true⟩ (.string name :: rest) :=
  rfl

end Parser

/-- The tokens of a value start with one that does not close an array. -/
theorem exists_tokens_eq_cons (value : Json) :
    ∃ first rest, value.tokens = first :: rest ∧ first ≠ .closeBracket := by
  cases value with
  | null => exact ⟨.null, [], rfl, by simp⟩
  | bool value => exact ⟨.bool value, [], rfl, by simp⟩
  | number value => exact ⟨.number value, [], rfl, by simp⟩
  | string value => exact ⟨.string value, [], rfl, by simp⟩
  | array items => exact ⟨.openBracket, _, rfl, by simp⟩
  | object members => exact ⟨.openBrace, _, rfl, by simp⟩
  | unreadable => exact ⟨.halfPair, [], rfl, by simp⟩

/-- The items of an array start with a token that does not close it. -/
theorem exists_itemTokens_eq_cons (item : Json) (rest : List Json) :
    ∃ first others, itemTokens (item :: rest) = first :: others ∧ first ≠ .closeBracket := by
  obtain ⟨first, others, tokens, opens⟩ := exists_tokens_eq_cons item
  cases rest with
  | nil => exact ⟨first, others, tokens, opens⟩
  | cons next more =>
      refine ⟨first, others ++ .comma :: itemTokens (next :: more), ?_, opens⟩
      rw [itemTokens, tokens, List.cons_append]

/-- The members of an object start with a name. -/
theorem exists_memberTokens_eq_cons (name : String) (value : Json)
    (rest : List (String × Json)) :
    ∃ others, memberTokens ((name, value) :: rest) = .string name :: others := by
  cases rest with
  | nil => exact ⟨_, rfl⟩
  | cons next more => exact ⟨_, rfl⟩

open Json.Parser

/-! What is already read of an array or an object stands last first in the frame, and what follows
the closing token is arbitrary. -/

mutual

theorem run_tokens : ∀ (value : Json) (stack : List Frame) (rest : List Token),
    run ⟨stack, .value⟩ (value.tokens ++ rest) = run ⟨stack, .after value⟩ rest
  | .null, _, _ => rfl
  | .bool _, _, _ => rfl
  | .number _, _, _ => rfl
  | .string _, _, _ => rfl
  | .unreadable, _, _ => rfl
  | .array [], _, _ => rfl
  | .array (item :: items), stack, rest => by
      obtain ⟨first, others, tokens, opens⟩ := exists_itemTokens_eq_cons item items
      have inner := run_itemTokens (item :: items) (by simp) [] stack rest
      simp only [Json.tokens, List.cons_append, List.append_assoc, List.nil_append]
      rw [run_cons rfl, tokens, List.cons_append, run_firstItem _ opens, ← List.cons_append,
        ← tokens]
      exact inner
  | .object [], _, _ => rfl
  | .object ((name, value) :: members), stack, rest => by
      obtain ⟨others, tokens⟩ := exists_memberTokens_eq_cons name value members
      have inner := run_memberTokens ((name, value) :: members) (by simp) [] stack rest
      simp only [Json.tokens, List.cons_append, List.append_assoc, List.nil_append]
      rw [run_cons rfl, tokens, List.cons_append, run_firstName, ← List.cons_append, ← tokens]
      exact inner

theorem run_itemTokens : ∀ (items : List Json) (_ : items ≠ []) (done : List Json)
    (stack : List Frame) (rest : List Token),
    run ⟨.array done :: stack, .value⟩ (itemTokens items ++ .closeBracket :: rest) =
      run ⟨stack, .after (.array (done.reverse ++ items))⟩ rest
  | [], nonempty, _, _, _ => absurd rfl nonempty
  | [item], _, done, stack, rest => by
      rw [itemTokens, run_tokens item, run_cons rfl, List.reverse_cons]
  | item :: next :: more, _, done, stack, rest => by
      have others := run_itemTokens (next :: more) (by simp) (item :: done) stack rest
      rw [itemTokens, List.append_assoc, run_tokens item, List.cons_append, run_cons rfl, others,
        List.reverse_cons, List.append_assoc, List.singleton_append]

theorem run_memberTokens : ∀ (members : List (String × Json)) (_ : members ≠ [])
    (done : List (String × Json)) (stack : List Frame) (rest : List Token),
    run ⟨stack, .name done true⟩ (memberTokens members ++ .closeBrace :: rest) =
      run ⟨stack, .after (.object (done.reverse ++ members))⟩ rest
  | [], nonempty, _, _, _ => absurd rfl nonempty
  | [(name, value)], _, done, stack, rest => by
      rw [memberTokens, List.cons_append, run_cons rfl, List.cons_append, run_cons rfl,
        run_tokens value, run_cons rfl, close, if_pos rfl, List.reverse_cons]
  | (name, value) :: next :: more, _, done, stack, rest => by
      have others := run_memberTokens (next :: more) (by simp) ((name, value) :: done) stack rest
      rw [memberTokens, List.cons_append, List.cons_append, List.cons_append, List.cons_append,
        run_cons rfl, run_cons rfl, List.append_assoc, run_tokens value, List.cons_append,
        run_cons rfl, others, List.reverse_cons, List.append_assoc, List.singleton_append]

end

/-- The tokens of a value are parsed as that value. -/
theorem ofTokens?_tokens (value : Json) : ofTokens? value.tokens = some value := by
  have parsed := run_tokens value [] []
  rw [List.append_nil] at parsed
  rw [ofTokens?, parsed]
  rfl

end ShellTree.Json
