import Mathlib.Data.List.Nodup
import ShellTree.Options

/-!
# Lawful vocabularies

A vocabulary that lists every member of its type under a name of its own can be read
by name: each name leads back to its member.
-/

namespace ShellTree

class LawfulVocabulary (α : Type) [Vocabulary α] : Prop where
  complete : ∀ member : α, member ∈ (Vocabulary.members : List α)
  distinct : ((Vocabulary.members : List α).map Vocabulary.name).Nodup

namespace Vocabulary

variable {α : Type} [Vocabulary α]

theorem name_injective [LawfulVocabulary α] : Function.Injective (name : α → String) :=
  fun first second => List.inj_on_of_nodup_map LawfulVocabulary.distinct
    (LawfulVocabulary.complete first) (LawfulVocabulary.complete second)

/-- The name of a member is read as that member. -/
@[simp]
theorem ofName?_name [LawfulVocabulary α] (member : α) : ofName? (name member) = some member := by
  cases found : (ofName? (name member) : Option α) with
  | none =>
      have missed := List.find?_eq_none.mp found member (LawfulVocabulary.complete member)
      simp at missed
  | some other =>
      have same := List.find?_some found
      rw [name_injective (eq_of_beq same)]

end Vocabulary

instance : LawfulVocabulary Connective where
  complete member := by cases member <;> decide
  distinct := by decide

instance : LawfulVocabulary RedirectionOperator where
  complete member := by cases member <;> decide
  distinct := by decide

instance : LawfulVocabulary UnaryOperator where
  complete member := by cases member <;> decide
  distinct := by decide

instance : LawfulVocabulary BinaryOperator where
  complete member := by cases member <;> decide
  distinct := by decide

instance : LawfulVocabulary LetterCase where
  complete member := by cases member <;> decide
  distinct := by decide

instance : LawfulVocabulary Flow where
  complete member := by cases member <;> decide
  distinct := by decide

instance : LawfulVocabulary CommandKind where
  complete member := by cases member <;> decide
  distinct := by decide

instance : LawfulVocabulary PartKind where
  complete member := by cases member <;> decide
  distinct := by decide

instance : LawfulVocabulary OperationKind where
  complete member := by cases member <;> decide
  distinct := by decide

instance : LawfulVocabulary ArithKind where
  complete member := by cases member <;> decide
  distinct := by decide

instance : LawfulVocabulary SliceMode where
  complete member := by cases member <;> decide
  distinct := by decide

end ShellTree
