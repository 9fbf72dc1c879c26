import Mathlib.Data.List.Infix
import ShellTree.Text.Replacement

/-!
# Leftmost occurrences

A pattern behind a piece of text is its leftmost occurrence if none starts inside of the
piece: the pattern does not occur in the piece with all but the last character of the
pattern behind it.  To take the leftmost occurrence again and again behind the last one
cuts a text into pieces, and there is only one way to do this.  Replacement puts the same
pieces together with another text between them.
-/

namespace ShellTree.Text

/-- The pieces of a text that end where an occurrence of a pattern starts, and the piece
behind the last occurrence. -/
structure Pieces where
  earlier : List (List Char) := []
  last : List Char

namespace Pieces

def joined (pieces : Pieces) (separator : List Char) : List Char :=
  pieces.earlier.flatMap (· ++ separator) ++ pieces.last

/-- The pieces with a separator of its own behind the first of them. -/
def joinedFirst (pieces : Pieces) (first others : List Char) : List Char :=
  match pieces.earlier with
  | [] => pieces.last
  | piece :: rest => piece ++ first ++ joined ⟨rest, pieces.last⟩ others

/-- The pieces between the leftmost occurrences of a pattern that do not overlap. -/
structure Cuts (pattern value : List Char) (pieces : Pieces) : Prop where
  joined_eq : pieces.joined pattern = value
  leftmost : ∀ piece ∈ pieces.earlier, ¬ pattern <:+: piece ++ pattern.dropLast
  behind : ¬ pattern <:+: pieces.last

theorem joined_cons (piece : List Char) (earlier : List (List Char)) (last separator : List Char) :
    joined ⟨piece :: earlier, last⟩ separator =
      piece ++ separator ++ joined ⟨earlier, last⟩ separator := by
  simp only [joined, List.flatMap_cons, List.append_assoc]

theorem joinedFirst_self (pieces : Pieces) (separator : List Char) :
    pieces.joinedFirst separator separator = pieces.joined separator := by
  obtain ⟨earlier, last⟩ := pieces
  cases earlier with
  | nil => rfl
  | cons piece rest => rw [joined_cons, joinedFirst]

/-- With at most one place for a separator, the others do not matter. -/
theorem joinedFirst_of_length_le_one {pieces : Pieces} (few : pieces.earlier.length ≤ 1)
    (first others : List Char) : pieces.joinedFirst first others = pieces.joined first := by
  obtain ⟨earlier, last⟩ := pieces
  cases earlier with
  | nil => rfl
  | cons piece rest =>
      have few' : rest.length ≤ 0 := Nat.le_of_succ_le_succ few
      obtain rfl : rest = [] := List.length_eq_zero_iff.mp (Nat.le_zero.mp few')
      rw [joined_cons, joinedFirst]
      rfl

end Pieces

/-! ## One way to cut -/

section Occurrences

variable {pattern replacement piece piece' rest rest' chars : List Char}

theorem append_dropLast_starts (piece pattern rest : List Char) :
    piece ++ pattern.dropLast <+: piece ++ pattern ++ rest := by
  rw [List.append_assoc, List.prefix_append_right_inj]
  exact pattern.dropLast_prefix.trans (List.prefix_append _ _)

/-- No occurrence starts where a piece starts that ends at its leftmost occurrence. -/
theorem not_prefix_of_leftmost {char : Char}
    (leftmost : ¬ pattern <:+: char :: piece ++ pattern.dropLast) (rest : List Char) :
    ¬ pattern <+: char :: (piece ++ pattern ++ rest) := by
  intro starts
  have within := append_dropLast_starts (char :: piece) pattern rest
  have short : pattern.length ≤ (char :: piece ++ pattern.dropLast).length := by
    simp only [List.length_append, List.length_cons, List.length_dropLast]
    omega
  exact leftmost (List.prefix_of_prefix_length_le starts within short).isInfix

/-- What is leftmost behind a piece is leftmost behind the end of it. -/
theorem leftmost_of_cons {char : Char}
    (leftmost : ¬ pattern <:+: char :: piece ++ pattern.dropLast) :
    ¬ pattern <:+: piece ++ pattern.dropLast := fun occurs =>
  leftmost (List.infix_cons occurs)

/-- A pattern that occurs has a leftmost occurrence. -/
theorem exists_leftmost (filled : pattern ≠ []) (occurs : pattern <:+: chars) :
    ∃ piece rest, chars = piece ++ pattern ++ rest ∧
      ¬ pattern <:+: piece ++ pattern.dropLast := by
  induction chars with
  | nil => exact absurd (List.infix_nil.mp occurs) filled
  | cons char chars ih =>
      by_cases starts : pattern <+: char :: chars
      · obtain ⟨rest, split⟩ := starts
        refine ⟨[], rest, split.symm, fun within => ?_⟩
        have size := within.length_le
        have positive := List.length_pos_iff.mpr filled
        simp only [List.nil_append, List.length_dropLast] at size
        omega
      · have later : pattern <:+: chars := (List.infix_cons_iff.mp occurs).resolve_left starts
        obtain ⟨piece, rest, rfl, leftmost⟩ := ih later
        refine ⟨char :: piece, rest, rfl, fun within => ?_⟩
        rcases List.infix_cons_iff.mp within with here | inside
        · exact starts (here.trans (append_dropLast_starts (char :: piece) pattern rest))
        · exact leftmost inside

/-- Every text is cut by a pattern. -/
theorem exists_cuts (filled : pattern ≠ []) (value : List Char) :
    ∃ pieces, Pieces.Cuts pattern value pieces := by
  induction size : value.length using Nat.strongRecOn generalizing value with
  | ind count ih =>
      by_cases occurs : pattern <:+: value
      · obtain ⟨piece, rest, rfl, leftmost⟩ := exists_leftmost filled occurs
        have positive := List.length_pos_iff.mpr filled
        have shorter : rest.length < count := by
          simp only [List.length_append] at size
          omega
        obtain ⟨⟨earlier, last⟩, joined, others, behind⟩ := ih _ shorter rest rfl
        refine ⟨⟨piece :: earlier, last⟩, ?_, ?_, behind⟩
        · rw [Pieces.joined_cons, joined]
        · exact List.forall_mem_cons.mpr ⟨leftmost, others⟩
      · exact ⟨⟨[], value⟩, rfl, fun _ none => absurd none List.not_mem_nil, occurs⟩

/-- No occurrence lies before the leftmost one. -/
theorem length_le_of_leftmost (filled : pattern ≠ [])
    (same : piece ++ pattern ++ rest = piece' ++ pattern ++ rest')
    (leftmost' : ¬ pattern <:+: piece' ++ pattern.dropLast) : piece'.length ≤ piece.length := by
  apply Nat.le_of_not_lt
  intro before
  have positive := List.length_pos_iff.mpr filled
  have start : piece ++ pattern <+: piece' ++ pattern ++ rest' := same ▸ List.prefix_append _ _
  have size : (piece ++ pattern).length ≤ (piece' ++ pattern.dropLast).length := by
    simp only [List.length_append, List.length_dropLast]
    omega
  have inside : piece ++ pattern <+: piece' ++ pattern.dropLast :=
    List.prefix_of_prefix_length_le start (append_dropLast_starts piece' pattern rest') size
  exact leftmost' ((List.suffix_append piece pattern).isInfix.trans inside.isInfix)

theorem leftmost_unique (filled : pattern ≠ [])
    (same : piece ++ pattern ++ rest = piece' ++ pattern ++ rest')
    (leftmost : ¬ pattern <:+: piece ++ pattern.dropLast)
    (leftmost' : ¬ pattern <:+: piece' ++ pattern.dropLast) : piece = piece' ∧ rest = rest' := by
  have size : piece.length = piece'.length := Nat.le_antisymm
    (length_le_of_leftmost filled same.symm leftmost) (length_le_of_leftmost filled same leftmost')
  rw [List.append_assoc, List.append_assoc] at same
  obtain ⟨first, second⟩ := List.append_inj same size
  exact ⟨first, List.append_cancel_left second⟩

namespace Pieces.Cuts

theorem tail {earlier : List (List Char)} {last value : List Char}
    (cuts : Cuts pattern value ⟨piece :: earlier, last⟩) :
    Cuts pattern (joined ⟨earlier, last⟩ pattern) ⟨earlier, last⟩ :=
  ⟨rfl, (List.forall_mem_cons.mp cuts.leftmost).2, cuts.behind⟩

/-- A text without an occurrence is one piece. -/
theorem earlier_eq_nil {value : List Char} {pieces : Pieces} (cuts : Cuts pattern value pieces)
    (absent : ¬ pattern <:+: value) : pieces.earlier = [] := by
  obtain ⟨earlier, last⟩ := pieces
  cases earlier with
  | nil => rfl
  | cons piece rest =>
      refine absurd ?_ absent
      rw [← cuts.joined_eq, joined_cons]
      exact List.infix_append _ _ _

/-- A text is cut in one way. -/
theorem unique {value : List Char} {pieces pieces' : Pieces} (filled : pattern ≠ [])
    (cuts : Cuts pattern value pieces) (cuts' : Cuts pattern value pieces') : pieces = pieces' := by
  obtain ⟨earlier, last⟩ := pieces
  obtain ⟨earlier', last'⟩ := pieces'
  induction earlier generalizing value earlier' with
  | nil =>
      have whole : last = value := cuts.joined_eq
      have none : earlier' = [] := cuts'.earlier_eq_nil (whole ▸ cuts.behind)
      subst none
      have whole' : last' = value := cuts'.joined_eq
      rw [whole, whole']
  | cons piece rest ih =>
      cases earlier' with
      | nil =>
          have whole' : last' = value := cuts'.joined_eq
          exact absurd (cuts.earlier_eq_nil (whole' ▸ cuts'.behind)) (List.cons_ne_nil _ _)
      | cons piece' rest' =>
          have same := cuts.joined_eq.trans cuts'.joined_eq.symm
          rw [joined_cons, joined_cons] at same
          obtain ⟨rfl, behind⟩ := leftmost_unique filled same
            (cuts.leftmost piece List.mem_cons_self) (cuts'.leftmost piece' List.mem_cons_self)
          obtain ⟨rfl, rfl⟩ := Pieces.mk.inj (ih cuts.tail rest' (behind ▸ cuts'.tail))
          rfl

end Pieces.Cuts

/-! ## Replacement of occurrences -/

theorem replaceEvery_skip (pattern replacement : List Char) (skip : Nat) (chars : List Char) :
    replaceEvery pattern replacement skip chars =
      replaceEvery pattern replacement 0 (chars.drop skip) := by
  induction chars generalizing skip with
  | nil => cases skip <;> rfl
  | cons char chars ih =>
      cases skip with
      | zero => rfl
      | succ skip => exact ih skip

theorem replaceEvery_occurrence (filled : pattern ≠ []) (replacement rest : List Char) :
    replaceEvery pattern replacement 0 (pattern ++ rest) =
      replacement ++ replaceEvery pattern replacement 0 rest := by
  obtain ⟨first, others, rfl⟩ := List.exists_cons_of_ne_nil filled
  have starts : (first :: others).isPrefixOf (first :: (others ++ rest)) = true :=
    List.isPrefixOf_iff_prefix.mpr (List.prefix_append _ _)
  have passed : (others ++ rest).drop ((first :: others).length - 1) = rest := List.drop_left
  rw [List.cons_append, replaceEvery, if_pos starts, replaceEvery_skip, passed]

theorem replaceEvery_other {char : Char} (other : ¬ pattern <+: char :: rest) :
    replaceEvery pattern replacement 0 (char :: rest) =
      char :: replaceEvery pattern replacement 0 rest := by
  rw [replaceEvery, if_neg fun starts => other (List.isPrefixOf_iff_prefix.mp starts)]

theorem replaceEvery_leftmost (filled : pattern ≠ [])
    (leftmost : ¬ pattern <:+: piece ++ pattern.dropLast) (replacement rest : List Char) :
    replaceEvery pattern replacement 0 (piece ++ pattern ++ rest) =
      piece ++ replacement ++ replaceEvery pattern replacement 0 rest := by
  induction piece with
  | nil => exact replaceEvery_occurrence filled replacement rest
  | cons char piece ih =>
      rw [List.cons_append, List.cons_append,
        replaceEvery_other (not_prefix_of_leftmost leftmost rest), ih (leftmost_of_cons leftmost)]
      rfl

theorem replaceEvery_absent (absent : ¬ pattern <:+: chars) (replacement : List Char) :
    replaceEvery pattern replacement 0 chars = chars := by
  induction chars with
  | nil => rfl
  | cons char chars ih =>
      have other : ¬ pattern <+: char :: chars := fun starts => absent starts.isInfix
      rw [replaceEvery_other other, ih fun occurs => absent (List.infix_cons occurs)]

/-- Replacing every occurrence puts the replacement between the pieces. -/
theorem replaceEvery_eq_joined {value : List Char} {pieces : Pieces} (filled : pattern ≠ [])
    (cuts : pieces.Cuts pattern value) (replacement : List Char) :
    replaceEvery pattern replacement 0 value = pieces.joined replacement := by
  obtain ⟨earlier, last⟩ := pieces
  rw [← cuts.joined_eq]
  induction earlier generalizing value with
  | nil => exact replaceEvery_absent cuts.behind replacement
  | cons piece earlier ih =>
      have leftmost := cuts.leftmost piece List.mem_cons_self
      rw [Pieces.joined_cons, replaceEvery_leftmost filled leftmost, ih cuts.tail,
        Pieces.joined_cons]

theorem replaceFirst_other {char : Char} (other : ¬ pattern <+: char :: rest) :
    replaceFirst pattern replacement (char :: rest) =
      char :: replaceFirst pattern replacement rest := by
  rw [replaceFirst, if_neg fun starts => other (List.isPrefixOf_iff_prefix.mp starts)]

/-- Also the empty pattern occurs in front of every text. -/
theorem replaceFirst_occurrence (pattern replacement rest : List Char) :
    replaceFirst pattern replacement (pattern ++ rest) = replacement ++ rest := by
  cases whole : pattern ++ rest with
  | nil =>
      obtain ⟨rfl, rfl⟩ := List.append_eq_nil_iff.mp whole
      rw [List.append_nil]
      rfl
  | cons char chars =>
      have starts : pattern.isPrefixOf (char :: chars) = true :=
        List.isPrefixOf_iff_prefix.mpr (whole ▸ List.prefix_append _ _)
      rw [replaceFirst, if_pos starts, ← whole, List.drop_left]

theorem replaceFirst_leftmost (leftmost : ¬ pattern <:+: piece ++ pattern.dropLast)
    (replacement rest : List Char) :
    replaceFirst pattern replacement (piece ++ pattern ++ rest) = piece ++ replacement ++ rest := by
  induction piece with
  | nil => exact replaceFirst_occurrence pattern replacement rest
  | cons char piece ih =>
      rw [List.cons_append, List.cons_append,
        replaceFirst_other (not_prefix_of_leftmost leftmost rest), ih (leftmost_of_cons leftmost)]
      rfl

theorem replaceFirst_absent (absent : ¬ pattern <:+: chars) (replacement : List Char) :
    replaceFirst pattern replacement chars = chars := by
  induction chars with
  | nil =>
      have filled : ¬ pattern.isEmpty = true := by
        rw [List.isEmpty_iff]
        exact fun empty => absent (List.infix_nil.mpr empty)
      rw [replaceFirst, if_neg filled]
  | cons char chars ih =>
      have other : ¬ pattern <+: char :: chars := fun starts => absent starts.isInfix
      rw [replaceFirst_other other, ih fun occurs => absent (List.infix_cons occurs)]

/-- Replacing the first occurrence puts the replacement behind the first piece. -/
theorem replaceFirst_eq_joinedFirst {value : List Char} {pieces : Pieces}
    (cuts : pieces.Cuts pattern value) (replacement : List Char) :
    replaceFirst pattern replacement value = pieces.joinedFirst replacement pattern := by
  obtain ⟨earlier, last⟩ := pieces
  rw [← cuts.joined_eq]
  cases earlier with
  | nil => exact replaceFirst_absent cuts.behind replacement
  | cons piece earlier =>
      rw [Pieces.joined_cons, replaceFirst_leftmost (cuts.leftmost piece List.mem_cons_self)]
      rfl

theorem interleave_eq_flatMap (replacement chars : List Char) :
    interleave replacement chars =
      chars.flatMap (fun char => replacement ++ [char]) ++ replacement := by
  induction chars with
  | nil => rfl
  | cons char chars ih =>
      rw [interleave, ih, List.flatMap_cons]
      simp only [List.append_assoc, List.cons_append, List.nil_append]

end Occurrences

/-! ## Replacement in a value -/

section Values

variable {pattern replacement value : String} {pieces : Pieces}

theorem toList_ne_nil {text : String} (filled : text ≠ "") : text.toList ≠ [] := fun empty =>
  filled (String.toList_eq_nil_iff.mp empty)

theorem replace_every (filled : pattern ≠ "")
    (cuts : pieces.Cuts pattern.toList value.toList) (replacement : String) :
    replace pattern replacement value true = String.ofList (pieces.joined replacement.toList) := by
  have nonempty : ¬ pattern.isEmpty = true := fun empty => filled (String.isEmpty_iff.mp empty)
  rw [replace, if_pos rfl, if_neg nonempty, replaceEvery_eq_joined (toList_ne_nil filled) cuts]

theorem replace_first (cuts : pieces.Cuts pattern.toList value.toList) (replacement : String) :
    replace pattern replacement value false =
      String.ofList (pieces.joinedFirst replacement.toList pattern.toList) := by
  rw [replace, if_neg Bool.false_ne_true, replaceFirst_eq_joinedFirst cuts]

theorem replace_every_empty (replacement value : String) :
    replace "" replacement value true =
      String.join (value.toList.map fun char => replacement ++ String.singleton char) ++
        replacement := by
  apply String.toList_injective
  have empty : "".isEmpty = true := rfl
  rw [replace, if_pos rfl, if_pos empty, String.toList_ofList, interleave_eq_flatMap,
    String.toList_append, String.toList_join, List.flatMap_map]
  simp only [String.toList_append, String.toList_singleton]

theorem replace_first_empty (replacement value : String) :
    replace "" replacement value false = replacement ++ value := by
  apply String.toList_injective
  have front := replaceFirst_occurrence [] replacement.toList value.toList
  rw [List.nil_append] at front
  rw [replace, if_neg Bool.false_ne_true, String.toList_ofList, String.toList_append]
  exact front

/-- Nothing changes without an occurrence, or if occurrences are replaced by themselves. -/
theorem replace_eq_self (all : Bool)
    (idle : ¬ pattern.toList <:+: value.toList ∨ replacement = pattern) :
    replace pattern replacement value all = value := by
  by_cases empty : pattern = ""
  · subst empty
    have none : replacement = "" := idle.resolve_left fun absent => absent List.nil_infix
    subst none
    cases all with
    | false => rw [replace_first_empty, String.empty_append]
    | true =>
        apply String.toList_injective
        rw [replace_every_empty, String.append_empty, String.toList_join, List.flatMap_map]
        simp only [String.empty_append, String.toList_singleton, List.flatMap_singleton']
  · obtain ⟨⟨earlier, last⟩, cuts⟩ := exists_cuts (toList_ne_nil empty) value.toList
    have kept : Pieces.joined ⟨earlier, last⟩ replacement.toList = value.toList ∧
        Pieces.joinedFirst ⟨earlier, last⟩ replacement.toList pattern.toList = value.toList := by
      rcases idle with absent | rfl
      · obtain rfl : earlier = [] := cuts.earlier_eq_nil absent
        exact ⟨cuts.joined_eq, cuts.joined_eq⟩
      · exact ⟨cuts.joined_eq, (Pieces.joinedFirst_self _ _).trans cuts.joined_eq⟩
    cases all with
    | false => rw [replace_first cuts, kept.2, String.ofList_toList]
    | true => rw [replace_every empty cuts, kept.1, String.ofList_toList]

/-- Replacement takes the leftmost occurrences that do not overlap.  A pattern with at least one
character cuts a value into pieces in one way; the replacement goes between all of them, or
behind the first of them while the rest stays.  The empty pattern occurs before each character
and at the end. -/
theorem replace_leftmost (pattern replacement value : String) :
    (pattern ≠ "" → ∃ pieces : Pieces,
      (∀ other : Pieces, other.Cuts pattern.toList value.toList ↔ other = pieces) ∧
      replace pattern replacement value true = String.ofList (pieces.joined replacement.toList) ∧
      replace pattern replacement value false =
        String.ofList (pieces.joinedFirst replacement.toList pattern.toList) ∧
      (pieces.earlier.length ≤ 1 →
        replace pattern replacement value false = replace pattern replacement value true)) ∧
    replace "" replacement value true =
      String.join (value.toList.map fun char => replacement ++ String.singleton char) ++
        replacement ∧
    replace "" replacement value false = replacement ++ value ∧
    ∀ all, ¬ pattern.toList <:+: value.toList ∨ replacement = pattern →
      replace pattern replacement value all = value := by
  refine ⟨fun filled => ?_, replace_every_empty _ _, replace_first_empty _ _,
    fun all => replace_eq_self all⟩
  have chars := toList_ne_nil filled
  obtain ⟨pieces, cuts⟩ := exists_cuts chars value.toList
  have every := replace_every filled cuts replacement
  have first := replace_first cuts replacement
  refine ⟨pieces, fun other => ⟨fun cuts' => cuts'.unique chars cuts, fun same => same ▸ cuts⟩,
    every, first, fun few => ?_⟩
  rw [every, first, Pieces.joinedFirst_of_length_le_one few]

/-- Here the pattern overlaps itself, and the replacement makes a new occurrence with what follows
it, which stays. -/
theorem overlapping_leftmost :
    "aba" ≠ "" ∧
      (∃ pieces : Pieces,
        (∀ other : Pieces, other.Cuts "aba".toList "ababa-aba".toList ↔ other = pieces) ∧
        pieces = ⟨[[], ['b', 'a', '-']], []⟩ ∧
        replace "aba" "a" "ababa-aba" true = "aba-a" ∧
        replace "aba" "a" "ababa-aba" false = "aba-aba") ∧
      (¬ "abc".toList <:+: "ab".toList ∧ replace "abc" "x" "ab" true = "ab") := by
  obtain ⟨pieces, unique, every, first, -⟩ :=
    (replace_leftmost "aba" "a" "ababa-aba").1 (by decide)
  have cuts : Pieces.Cuts "aba".toList "ababa-aba".toList ⟨[[], ['b', 'a', '-']], []⟩ :=
    ⟨by decide, by decide, by decide⟩
  obtain rfl := (unique _).mp cuts
  have absent : ¬ "abc".toList <:+: "ab".toList := by decide
  exact ⟨by decide, ⟨_, unique, rfl, every.trans (by decide), first.trans (by decide)⟩, absent,
    (replace_leftmost "abc" "x" "ab").2.2.2 true (.inl absent)⟩

end Values

end ShellTree.Text
