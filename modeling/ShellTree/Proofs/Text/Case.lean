import ShellTree.Proofs.Lists
import ShellTree.Proofs.Text.Digit
import ShellTree.Text.Case.Basic

/-!
# Stable case mappings

A case mapping sends no character to one that it sends elsewhere: what its runs and
expansions map to lies outside of all that they map.  Both are sets of code points,
and as bits of two numbers they are compared at once.  So a mapped text stays as it is
when it is mapped again, whatever stands around its characters; in particular no
capital sigma is left, whose mapping depends on that.
-/

namespace ShellTree.Text

/-! ## Sets of code points -/

/-- The set of `count` numbers from zero on in steps of `stride`, as bits. -/
def comb (stride : Nat) : Nat → Nat
  | 0 => 0
  | count + 1 => comb stride count <<< stride ||| 1

theorem testBit_comb (stride : Nat) {place count : Nat} (inside : place < count) :
    (comb stride count).testBit (stride * place) = true := by
  induction count generalizing place with
  | zero => cases inside
  | succ count ih =>
      rw [comb, Nat.testBit_or, Nat.testBit_shiftLeft]
      cases place with
      | zero => simp
      | succ place =>
          have known := ih (Nat.lt_of_succ_lt_succ inside)
          simp [Nat.mul_succ, known]

def union (sets : List Nat) : Nat :=
  sets.foldr (· ||| ·) 0

theorem testBit_union {sets : List Nat} {set code : Nat} (member : set ∈ sets)
    (bit : set.testBit code = true) : (union sets).testBit code = true := by
  induction sets with
  | nil => cases member
  | cons first rest ih =>
      rw [union, List.foldr_cons, Nat.testBit_or, Bool.or_eq_true]
      rcases List.mem_cons.mp member with rfl | later
      · exact .inl bit
      · exact .inr (ih later)

namespace Run

/-- The code points that a run maps, if they start at the given one. -/
def bitsAt (run : Run) (start : Nat) : Nat :=
  comb run.stride ((run.last - run.first) / run.stride + 1) <<< start

def isScalar (run : Run) : Bool :=
  let last := run.target + (run.last - run.first)
  last < 0xD800 || (0xDFFF < run.target && last < 0x110000)

variable {run : Run} {code target : Nat}

theorem map?_eq_some_iff :
    run.map? code = some target ↔
      (run.first ≤ code ∧ code ≤ run.last ∧ (code - run.first) % run.stride = 0) ∧
        run.target + (code - run.first) = target := by
  rw [map?, Option.ite_none_right_eq_some, Option.some_inj]

theorem testBit_bitsAt (mapped : run.map? code = some target) (start : Nat) :
    (run.bitsAt start).testBit (start + (code - run.first)) = true := by
  obtain ⟨⟨low, high, step⟩, -⟩ := map?_eq_some_iff.mp mapped
  have place : run.stride * ((code - run.first) / run.stride) = code - run.first :=
    Nat.mul_div_cancel' (Nat.dvd_of_mod_eq_zero step)
  have inside : (code - run.first) / run.stride < (run.last - run.first) / run.stride + 1 :=
    Nat.lt_succ_of_le (Nat.div_le_div_right (Nat.sub_le_sub_right high run.first))
  have bit := testBit_comb run.stride inside
  rw [place] at bit
  rw [bitsAt, Nat.testBit_shiftLeft, Nat.add_sub_cancel_left, bit]
  simp

theorem isValidChar_of_map? (scalar : run.isScalar = true) (mapped : run.map? code = some target) :
    target.isValidChar := by
  obtain ⟨⟨low, high, -⟩, rfl⟩ := map?_eq_some_iff.mp mapped
  simp only [isScalar, Bool.or_eq_true, Bool.and_eq_true, decide_eq_true_eq] at scalar
  have valid : run.target + (code - run.first) < 0xD800 ∨
      0xDFFF < run.target + (code - run.first) ∧
        run.target + (code - run.first) < 0x110000 := by omega
  exact valid

end Run

/-! ## Mappings -/

section

variable {expansions : List (Nat × List Nat)} {runs : List Run}

/-- All that a mapping does: its runs, and one code point to one for each part of an expansion. -/
def pieces (expansions : List (Nat × List Nat)) (runs : List Run) : List Run :=
  runs ++ expansions.flatMap fun expansion =>
    expansion.2.map fun target => ⟨expansion.1, expansion.1, 1, target⟩

/-- A mapping gives at least one character for each, and none that it maps itself. -/
structure Stable (expansions : List (Nat × List Nat)) (runs : List Run) : Prop where
  filled : (expansions.all fun expansion => !expansion.2.isEmpty) = true
  scalar : ((pieces expansions runs).all Run.isScalar) = true
  apart : union ((pieces expansions runs).map fun run => run.bitsAt run.first) &&&
    union ((pieces expansions runs).map fun run => run.bitsAt run.target) = 0

theorem mem_pieces_of_expansion {code target : Nat} {codes : List Nat}
    (listed : (code, codes) ∈ expansions) (member : target ∈ codes) :
    ⟨code, code, 1, target⟩ ∈ pieces expansions runs :=
  List.mem_append_right _
    (List.mem_flatMap.mpr ⟨(code, codes), listed, List.mem_map_of_mem member⟩)

theorem Run.map?_single (code target : Nat) :
    Run.map? ⟨code, code, 1, target⟩ code = some target := by
  simp [Run.map?]

/-- A character that a mapping gives is the mapped one, left as it is, or comes from a piece. -/
theorem exists_piece_of_mem_mapChar {char mapped : Char}
    (member : mapped ∈ mapChar expansions runs char) :
    (mapped = char ∧ mapChar expansions runs char = [char]) ∨
      ∃ run ∈ pieces expansions runs, ∃ target, run.map? char.toNat = some target ∧
        mapped = Char.ofNat target := by
  unfold mapChar at member ⊢
  split at member
  · next codes found =>
      obtain ⟨target, part, rfl⟩ := List.mem_map.mp member
      exact .inr ⟨_, mem_pieces_of_expansion (mem_of_lookup found) part, target,
        Run.map?_single _ _, rfl⟩
  · split at member
    · next target found =>
        obtain ⟨run, listed, image⟩ := List.exists_of_findSome?_eq_some found
        exact .inr ⟨run, List.mem_append_left _ listed, target, image,
          List.mem_singleton.mp member⟩
    · exact .inl ⟨List.mem_singleton.mp member, rfl⟩

namespace Stable

variable (stable : Stable expansions runs)

include stable

/-- A character that no piece maps stays as it is. -/
theorem mapChar_eq_self {char : Char}
    (unmapped : ∀ run ∈ pieces expansions runs, run.map? char.toNat = none) :
    mapChar expansions runs char = [char] := by
  have whole : expansions.lookup char.toNat = none := by
    cases found : expansions.lookup char.toNat with
    | none => rfl
    | some codes =>
        have listed := mem_of_lookup found
        have filled := List.all_eq_true.mp stable.filled _ listed
        cases codes with
        | nil => cases filled
        | cons target others =>
            have piece := unmapped _ (mem_pieces_of_expansion listed List.mem_cons_self)
            rw [Run.map?_single] at piece
            cases piece
  have single : mapCode? runs char.toNat = none := by
    rw [mapCode?, List.findSome?_eq_none_iff]
    intro run listed
    exact unmapped run (List.mem_append_left _ listed)
  rw [mapChar, whole, single]

theorem mapChar_ne_nil (char : Char) : mapChar expansions runs char ≠ [] := by
  unfold mapChar
  split
  · next codes found =>
      have filled := List.all_eq_true.mp stable.filled _ (mem_of_lookup found)
      rintro empty
      rw [List.map_eq_nil_iff.mp empty] at filled
      cases filled
  · split <;> exact List.cons_ne_nil _ _

/-- What one piece maps to is mapped by none. -/
theorem map?_eq_none {run other : Run} (listed : run ∈ pieces expansions runs)
    (listed' : other ∈ pieces expansions runs) {code target : Nat}
    (image : run.map? code = some target) : other.map? target = none := by
  cases again : other.map? target with
  | none => rfl
  | some further =>
      have hit : (union ((pieces expansions runs).map fun run => run.bitsAt run.target)).testBit
          target = true := by
        have bit := Run.testBit_bitsAt image run.target
        rw [(Run.map?_eq_some_iff.mp image).2] at bit
        exact testBit_union (List.mem_map_of_mem listed) bit
      have source : (union ((pieces expansions runs).map fun run => run.bitsAt run.first)).testBit
          target = true := by
        have bit := Run.testBit_bitsAt again other.first
        rw [Nat.add_sub_cancel' (Run.map?_eq_some_iff.mp again).1.1] at bit
        exact testBit_union (List.mem_map_of_mem listed') bit
      have both := congrArg (fun set => set.testBit target) stable.apart
      simp only [Nat.testBit_and, hit, source, Nat.zero_testBit] at both
      cases both

/-- Characters that a mapping gives are left as they are by it. -/
theorem mapChar_mapped {char mapped : Char} (member : mapped ∈ mapChar expansions runs char) :
    mapChar expansions runs mapped = [mapped] := by
  rcases exists_piece_of_mem_mapChar member with ⟨rfl, same⟩ | ⟨run, listed, target, image, rfl⟩
  · exact same
  · have scalar := List.all_eq_true.mp stable.scalar run listed
    have code : (Char.ofNat target).toNat = target :=
      Digit.toNat_ofNat (Run.isValidChar_of_map? scalar image)
    refine stable.mapChar_eq_self ?_
    rw [code]
    exact fun other listed' => stable.map?_eq_none listed listed' image

end Stable

theorem upper_stable : Stable upperExpansions upperRuns where
  filled := by decide +kernel
  scalar := by decide +kernel
  apart := by decide +kernel

theorem lower_stable : Stable lowerExpansions lowerRuns where
  filled := by decide +kernel
  scalar := by decide +kernel
  apart := by decide +kernel

end

/-! ## Texts in a case -/

def mapOne : LetterCase → Char → List Char
  | .upper => mapChar upperExpansions upperRuns
  | .lower => mapChar lowerExpansions lowerRuns

/-- The character is in the given case already, or it has no case. -/
def Settled (direction : LetterCase) (char : Char) : Prop :=
  mapOne direction char = [char]

theorem settled_of_mem_mapOne {direction : LetterCase} {char mapped : Char}
    (member : mapped ∈ mapOne direction char) : Settled direction mapped := by
  cases direction with
  | upper => exact upper_stable.mapChar_mapped member
  | lower => exact lower_stable.mapChar_mapped member

theorem mapOne_sigma : mapOne .lower 'Σ' = ['σ'] := by
  decide +kernel

theorem settled_lowerSigma (before after : List Char) :
    Settled .lower (lowerSigma before after) := by
  have final : mapOne .lower 'ς' = ['ς'] := by decide +kernel
  have other : mapOne .lower 'σ' = ['σ'] := by decide +kernel
  unfold lowerSigma
  split
  · exact final
  · exact other

theorem settled_of_mem_lowerAfter {before chars : List Char} {mapped : Char}
    (member : mapped ∈ lowerAfter before chars) : Settled .lower mapped := by
  induction chars generalizing before with
  | nil => cases member
  | cons char rest ih =>
      rw [lowerAfter] at member
      rcases List.mem_append.mp member with here | later
      · split at here
        · rw [List.mem_singleton.mp here]
          exact settled_lowerSigma before rest
        · exact settled_of_mem_mapOne here
      · exact ih later

theorem settled_of_mem_toCase {direction : LetterCase} {chars : List Char} {mapped : Char}
    (member : mapped ∈ toCase direction chars) : Settled direction mapped := by
  cases direction with
  | upper =>
      obtain ⟨char, -, part⟩ := List.mem_flatMap.mp member
      exact upper_stable.mapChar_mapped part
  | lower => exact settled_of_mem_lowerAfter member

/-- A capital sigma is not settled, so what stands around characters does not count. -/
theorem lowerAfter_of_settled {chars : List Char} (settled : ∀ char ∈ chars, Settled .lower char)
    (before : List Char) : lowerAfter before chars = chars := by
  induction chars generalizing before with
  | nil => rfl
  | cons char rest ih =>
      obtain ⟨here, later⟩ := List.forall_mem_cons.mp settled
      have other : char ≠ 'Σ' := by
        rintro rfl
        rw [Settled, mapOne_sigma] at here
        exact absurd here (by decide)
      rw [lowerAfter, if_neg other, ih later]
      exact congrArg (· ++ rest) here

theorem toCase_of_settled {direction : LetterCase} {chars : List Char}
    (settled : ∀ char ∈ chars, Settled direction char) : toCase direction chars = chars := by
  cases direction with
  | upper =>
      induction chars with
      | nil => rfl
      | cons char rest ih =>
          obtain ⟨here, later⟩ := List.forall_mem_cons.mp settled
          have others : upper rest = rest := ih later
          change mapOne .upper char ++ upper rest = char :: rest
          rw [here, others, List.singleton_append]
  | lower => exact lowerAfter_of_settled settled []

/-- Where nothing stands around it, a capital sigma is mapped like other characters. -/
theorem toCase_singleton (direction : LetterCase) (char : Char) :
    toCase direction [char] = mapOne direction char := by
  cases direction with
  | upper => exact List.flatMap_singleton _ _
  | lower =>
      change lowerAfter [] [char] = _
      rw [lowerAfter, lowerAfter, List.append_nil]
      split
      · next sigma => rw [sigma, mapOne_sigma, lowerSigma, nearestCased]; rfl
      · rfl

theorem exists_mapOne_eq_cons (direction : LetterCase) (char : Char) :
    ∃ head tail, mapOne direction char = head :: tail ∧ Settled direction head := by
  have nonempty : mapOne direction char ≠ [] := by
    cases direction with
    | upper => exact upper_stable.mapChar_ne_nil char
    | lower => exact lower_stable.mapChar_ne_nil char
  obtain ⟨head, tail, whole⟩ := List.exists_cons_of_ne_nil nonempty
  have member : head ∈ mapOne direction char := whole ▸ List.mem_cons_self
  exact ⟨head, tail, whole, settled_of_mem_mapOne member⟩

theorem modifyCase_all (direction : LetterCase) (value : String) :
    modifyCase direction true value = String.ofList (toCase direction value.toList) :=
  rfl

theorem modifyCase_singleton (direction : LetterCase) (char : Char) :
    modifyCase direction true (String.singleton char) = String.ofList (mapOne direction char) := by
  rw [modifyCase_all, String.toList_singleton, toCase_singleton]

theorem modifyCase_first (direction : LetterCase) (first : Char) (rest : List Char) :
    modifyCase direction false (String.ofList (first :: rest)) =
      String.ofList (mapOne direction first ++ rest) := by
  simp only [modifyCase, String.toList_ofList, Bool.false_eq_true, if_false, toCase_singleton]

/-- A settled character stays as it is, and where only the first character is mapped, the mapped
text starts with a settled one. -/
theorem modifyCase_twice (direction : LetterCase) (all : Bool) (value : String) :
    modifyCase direction all (modifyCase direction all value) = modifyCase direction all value := by
  cases all with
  | true =>
      simp only [modifyCase_all, String.toList_ofList]
      rw [toCase_of_settled fun char member => settled_of_mem_toCase member]
  | false =>
      rw [← String.ofList_toList (s := value)]
      cases value.toList with
      | nil => rfl
      | cons first rest =>
          obtain ⟨head, tail, whole, settled⟩ := exists_mapOne_eq_cons direction first
          rw [modifyCase_first, whole, List.cons_append, modifyCase_first, settled,
            List.singleton_append]

/-- Bringing a text to a case once is enough.  If all characters are brought to it, each character
of the result is in it; if only the first one is, then all that follows it is kept, however many
characters the first one is mapped to. -/
theorem modifyCase_settles (direction : LetterCase) (value : String) :
    (∀ all, modifyCase direction all (modifyCase direction all value) =
      modifyCase direction all value) ∧
    (∀ char ∈ (modifyCase direction true value).toList,
      modifyCase direction true (String.singleton char) = String.singleton char) ∧
    modifyCase direction false "" = "" ∧
    ∀ (first : Char) (rest : String),
      modifyCase direction false (String.singleton first ++ rest) =
        modifyCase direction true (String.singleton first) ++ rest ∧
      modifyCase direction true (String.singleton first) ≠ "" := by
  refine ⟨fun all => modifyCase_twice direction all value, ?_, ?_, ?_⟩
  · intro char member
    rw [modifyCase_all, String.toList_ofList] at member
    rw [modifyCase_singleton, settled_of_mem_toCase member, String.singleton_eq_ofList]
  · rfl
  · intro first rest
    obtain ⟨head, tail, whole, -⟩ := exists_mapOne_eq_cons direction first
    constructor
    · have joined : String.singleton first ++ rest = String.ofList (first :: rest.toList) := by
        rw [String.ofList_cons, String.ofList_toList]
      rw [joined, modifyCase_first, modifyCase_singleton, String.ofList_append,
        String.ofList_toList]
    · rw [modifyCase_singleton, whole]
      simp

/-- The last sigma of each word is a final one, and the mapping of the dotted capital has two
characters. -/
theorem word_ends_settle :
    'ς' ∈ (modifyCase .lower true "ΣΑΣ İΣ").toList ∧
      modifyCase .lower true "ΣΑΣ İΣ" = "σας i̇ς" ∧
      modifyCase .lower true "σας i̇ς" = "σας i̇ς" ∧
      modifyCase .lower true "ς" = "ς" := by
  have lowered : modifyCase .lower true "ΣΑΣ İΣ" = "σας i̇ς" := by decide +kernel
  have member : 'ς' ∈ (modifyCase .lower true "ΣΑΣ İΣ").toList := by decide +kernel
  obtain ⟨twice, settled, -⟩ := modifyCase_settles .lower "ΣΑΣ İΣ"
  have again := twice true
  rw [lowered] at again
  exact ⟨member, lowered, again, settled 'ς' member⟩

end ShellTree.Text
