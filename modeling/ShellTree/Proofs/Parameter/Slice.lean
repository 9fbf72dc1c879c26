import Mathlib.Algebra.Group.Int.Defs
import Mathlib.Data.String.Basic
import ShellTree.Parameter.Slice

/-!
# Slices in unbounded integers

A slice is defined here a second time, with integers of any size, and then a third
time, with numbers of 64 bits of which every sum and every access is checked.  The
checks never fail, so that no sum overflows and no index leaves the value, and all
three definitions agree.
-/

namespace ShellTree

namespace Slice

/-! ## Without bounds on integers -/

/-- The characters of a value from one index up to another, if these lie in it and in order. -/
def range? (value : String) (start stop : Int) : Option String :=
  if 0 ≤ start ∧ start ≤ stop ∧ stop ≤ value.length then
    some (String.ofList ((value.toList.drop start.toNat).take (stop - start).toNat))
  else none

/-- Where a slice that is given by a count begins: a negative offset is taken from the end. -/
def start (size offset : Int) : Int :=
  if offset < 0 then size + offset else offset

/-- Where a slice that is given by a count ends: a count stops at the end of the value, and a
negative one is taken from there. -/
def stop (size start : Int) : Option Int → Int
  | none => size
  | some count => if 0 ≤ count then min (start + count) size else size + count

/-- The slice in unbounded integers; nothing is given if it is out of range. -/
def unbounded? (mode : SliceMode) (value : String) (offset : Int) (bound : Option Int) :
    Option String :=
  let size : Int := value.length
  match mode with
  | .endIndex => range? value offset (bound.getD size)
  | .count =>
      let start := start size offset
      if start < 0 ∨ size ≤ start then some "" else range? value start (stop size start bound)

/-! ## With every step checked -/

def fit? (exact : Int) : Option Int64 :=
  if -2 ^ 63 ≤ exact ∧ exact < 2 ^ 63 then some (.ofInt exact) else none

def checkedBetween (chars : List Char) (start stop : Int64) : Option String :=
  if 0 ≤ start.toInt ∧ start.toInt ≤ stop.toInt ∧ stop.toInt ≤ chars.length then
    some (between chars start stop)
  else none

def checkedFrom (chars : List Char) (size start : Int64) (outOfRange : Failure) :
    Option Int64 → Option (Except Failure String)
  | none => (checkedBetween chars start size).map .ok
  | some count =>
      if count < 0 then
        (fit? (size.toInt + count.toInt)).bind fun stop =>
          if stop < start then some (.error outOfRange)
          else (checkedBetween chars start stop).map .ok
      else
        (fit? (size.toInt - start.toInt)).bind fun room =>
          if count ≤ room then
            (fit? (start.toInt + count.toInt)).bind fun stop =>
              (checkedBetween chars start stop).map .ok
          else (checkedBetween chars start size).map .ok

/-- The slice, but nothing if a sum does not fit or an index is out of range. -/
def checked? (mode : SliceMode) (value : String) (offset : Int64) (bound : Option Int64) :
    Option (Except Failure String) :=
  (fit? value.toList.length).bind fun size =>
    let outOfRange := Failure.sliceOutOfRange offset (bound.getD size) value.toList.length
    match mode with
    | .endIndex =>
        if offset < 0 ∨ offset > bound.getD size ∨ bound.getD size > size then
          some (.error outOfRange)
        else (checkedBetween value.toList offset (bound.getD size)).map .ok
    | .count =>
        (if offset < 0 then fit? (size.toInt + offset.toInt) else some offset).bind fun start =>
          if start < 0 ∨ start ≥ size then some (.ok "")
          else checkedFrom value.toList size start outOfRange bound

theorem eq_of_fit? {exact : Int} {number : Int64} (fits : fit? exact = some number) :
    number = .ofInt exact := by
  unfold fit? at fits
  split at fits
  · exact (Option.some.inj fits).symm
  · cases fits

/-- A sum that fits is the sum of 64-bit numbers. -/
theorem add_of_fit? {left right sum : Int64} (fits : fit? (left.toInt + right.toInt) = some sum) :
    left + right = sum := by
  rw [eq_of_fit? fits, Int64.ofInt_add, Int64.ofInt_toInt, Int64.ofInt_toInt]

theorem fit?_of_range {exact : Int} (low : -2 ^ 63 ≤ exact) (high : exact < 2 ^ 63) :
    ∃ number, fit? exact = some number ∧ number.toInt = exact := by
  refine ⟨.ofInt exact, if_pos ⟨low, high⟩, ?_⟩
  exact Int64.toInt_ofInt_of_le low high

theorem eq_of_checkedBetween {chars : List Char} {start stop : Int64} {text : String}
    (inside : checkedBetween chars start stop = some text) : text = between chars start stop := by
  unfold checkedBetween at inside
  split at inside
  · exact (Option.some.inj inside).symm
  · cases inside

/-- The checks of an access are those of the characters between two integers. -/
theorem checkedBetween_eq_range? (value : String) (start stop : Int64) :
    checkedBetween value.toList start stop = range? value start.toInt stop.toInt := by
  unfold checkedBetween range?
  rw [String.length_toList]
  split
  · next inside =>
      have count : stop.toNatClampNeg - start.toNatClampNeg = (stop.toInt - start.toInt).toNat := by
        rw [← Int64.toNat_toInt, ← Int64.toNat_toInt]
        omega
      rw [between, count, ← Int64.toNat_toInt]
  · rfl

theorem eq_between_of_map {chars : List Char} {start stop : Int64}
    {result : Except Failure String}
    (inside : (checkedBetween chars start stop).map .ok = some result) :
    result = .ok (between chars start stop) := by
  obtain ⟨text, between, rfl⟩ := Option.map_eq_some_iff.mp inside
  rw [eq_of_checkedBetween between]

/-- Where no check fails, the slice is the checked one. -/
theorem slice_of_checked? {mode : SliceMode} {value : String} {offset : Int64}
    {bound : Option Int64} {result : Except Failure String}
    (checked : checked? mode value offset bound = some result) :
    slice mode value offset bound = result := by
  unfold checked? at checked
  obtain ⟨size, fits, checked⟩ := Option.bind_eq_some_iff.mp checked
  have whole := eq_of_fit? fits
  rw [Int64.ofInt_eq_ofNat] at whole
  subst whole
  cases mode with
  | endIndex =>
      simp only [slice] at checked ⊢
      split at checked
      · next outside => rw [if_pos outside, Option.some.inj checked]
      · next inside => rw [if_neg inside, eq_between_of_map checked]
  | count =>
      obtain ⟨start, begins, checked⟩ := Option.bind_eq_some_iff.mp checked
      have first : (if offset < 0 then Int64.ofNat value.toList.length + offset else offset) =
          start := by
        split at begins
        · next negative => rw [if_pos negative, add_of_fit? begins]
        · next positive => rw [if_neg positive, Option.some.inj begins]
      simp only [slice, first]
      split at checked
      · next outside => rw [if_pos outside, Option.some.inj checked]
      · next inside =>
          rw [if_neg inside]
          cases bound with
          | none => exact (eq_between_of_map checked).symm
          | some count =>
              unfold checkedFrom at checked
              dsimp only at checked ⊢
              split at checked
              · next negative =>
                  obtain ⟨stop, ends, checked⟩ := Option.bind_eq_some_iff.mp checked
                  rw [if_pos negative, add_of_fit? ends]
                  split at checked
                  · next outside => rw [if_pos outside, Option.some.inj checked]
                  · next ordered => rw [if_neg ordered, eq_between_of_map checked]
              · next positive =>
                  obtain ⟨room, left, checked⟩ := Option.bind_eq_some_iff.mp checked
                  have rest := eq_of_fit? left
                  rw [Int64.ofInt_sub, Int64.ofInt_toInt, Int64.ofInt_toInt] at rest
                  rw [if_neg positive, ← rest]
                  split at checked
                  · next short =>
                      obtain ⟨stop, ends, checked⟩ := Option.bind_eq_some_iff.mp checked
                      rw [if_pos short, eq_between_of_map checked, add_of_fit? ends]
                  · next long => rw [if_neg long, eq_between_of_map checked]

/-! ## Agreement -/

def settle (failure : Failure) : Option String → Except Failure String
  | some text => .ok text
  | none => .error failure

theorem map_checkedBetween {value : String} {start stop : Int64} (low : 0 ≤ start.toInt)
    (ordered : start.toInt ≤ stop.toInt) (high : stop.toInt ≤ value.length) (failure : Failure) :
    (checkedBetween value.toList start stop).map .ok =
      some (settle failure (range? value start.toInt stop.toInt)) := by
  rw [checkedBetween_eq_range?, range?, if_pos ⟨low, ordered, high⟩]
  rfl

theorem range?_of_not_ordered {value : String} {start stop : Int}
    (outside : ¬ (0 ≤ start ∧ start ≤ stop ∧ stop ≤ value.length)) :
    range? value start stop = none :=
  if_neg outside

section

variable {value : String} {size : Int64} (whole : size.toInt = value.length)

include whole

theorem checkedFrom_eq {start : Int64} (low : 0 ≤ start.toInt) (inside : start.toInt < size.toInt)
    (failure : Failure) (bound : Option Int64) :
    checkedFrom value.toList size start failure bound =
      some (settle failure (range? value start.toInt
        (stop size.toInt start.toInt (bound.map Int64.toInt)))) := by
  have largest := size.toInt_lt
  cases bound with
  | none => exact map_checkedBetween low (Int.le_of_lt inside) (Int.le_of_eq whole) failure
  | some count =>
      have least := count.le_toInt
      simp only [checkedFrom, stop, Option.map_some, Int64.lt_iff_toInt_lt, Int64.le_iff_toInt_le,
        Int64.toInt_zero]
      by_cases negative : count.toInt < 0
      · obtain ⟨last, fits, lands⟩ := fit?_of_range (by omega : -2 ^ 63 ≤ size.toInt + count.toInt)
          (by omega)
        rw [if_pos negative, if_neg (by omega), fits, Option.bind_some]
        by_cases early : last.toInt < start.toInt
        · rw [if_pos early, range?_of_not_ordered (by omega)]
          rfl
        · rw [if_neg early, ← lands]
          exact map_checkedBetween low (by omega) (by omega) failure
      · obtain ⟨room, fits, left⟩ := fit?_of_range (by omega : -2 ^ 63 ≤ size.toInt - start.toInt)
          (by omega)
        rw [if_neg negative, if_pos (by omega), fits, Option.bind_some]
        by_cases short : count.toInt ≤ room.toInt
        · obtain ⟨last, fits, lands⟩ :=
            fit?_of_range (by omega : -2 ^ 63 ≤ start.toInt + count.toInt) (by omega)
          rw [if_pos short, fits, Option.bind_some, min_eq_left (by omega), ← lands]
          exact map_checkedBetween low (by omega) (by omega) failure
        · rw [if_neg short, min_eq_right (by omega)]
          exact map_checkedBetween low (by omega) (by omega) failure

theorem exists_start (offset : Int64) :
    ∃ first, (if offset < 0 then fit? (size.toInt + offset.toInt) else some offset) = some first ∧
      first.toInt = start size.toInt offset.toInt := by
  have largest := size.toInt_lt
  have least := offset.le_toInt
  simp only [start, Int64.lt_iff_toInt_lt, Int64.toInt_zero]
  split
  · exact fit?_of_range (by omega) (by omega)
  · exact ⟨offset, rfl, rfl⟩

theorem getD_toInt (bound : Option Int64) :
    (bound.getD size).toInt = (bound.map Int64.toInt).getD value.length := by
  cases bound with
  | none => exact whole
  | some stop => rfl

end

/-- No check fails, and what the checked slice gives is the slice in unbounded integers. -/
theorem checked?_eq (mode : SliceMode) {value : String} (offset : Int64) (bound : Option Int64)
    (fits : value.length < 2 ^ 63) :
    checked? mode value offset bound =
      some (settle (.sliceOutOfRange offset (bound.getD (.ofNat value.length)) value.length)
        (unbounded? mode value offset.toInt (bound.map Int64.toInt))) := by
  obtain ⟨size, sized, whole⟩ :=
    fit?_of_range (by omega : -2 ^ 63 ≤ (value.length : Int)) (by omega)
  have named := eq_of_fit? sized
  rw [Int64.ofInt_eq_ofNat] at named
  unfold checked? unbounded?
  rw [String.length_toList, sized, Option.bind_some, ← named]
  cases mode with
  | endIndex =>
      have last := getD_toInt whole bound
      simp only [Int64.lt_iff_toInt_lt, Int64.toInt_zero, gt_iff_lt, ← last]
      by_cases inside : 0 ≤ offset.toInt ∧ offset.toInt ≤ (bound.getD size).toInt ∧
          (bound.getD size).toInt ≤ value.length
      · obtain ⟨low, ordered, high⟩ := inside
        rw [if_neg (by omega)]
        exact map_checkedBetween low ordered high _
      · rw [if_pos (by omega), range?_of_not_ordered inside]
        rfl
  | count =>
      obtain ⟨first, begins, lands⟩ := exists_start whole offset
      simp only [begins, Option.bind_some, ← whole, ← lands]
      simp only [Int64.lt_iff_toInt_lt, Int64.le_iff_toInt_le, Int64.toInt_zero, ge_iff_le]
      by_cases outside : first.toInt < 0 ∨ size.toInt ≤ first.toInt
      · rw [if_pos outside, if_pos outside]
        rfl
      · rw [if_neg outside, if_neg outside]
        exact checkedFrom_eq whole (by omega) (by omega) _ bound

theorem slice_eq_settle (mode : SliceMode) {value : String} (offset : Int64)
    (bound : Option Int64) (fits : value.length < 2 ^ 63) :
    slice mode value offset bound =
      settle (.sliceOutOfRange offset (bound.getD (.ofNat value.length)) value.length)
        (unbounded? mode value offset.toInt (bound.map Int64.toInt)) :=
  slice_of_checked? (checked?_eq mode offset bound fits)

/-! ## Two slices that make up a value -/

theorem unbounded?_take (mode : SliceMode) {value : String} {index : Int} (low : 0 ≤ index)
    (high : index ≤ value.length) :
    unbounded? mode value 0 (some index) =
      some (String.ofList (value.toList.take index.toNat)) := by
  have front : range? value 0 index = some (String.ofList (value.toList.take index.toNat)) := by
    rw [range?, if_pos ⟨Int.le_refl 0, low, high⟩, Int.sub_zero]
    rfl
  cases mode with
  | endIndex => exact front
  | count =>
      by_cases empty : (value.length : Int) ≤ 0
      · have nothing : value.toList = [] := by
          rw [← List.length_eq_zero_iff, String.length_toList]
          omega
        simp only [unbounded?, start, Int.lt_irrefl, if_false, empty, or_true, if_true, nothing,
          List.take_nil, String.ofList_nil]
      · simp only [unbounded?, start, stop, Int.lt_irrefl, if_false, empty, or_false, low, if_true,
          Int.zero_add, min_eq_left high]
        exact front

theorem unbounded?_drop (mode : SliceMode) {value : String} {index : Int} (low : 0 ≤ index)
    (high : index ≤ value.length) :
    unbounded? mode value index none = some (String.ofList (value.toList.drop index.toNat)) := by
  have back : range? value index value.length =
      some (String.ofList (value.toList.drop index.toNat)) := by
    rw [range?, if_pos ⟨low, high, Int.le_refl _⟩, List.take_of_length_le]
    rw [List.length_drop, String.length_toList]
    omega
  cases mode with
  | endIndex => exact back
  | count =>
      have positive : ¬ index < 0 := Int.not_lt.mpr low
      by_cases whole : (value.length : Int) ≤ index
      · have rest : value.toList.drop index.toNat = [] := by
          rw [List.drop_eq_nil_iff, String.length_toList]
          omega
        simp only [unbounded?, start, positive, if_false, whole, or_true, if_true, rest,
          String.ofList_nil]
      · simp only [unbounded?, start, stop, positive, if_false, whole, or_false]
        exact back

end Slice

/-- A slice agrees with its definition in unbounded integers, in both modes: it fails where that
gives nothing, and names its bounds and the size.  No sum that it takes overflows and no index
leaves the value.  The slices up to an index and from there on make up the value. -/
theorem slice_exact (mode : SliceMode) (value : String) (offset : Int64) (bound : Option Int64)
    (fits : value.length < 2 ^ 63) :
    slice mode value offset bound =
        Slice.settle (.sliceOutOfRange offset (bound.getD (.ofNat value.length)) value.length)
          (Slice.unbounded? mode value offset.toInt (bound.map Int64.toInt)) ∧
      Slice.checked? mode value offset bound = some (slice mode value offset bound) ∧
      ∀ index : Int64, 0 ≤ index.toInt → index.toInt ≤ value.length →
        ∃ front back, slice mode value 0 (some index) = .ok front ∧
          slice mode value index none = .ok back ∧ front ++ back = value := by
  have checked := Slice.checked?_eq mode offset bound fits
  have agrees := Slice.slice_eq_settle mode offset bound fits
  refine ⟨agrees, ?_, fun index low high => ?_⟩
  · rw [checked, agrees]
  · refine ⟨.ofList (value.toList.take index.toInt.toNat),
      .ofList (value.toList.drop index.toInt.toNat), ?_, ?_, ?_⟩
    · rw [Slice.slice_eq_settle mode 0 (some index) fits, Option.map_some, Int64.toInt_zero,
        Slice.unbounded?_take mode low high]
      rfl
    · rw [Slice.slice_eq_settle mode index none fits, Option.map_none,
        Slice.unbounded?_drop mode low high]
      rfl
    · rw [← String.ofList_append, List.take_append_drop, String.ofList_toList]

/-- A negative offset and a negative count in a value whose characters take up to four bytes. -/
theorem slice_wide_exact :
    "aé𝄞b".length < 2 ^ 63 ∧ slice .count "aé𝄞b" (-3) (some (-1)) = .ok "é𝄞" ∧
      Slice.checked? .count "aé𝄞b" (-3) (some (-1)) = some (.ok "é𝄞") ∧
      ∃ front back, slice .count "aé𝄞b" 0 (some 2) = .ok front ∧
        slice .count "aé𝄞b" 2 none = .ok back ∧ front ++ back = "aé𝄞b" := by
  have fits : "aé𝄞b".length < 2 ^ 63 := by decide
  obtain ⟨agrees, checked, parts⟩ := slice_exact .count "aé𝄞b" (-3) (some (-1)) fits
  have text : slice .count "aé𝄞b" (-3) (some (-1)) = .ok "é𝄞" := agrees.trans (by decide +kernel)
  rw [text] at checked
  exact ⟨fits, text, checked, parts 2 (by decide) (by decide)⟩

end ShellTree
