import Mathlib.Data.Nat.Find
import ShellTree.Proofs.Text.Digit
import ShellTree.Proofs.Text.Utf8

/-!
# Bytes that are no text

Bytes are taken apart from the front.  Where the bytes of a character come next, they
stand for that character.  Where no character comes next, the longest piece that could
begin one stands for one replacement character, and so does a byte that begins none.
Lossy decoding gives exactly the characters of this partition, and a text that stands
between other bytes is one part of it.
-/

namespace ShellTree.Utf8

/-- The bytes are the first ones of some character. -/
def Opens (bytes : List UInt8) : Prop :=
  ∃ char, bytes <+: String.utf8EncodeChar char

/-- No character comes next, and the broken piece is the longest one at the front that
begins a character, or a byte that begins none. -/
structure Broken (broken rest : List UInt8) : Prop where
  nonempty : broken ≠ []
  begun : broken.length = 1 ∨ Opens broken
  ill : ∀ char, ¬ String.utf8EncodeChar char <+: broken ++ rest
  longest : ∀ piece, piece <+: broken ++ rest → Opens piece → piece.length ≤ broken.length

/-- The bytes stand for the characters, where a replacement character stands for each broken
piece. -/
inductive Lossy : List UInt8 → List Char → Prop where
  | nil : Lossy [] []
  | char {rest : List UInt8} {chars : List Char} (char : Char) (more : Lossy rest chars) :
      Lossy (String.utf8EncodeChar char ++ rest) (char :: chars)
  | broken {broken rest : List UInt8} {chars : List Char} (piece : Broken broken rest)
      (more : Lossy rest chars) : Lossy (broken ++ rest) (replacement :: chars)

/-! ## The bytes of a character -/

theorem toNat_val_ofNat {code : Nat}
    (valid : code < 0xD800 ∨ 0xDFFF < code ∧ code < 0x110000) :
    (Char.ofNat code).val.toNat = code :=
  Digit.toNat_ofNat valid

theorem encode_one {code : Nat} (high : code < 0x80) :
    String.utf8EncodeChar (Char.ofNat code) = [UInt8.ofNat code] := by
  have value := toNat_val_ofNat (.inl (by omega) : code < 0xD800 ∨ _)
  simp only [String.utf8EncodeChar, value, if_pos (Nat.le_of_lt_succ high)]

theorem encode_two {lead tail : Nat} (low : 2 ≤ lead) (high : lead < 32) (small : tail < 64) :
    String.utf8EncodeChar (Char.ofNat (lead * 64 + tail)) =
      [UInt8.ofNat (lead + 0xC0), UInt8.ofNat (tail + 0x80)] := by
  generalize whole : lead * 64 + tail = code
  have value := toNat_val_ofNat (.inl (by omega) : code < 0xD800 ∨ _)
  have first : code / 64 % 0x20 = lead := by omega
  have second : code % 0x40 = tail := by omega
  simp only [String.utf8EncodeChar, value, if_neg (by omega : ¬ code ≤ 0x7F),
    if_pos (by omega : code ≤ 0x7FF), first, second]

theorem encode_three {lead middle tail : Nat} (high : lead < 16) (small : middle < 64)
    (small' : tail < 64) (long : lead = 0 → 32 ≤ middle) (scalar : lead = 13 → middle < 32) :
    String.utf8EncodeChar (Char.ofNat ((lead * 64 + middle) * 64 + tail)) =
      [UInt8.ofNat (lead + 0xE0), UInt8.ofNat (middle + 0x80), UInt8.ofNat (tail + 0x80)] := by
  generalize whole : (lead * 64 + middle) * 64 + tail = code
  have value : (Char.ofNat code).val.toNat = code := toNat_val_ofNat (by omega)
  have first : code / 4096 % 0x10 = lead := by omega
  have second : code / 64 % 0x40 = middle := by omega
  have third : code % 0x40 = tail := by omega
  simp only [String.utf8EncodeChar, value, if_neg (by omega : ¬ code ≤ 0x7F),
    if_neg (by omega : ¬ code ≤ 0x7FF), if_pos (by omega : code ≤ 0xFFFF), first, second, third]

theorem encode_four {lead middle middle' tail : Nat} (high : lead < 5) (small : middle < 64)
    (small' : middle' < 64) (small'' : tail < 64) (long : lead = 0 → 16 ≤ middle)
    (scalar : lead = 4 → middle < 16) :
    String.utf8EncodeChar (Char.ofNat (((lead * 64 + middle) * 64 + middle') * 64 + tail)) =
      [UInt8.ofNat (lead + 0xF0), UInt8.ofNat (middle + 0x80), UInt8.ofNat (middle' + 0x80),
        UInt8.ofNat (tail + 0x80)] := by
  generalize whole : ((lead * 64 + middle) * 64 + middle') * 64 + tail = code
  have value : (Char.ofNat code).val.toNat = code := toNat_val_ofNat (by omega)
  have first : code / 262144 % 0x08 = lead := by omega
  have second : code / 4096 % 0x40 = middle := by omega
  have third : code / 64 % 0x40 = middle' := by omega
  have fourth : code % 0x40 = tail := by omega
  simp only [String.utf8EncodeChar, value, if_neg (by omega : ¬ code ≤ 0x7F),
    if_neg (by omega : ¬ code ≤ 0x7FF), if_neg (by omega : ¬ code ≤ 0xFFFF), first, second,
    third, fourth]

/-- The sequences of bytes that write one character, by their first byte.  The second byte keeps
out numbers that have shorter sequences, surrogates, and numbers above the last character. -/
inductive Sequence : List UInt8 → Prop where
  | one {code : Nat} (high : code < 0x80) : Sequence [UInt8.ofNat code]
  | two {lead tail : Nat} (low : 2 ≤ lead) (high : lead < 32) (small : tail < 64) :
      Sequence [UInt8.ofNat (lead + 0xC0), UInt8.ofNat (tail + 0x80)]
  | three {lead middle tail : Nat} (high : lead < 16) (small : middle < 64) (small' : tail < 64)
      (long : lead = 0 → 32 ≤ middle) (scalar : lead = 13 → middle < 32) :
      Sequence [UInt8.ofNat (lead + 0xE0), UInt8.ofNat (middle + 0x80),
        UInt8.ofNat (tail + 0x80)]
  | four {lead middle middle' tail : Nat} (high : lead < 5) (small : middle < 64)
      (small' : middle' < 64) (small'' : tail < 64) (long : lead = 0 → 16 ≤ middle)
      (scalar : lead = 4 → middle < 16) :
      Sequence [UInt8.ofNat (lead + 0xF0), UInt8.ofNat (middle + 0x80),
        UInt8.ofNat (middle' + 0x80), UInt8.ofNat (tail + 0x80)]

namespace Sequence

theorem exists_char {bytes : List UInt8} (sequence : Sequence bytes) :
    ∃ char, String.utf8EncodeChar char = bytes := by
  cases sequence with
  | one high => exact ⟨_, encode_one high⟩
  | two low high small => exact ⟨_, encode_two low high small⟩
  | three high small small' long scalar =>
      exact ⟨_, encode_three high small small' long scalar⟩
  | four high small small' small'' long scalar =>
      exact ⟨_, encode_four high small small' small'' long scalar⟩

theorem ofChar (char : Char) : Sequence (String.utf8EncodeChar char) := by
  have whole : Char.ofNat char.val.toNat = char := Char.ofNat_toNat char
  have valid : char.val.toNat < 0xD800 ∨ 0xDFFF < char.val.toNat ∧ char.val.toNat < 0x110000 :=
    char.valid
  generalize char.val.toNat = code at whole valid
  subst whole
  by_cases one : code < 0x80
  · rw [encode_one one]
    exact .one one
  by_cases two : code < 0x800
  · have split : code = code / 64 * 64 + code % 64 := by omega
    rw [split, encode_two (by omega) (by omega) (by omega)]
    exact .two (by omega) (by omega) (by omega)
  by_cases three : code < 0x10000
  · have split : code = (code / 4096 * 64 + code / 64 % 64) * 64 + code % 64 := by omega
    rw [split, encode_three (by omega) (by omega) (by omega) (by omega) (by omega)]
    exact .three (by omega) (by omega) (by omega) (by omega) (by omega)
  · have split : code = ((code / 262144 * 64 + code / 4096 % 64) * 64 + code / 64 % 64) * 64 +
        code % 64 := by omega
    rw [split, encode_four (by omega) (by omega) (by omega) (by omega) (by omega) (by omega)]
    exact .four (by omega) (by omega) (by omega) (by omega) (by omega) (by omega)

/-- The first byte of a character never goes on with a sequence. -/
theorem first_apart {first : UInt8} {others : List UInt8} (sequence : Sequence (first :: others)) :
    first.toNat < 0x80 ∨ 0xBF < first.toNat := by
  cases sequence with
  | one high =>
      rw [Decoder.toNat_ofNat (by omega)]
      exact .inl high
  | two low high small =>
      rw [Decoder.toNat_ofNat (by omega)]
      omega
  | three high small small' long scalar =>
      rw [Decoder.toNat_ofNat (by omega)]
      omega
  | four high small small' small'' long scalar =>
      rw [Decoder.toNat_ofNat (by omega)]
      omega

end Sequence

/-! ## Unfinished sequences -/

/-- The bytes of an unfinished sequence with what the decoder keeps of them. -/
inductive Held : List UInt8 → Pending → Prop where
  | two {lead : Nat} (low : 2 ≤ lead) (high : lead < 32) :
      Held [UInt8.ofNat (lead + 0xC0)] ⟨1, 0x80, 0xBF, lead⟩
  | three {lead : Nat} (high : lead < 16) :
      Held [UInt8.ofNat (lead + 0xE0)]
        ⟨2, if lead = 0 then 0xA0 else 0x80, if lead = 13 then 0x9F else 0xBF, lead⟩
  | lastOfThree {lead middle : Nat} (high : lead < 16) (small : middle < 64)
      (long : lead = 0 → 32 ≤ middle) (scalar : lead = 13 → middle < 32) :
      Held [UInt8.ofNat (lead + 0xE0), UInt8.ofNat (middle + 0x80)]
        ⟨1, 0x80, 0xBF, lead * 64 + middle⟩
  | four {lead : Nat} (high : lead < 5) :
      Held [UInt8.ofNat (lead + 0xF0)]
        ⟨3, if lead = 0 then 0x90 else 0x80, if lead = 4 then 0x8F else 0xBF, lead⟩
  | thirdOfFour {lead middle : Nat} (high : lead < 5) (small : middle < 64)
      (long : lead = 0 → 16 ≤ middle) (scalar : lead = 4 → middle < 16) :
      Held [UInt8.ofNat (lead + 0xF0), UInt8.ofNat (middle + 0x80)]
        ⟨2, 0x80, 0xBF, lead * 64 + middle⟩
  | lastOfFour {lead middle middle' : Nat} (high : lead < 5) (small : middle < 64)
      (small' : middle' < 64) (long : lead = 0 → 16 ≤ middle) (scalar : lead = 4 → middle < 16) :
      Held [UInt8.ofNat (lead + 0xF0), UInt8.ofNat (middle + 0x80), UInt8.ofNat (middle' + 0x80)]
        ⟨1, 0x80, 0xBF, (lead * 64 + middle) * 64 + middle'⟩

/-- The first bytes of a character, but not all of them, are an unfinished sequence. -/
theorem Sequence.exists_held {whole front : List UInt8} (sequence : Sequence whole)
    (part : front <+: whole) (nonempty : front ≠ []) (proper : front ≠ whole) :
    ∃ pending, Held front pending := by
  have positive := List.length_pos_iff.mpr nonempty
  have shorter : front.length < whole.length :=
    Nat.lt_of_le_of_ne part.length_le fun same => proper (part.eq_of_length same)
  have taken := List.prefix_iff_eq_take.mp part
  generalize front.length = count at positive shorter taken
  subst taken
  cases sequence with
  | one high =>
      rw [List.length_singleton] at shorter
      omega
  | two low high small =>
      obtain rfl : count = 1 := Nat.le_antisymm (Nat.le_of_lt_succ shorter) positive
      exact ⟨_, .two low high⟩
  | three high small small' long scalar =>
      have counts : count = 1 ∨ count = 2 := by
        simp only [List.length_cons, List.length_nil] at shorter
        omega
      rcases counts with rfl | rfl
      · exact ⟨_, .three high⟩
      · exact ⟨_, .lastOfThree high small long scalar⟩
  | four high small small' small'' long scalar =>
      have counts : count = 1 ∨ count = 2 ∨ count = 3 := by
        simp only [List.length_cons, List.length_nil] at shorter
        omega
      rcases counts with rfl | rfl | rfl
      · exact ⟨_, .four high⟩
      · exact ⟨_, .thirdOfFour high small long scalar⟩
      · exact ⟨_, .lastOfFour high small small' long scalar⟩

/-- A bound that holds in a special case only, for a byte that goes on with a sequence. -/
theorem low_le_iff {special : Prop} [Decidable special] {bound : UInt8} {least number : Nat}
    (value : bound.toNat = least + 0x80) :
    (if special then bound else 0x80).toNat ≤ number + 0x80 ↔ (special → least ≤ number) := by
  split
  · next holds => simp [value, holds]
  · next fails => exact iff_of_true (Nat.le_add_left _ _) fun holds => absurd holds fails

theorem le_high_iff {special : Prop} [Decidable special] {bound : UInt8} {most number : Nat}
    (value : bound.toNat = most + 0x80) (small : number < 64) :
    number + 0x80 ≤ (if special then bound else 0xBF).toNat ↔ (special → number ≤ most) := by
  split
  · next holds => simp [value, holds]
  · next fails =>
      exact iff_of_true (Nat.add_le_add_right (Nat.le_of_lt_succ small) 0x80) fun holds =>
        absurd holds fails

namespace Held

variable {bytes : List UInt8} {pending : Pending}

open Decoder in
/-- The decoder keeps of an unfinished sequence what it should. -/
theorem foldl_step (held : Held bytes pending) (chars : List Char) :
    bytes.foldl step ⟨chars, none⟩ = ⟨chars, some pending⟩ := by
  have above {number : Nat} (low : 0x80 ≤ number) (high : number < 256) :
      0x80 ≤ (UInt8.ofNat number).toNat := by rwa [toNat_ofNat high]
  cases held with
  | two low high =>
      exact step_lead chars (above (by omega) (by omega)) (Pending.ofLead?_two low high)
  | three high => exact step_lead chars (above (by omega) (by omega)) (Pending.ofLead?_three high)
  | four high => exact step_lead chars (above (by omega) (by omega)) (Pending.ofLead?_four high)
  | lastOfThree high small long scalar =>
      have lead := step_lead chars (above (by omega) (by omega)) (Pending.ofLead?_three high)
      rw [List.foldl_cons, lead]
      exact step_more chars small ((low_le_iff rfl).mpr long)
        ((le_high_iff rfl small).mpr fun last => Nat.le_of_lt_succ (scalar last))
  | thirdOfFour high small long scalar =>
      have lead := step_lead chars (above (by omega) (by omega)) (Pending.ofLead?_four high)
      rw [List.foldl_cons, lead]
      exact step_more chars small ((low_le_iff rfl).mpr long)
        ((le_high_iff rfl small).mpr fun last => Nat.le_of_lt_succ (scalar last))
  | lastOfFour high small small' long scalar =>
      have lead := step_lead chars (above (by omega) (by omega)) (Pending.ofLead?_four high)
      rw [List.foldl_cons, lead, List.foldl_cons, step_more chars small ((low_le_iff rfl).mpr long)
        ((le_high_iff rfl small).mpr fun last => Nat.le_of_lt_succ (scalar last))]
      exact step_more chars small' (Nat.le_add_left _ _)
        (Nat.add_le_add_right (Nat.le_of_lt_succ small') 0x80)

theorem bounds (held : Held bytes pending) :
    0x80 ≤ pending.low.toNat ∧ pending.low ≤ pending.high ∧ pending.high.toNat ≤ 0xBF := by
  have wide : 0x80 ≤ (0x80 : UInt8).toNat ∧ (0x80 : UInt8) ≤ 0xBF ∧
      (0xBF : UInt8).toNat ≤ 0xBF := by decide
  cases held with
  | two low high => exact wide
  | lastOfThree high small long scalar => exact wide
  | thirdOfFour high small long scalar => exact wide
  | lastOfFour high small small' long scalar => exact wide
  | three high => dsimp only; split <;> split <;> first | omega | decide
  | four high => dsimp only; split <;> split <;> first | omega | decide

/-- A byte that the decoder takes goes on with a character: the least bytes that may follow fill
the sequence up. -/
theorem opens_append (held : Held bytes pending) {next : UInt8} (low : pending.low ≤ next)
    (high : next ≤ pending.high) : Opens (bytes ++ [next]) := by
  have low := UInt8.le_iff_toNat_le.mp low
  have high := UInt8.le_iff_toNat_le.mp high
  obtain ⟨least, -, most⟩ := held.bounds
  obtain ⟨tail, value⟩ := Nat.exists_eq_add_of_le' (Nat.le_trans least low)
  have small : tail < 64 := by omega
  obtain rfl : next = UInt8.ofNat (tail + 0x80) := by rw [← value, UInt8.ofNat_toNat]
  rw [value] at low high
  have opens (others : List UInt8)
      (sequence : Sequence (bytes ++ [UInt8.ofNat (tail + 0x80)] ++ others)) :
      Opens (bytes ++ [UInt8.ofNat (tail + 0x80)]) := by
    obtain ⟨char, same⟩ := sequence.exists_char
    exact ⟨char, others, same.symm⟩
  have zero : 0 < 64 := by decide
  cases held with
  | two low' high' => exact opens [] (.two low' high' small)
  | three high' =>
      have long := (low_le_iff rfl).mp low
      have scalar := (le_high_iff rfl small).mp high
      exact opens [UInt8.ofNat (0 + 0x80)]
        (.three high' small zero long fun last => Nat.lt_succ_of_le (scalar last))
  | lastOfThree high' small' long scalar =>
      exact opens [] (.three high' small' small long scalar)
  | four high' =>
      have long := (low_le_iff rfl).mp low
      have scalar := (le_high_iff rfl small).mp high
      exact opens [UInt8.ofNat (0 + 0x80), UInt8.ofNat (0 + 0x80)]
        (.four high' small zero zero long fun last => Nat.lt_succ_of_le (scalar last))
  | thirdOfFour high' small' long scalar =>
      exact opens [UInt8.ofNat (0 + 0x80)] (.four high' small' small zero long scalar)
  | lastOfFour high' small' small'' long scalar =>
      exact opens [] (.four high' small' small'' small long scalar)

theorem opens (held : Held bytes pending) : Opens bytes := by
  obtain ⟨-, order, -⟩ := held.bounds
  obtain ⟨char, part⟩ := held.opens_append (UInt8.le_refl _) order
  exact ⟨char, (List.prefix_append _ _).trans part⟩

end Held

/-- What the decoder keeps of a first byte is an unfinished sequence. -/
theorem held_of_ofLead? {byte : UInt8} {pending : Pending}
    (lead : Pending.ofLead? byte = some pending) : Held [byte] pending := by
  have offset (base : Nat) (low : base ≤ byte.toNat) :
      byte = UInt8.ofNat (byte.toNat - base + base) := by
    rw [Nat.sub_add_cancel low, UInt8.ofNat_toNat]
  have lower : ¬ byte < 0xC2 := by
    intro low
    rw [Pending.ofLead?, if_pos low] at lead
    cases lead
  have upper : byte.toNat < 0xF5 := by
    have table : ∀ place : Fin 11, Pending.ofLead? (UInt8.ofNat (place.val + 0xF5)) = none := by
      decide
    have small := byte.toNat_lt
    by_contra high
    rw [offset 0xF5 (by omega), table ⟨byte.toNat - 0xF5, by omega⟩] at lead
    cases lead
  have low : 0xC2 ≤ byte.toNat := UInt8.le_iff_toNat_le.mp (UInt8.not_lt.mp lower)
  by_cases two : byte.toNat < 0xE0
  · rw [offset 0xC0 (by omega)] at lead ⊢
    rw [Pending.ofLead?_two (by omega) (by omega)] at lead
    cases lead
    exact .two (by omega) (by omega)
  by_cases three : byte.toNat < 0xF0
  · rw [offset 0xE0 (by omega)] at lead ⊢
    rw [Pending.ofLead?_three (by omega)] at lead
    cases lead
    exact .three (by omega)
  · rw [offset 0xF0 (by omega)] at lead ⊢
    rw [Pending.ofLead?_four (by omega)] at lead
    cases lead
    exact .four (by omega)

/-! ## What lossy decoding gives -/

/-- What was decoded before comes first. -/
theorem finish_foldl_step (chars : List Char) (bytes : List UInt8) :
    (bytes.foldl Decoder.step ⟨chars, none⟩).finish = chars.reverse ++ decodeLossy bytes := by
  have apart := Decoder.foldl_step_append bytes [] chars none
  rw [List.nil_append] at apart
  rw [apart, Decoder.finish_append]
  rfl

theorem decodeLossy_char_append (char : Char) (rest : List UInt8) :
    decodeLossy (String.utf8EncodeChar char ++ rest) = char :: decodeLossy rest := by
  rw [decodeLossy, List.foldl_append, Decoder.foldl_step_char, finish_foldl_step]
  rfl

namespace Broken

variable {broken rest : List UInt8}

theorem foldl_step_of_not_opens (piece : Broken broken rest) (closed : ¬ Opens broken) :
    broken.foldl Decoder.step {} = ⟨[replacement], none⟩ := by
  have single := piece.begun.resolve_right closed
  obtain ⟨byte, rfl⟩ := List.length_eq_one_iff.mp single
  have high : ¬ byte < 0x80 := by
    intro low
    have same := encode_one (UInt8.lt_iff_toNat_lt.mp low)
    rw [UInt8.ofNat_toNat] at same
    exact closed ⟨Char.ofNat byte.toNat, [], by rw [same, List.append_nil]⟩
  have lead : Pending.ofLead? byte = none := by
    cases found : Pending.ofLead? byte with
    | none => rfl
    | some pending => exact absurd (held_of_ofLead? found).opens closed
  simp only [List.foldl_cons, List.foldl_nil, Decoder.step, Decoder.start, if_neg high, lead]

/-- The piece cannot go on with the next byte, so the decoder starts anew there. -/
theorem decodeLossy_append (piece : Broken broken rest) :
    decodeLossy (broken ++ rest) = replacement :: decodeLossy rest := by
  by_cases opens : Opens broken
  · obtain ⟨char, part⟩ := opens
    have proper : broken ≠ String.utf8EncodeChar char := by
      intro whole
      exact piece.ill char (whole ▸ List.prefix_append _ _)
    obtain ⟨pending, held⟩ := (Sequence.ofChar char).exists_held part piece.nonempty proper
    rw [decodeLossy, List.foldl_append, held.foldl_step]
    cases rest with
    | nil => rfl
    | cons next others =>
        have outside : ¬ (pending.low ≤ next ∧ next ≤ pending.high) := by
          rintro ⟨low, high⟩
          have part : broken ++ [next] <+: broken ++ next :: others := ⟨others, by simp⟩
          have longer := piece.longest _ part (held.opens_append low high)
          rw [List.length_append, List.length_singleton] at longer
          omega
        have anew : Decoder.step ⟨[], some pending⟩ next =
            Decoder.step ⟨[replacement], none⟩ next := by
          simp only [Decoder.step, if_neg outside]
        rw [List.foldl_cons, anew, ← List.foldl_cons, finish_foldl_step]
        rfl
  · rw [decodeLossy, List.foldl_append, piece.foldl_step_of_not_opens opens, finish_foldl_step]
    rfl

end Broken

theorem Lossy.decodeLossy_eq {bytes : List UInt8} {chars : List Char} (lossy : Lossy bytes chars) :
    decodeLossy bytes = chars := by
  induction lossy with
  | nil => rfl
  | char char more ih => rw [decodeLossy_char_append, ih]
  | broken piece more ih => rw [piece.decodeLossy_append, ih]

theorem exists_broken {bytes : List UInt8} (nonempty : bytes ≠ [])
    (ill : ∀ char, ¬ String.utf8EncodeChar char <+: bytes) :
    ∃ broken rest, broken ++ rest = bytes ∧ Broken broken rest := by
  classical
  let fits (count : Nat) : Prop := count = 1 ∨ Opens (bytes.take count)
  have positive : 1 ≤ bytes.length := List.length_pos_iff.mpr nonempty
  have first : fits 1 := .inl rfl
  generalize longest : Nat.findGreatest fits bytes.length = count
  have low : 1 ≤ count := longest ▸ Nat.le_findGreatest positive first
  have high : count ≤ bytes.length := longest ▸ Nat.findGreatest_le _
  have fit : fits count := longest ▸ Nat.findGreatest_spec positive first
  have length : (bytes.take count).length = count := List.length_take_of_le high
  refine ⟨bytes.take count, bytes.drop count, List.take_append_drop _ _, ?_⟩
  constructor
  · rw [← List.length_pos_iff, length]
    exact low
  · rw [length]
    exact fit
  · rwa [List.take_append_drop]
  · intro piece part opens
    rw [List.take_append_drop] at part
    rw [length, ← longest]
    have taken := List.prefix_iff_eq_take.mp part
    exact Nat.le_findGreatest part.length_le (.inr (taken ▸ opens))

theorem exists_lossy (bytes : List UInt8) : ∃ chars, Lossy bytes chars := by
  induction length : bytes.length using Nat.strongRecOn generalizing bytes with
  | ind count ih =>
      subst length
      by_cases empty : bytes = []
      · exact ⟨[], empty ▸ .nil⟩
      by_cases next : ∃ char, String.utf8EncodeChar char <+: bytes
      · obtain ⟨char, rest, rfl⟩ := next
        have shorter : rest.length < (String.utf8EncodeChar char ++ rest).length := by
          have positive := List.length_pos_iff.mpr (String.utf8EncodeChar_ne_nil (c := char))
          rw [List.length_append]
          omega
        obtain ⟨chars, more⟩ := ih rest.length shorter rest rfl
        exact ⟨char :: chars, .char char more⟩
      · obtain ⟨broken, rest, rfl, piece⟩ := exists_broken empty (not_exists.mp next)
        have shorter : rest.length < (broken ++ rest).length := by
          have positive := List.length_pos_iff.mpr piece.nonempty
          rw [List.length_append]
          omega
        obtain ⟨chars, more⟩ := ih rest.length shorter rest rfl
        exact ⟨replacement :: chars, .broken piece more⟩

/-- Bytes stand for the characters that lossy decoding gives, and for no others. -/
theorem lossy_iff {bytes : List UInt8} {chars : List Char} :
    Lossy bytes chars ↔ decodeLossy bytes = chars := by
  constructor
  · exact Lossy.decodeLossy_eq
  · rintro rfl
    obtain ⟨chars, lossy⟩ := exists_lossy bytes
    exact lossy.decodeLossy_eq ▸ lossy

/-! ## Texts behind other bytes -/

namespace Decoder

/-- The decoder takes only bytes that no character starts with. -/
def Waits (decoder : Decoder) : Prop :=
  ∀ pending ∈ decoder.pending, 0x80 ≤ pending.low.toNat ∧ pending.high.toNat ≤ 0xBF

theorem start_waits (chars : List Char) (byte : UInt8) : (start chars byte).Waits := by
  unfold start
  split
  · nofun
  · split
    · next pending lead =>
        rintro _ ⟨⟩
        obtain ⟨low, -, high⟩ := (held_of_ofLead? lead).bounds
        exact ⟨low, high⟩
    · nofun

theorem step_waits (decoder : Decoder) (byte : UInt8) : (decoder.step byte).Waits := by
  unfold step
  split
  · exact start_waits _ _
  · dsimp only
    split
    · split
      · nofun
      · rintro _ ⟨⟩
        exact ⟨Nat.le_refl 0x80, Nat.le_refl 0xBF⟩
    · exact start_waits _ _

theorem foldl_step_waits (bytes : List UInt8) {decoder : Decoder} (waits : decoder.Waits) :
    (bytes.foldl step decoder).Waits := by
  induction bytes generalizing decoder with
  | nil => exact waits
  | cons byte rest ih => exact ih (step_waits decoder byte)

/-- At the first byte of a character the decoder starts anew. -/
theorem step_first {decoder : Decoder} (waits : decoder.Waits) {byte : UInt8}
    (apart : byte.toNat < 0x80 ∨ 0xBF < byte.toNat) :
    decoder.step byte = step ⟨decoder.finish.reverse, none⟩ byte := by
  obtain ⟨chars, pending⟩ := decoder
  cases pending with
  | none => simp only [finish, List.reverse_reverse]
  | some pending =>
      have outside : ¬ (pending.low ≤ byte ∧ byte ≤ pending.high) := by
        obtain ⟨least, most⟩ := waits pending rfl
        rw [UInt8.le_iff_toNat_le, UInt8.le_iff_toNat_le]
        omega
      simp only [step, if_neg outside, finish, List.reverse_reverse]

theorem finish_foldl_step_text {decoder : Decoder} (waits : decoder.Waits) (text : List Char) :
    ((text.flatMap String.utf8EncodeChar).foldl step decoder).finish = decoder.finish ++ text := by
  cases text with
  | nil => exact (List.append_nil _).symm
  | cons char rest =>
      have anew : (String.utf8EncodeChar char).foldl step decoder =
          (String.utf8EncodeChar char).foldl step ⟨decoder.finish.reverse, none⟩ := by
        have sequence := Sequence.ofChar char
        cases bytes : String.utf8EncodeChar char with
        | nil => exact absurd bytes String.utf8EncodeChar_ne_nil
        | cons first others =>
            rw [bytes] at sequence
            rw [List.foldl_cons, step_first waits sequence.first_apart, ← List.foldl_cons]
      rw [List.flatMap_cons, List.foldl_append, anew, ← List.foldl_append, ← List.flatMap_cons,
        foldl_step_chars]
      simp [finish]

end Decoder

/-- No broken piece takes a byte of a text that follows it. -/
theorem decodeLossy_append_toUTF8 (bytes : List UInt8) (text : String) :
    decodeLossy (bytes ++ text.toUTF8.data.toList) = decodeLossy bytes ++ text.toList := by
  have waits : Decoder.Waits {} := by
    rintro _ ⟨⟩
  rw [decodeLossy, List.foldl_append, toList_toUTF8]
  exact Decoder.finish_foldl_step_text (Decoder.foldl_step_waits bytes waits) text.toList

end ShellTree.Utf8
