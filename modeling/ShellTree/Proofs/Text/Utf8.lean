import ShellTree.Text.Utf8

/-!
# Decoding what was encoded

Reading the bytes of a character between two characters gives that character and
leaves nothing pending.  So the bytes of a text at the front decode to that text, and
what follows decodes on its own.
-/

namespace ShellTree.Utf8

namespace Pending

theorem ofLead?_two {lead : Nat} (low : 2 ≤ lead) (high : lead < 32) :
    ofLead? (UInt8.ofNat (lead + 0xC0)) = some ⟨1, 0x80, 0xBF, lead⟩ := by
  have table : ∀ lead : Fin 32, 2 ≤ lead.val →
      ofLead? (UInt8.ofNat (lead.val + 0xC0)) = some ⟨1, 0x80, 0xBF, lead.val⟩ := by decide
  exact table ⟨lead, high⟩ low

theorem ofLead?_three {lead : Nat} (high : lead < 16) :
    ofLead? (UInt8.ofNat (lead + 0xE0)) =
      some ⟨2, if lead = 0 then 0xA0 else 0x80, if lead = 0xD then 0x9F else 0xBF, lead⟩ := by
  have table : ∀ lead : Fin 16, ofLead? (UInt8.ofNat (lead.val + 0xE0)) =
      some ⟨2, if lead.val = 0 then 0xA0 else 0x80, if lead.val = 0xD then 0x9F else 0xBF,
        lead.val⟩ := by decide
  exact table ⟨lead, high⟩

theorem ofLead?_four {lead : Nat} (high : lead < 5) :
    ofLead? (UInt8.ofNat (lead + 0xF0)) =
      some ⟨3, if lead = 0 then 0x90 else 0x80, if lead = 4 then 0x8F else 0xBF, lead⟩ := by
  have table : ∀ lead : Fin 5, ofLead? (UInt8.ofNat (lead.val + 0xF0)) =
      some ⟨3, if lead.val = 0 then 0x90 else 0x80, if lead.val = 4 then 0x8F else 0xBF,
        lead.val⟩ := by decide
  exact table ⟨lead, high⟩

end Pending

namespace Decoder

/-- A byte that starts a longer sequence. -/
theorem step_lead {byte : UInt8} {pending : Pending} (chars : List Char)
    (high : 0x80 ≤ byte.toNat) (lead : Pending.ofLead? byte = some pending) :
    step ⟨chars, none⟩ byte = ⟨chars, some pending⟩ := by
  have not_ascii : ¬ byte < 0x80 := by
    rw [UInt8.lt_iff_toNat_lt]
    exact Nat.not_lt.mpr high
  simp only [step, start, if_neg not_ascii, lead]

theorem toNat_ofNat {number : Nat} (small : number < 256) :
    (UInt8.ofNat number).toNat = number :=
  UInt8.toNat_ofNat_of_lt' small

/-- A byte that goes on with a sequence. -/
theorem step_tail {tail : Nat} (chars : List Char) {pending : Pending} (small : tail < 64)
    (low : pending.low.toNat ≤ tail + 0x80) (high : tail + 0x80 ≤ pending.high.toNat) :
    step ⟨chars, some pending⟩ (UInt8.ofNat (tail + 0x80)) =
      if pending.owed = 1 then ⟨Char.ofNat (pending.code * 64 + tail) :: chars, none⟩
      else ⟨chars, some ⟨pending.owed - 1, 0x80, 0xBF, pending.code * 64 + tail⟩⟩ := by
  have value : (UInt8.ofNat (tail + 0x80)).toNat = tail + 0x80 := toNat_ofNat (by omega)
  have fits : pending.low ≤ UInt8.ofNat (tail + 0x80) ∧
      UInt8.ofNat (tail + 0x80) ≤ pending.high := by
    rw [UInt8.le_iff_toNat_le, UInt8.le_iff_toNat_le, value]
    exact ⟨low, high⟩
  simp only [step, if_pos fits, value, Nat.add_sub_cancel]

/-- The last byte of a sequence. -/
theorem step_last {tail code : Nat} (chars : List Char) (small : tail < 64) :
    step ⟨chars, some ⟨1, 0x80, 0xBF, code⟩⟩ (UInt8.ofNat (tail + 0x80)) =
      ⟨Char.ofNat (code * 64 + tail) :: chars, none⟩ := by
  rw [step_tail chars small (Nat.le_add_left _ _) (by change _ ≤ 0xBF; omega)]
  rfl

/-- A byte of a sequence that is not the last one. -/
theorem step_more {owed tail code : Nat} {least most : UInt8} (chars : List Char)
    (small : tail < 64) (low : least.toNat ≤ tail + 0x80) (high : tail + 0x80 ≤ most.toNat) :
    step ⟨chars, some ⟨owed + 2, least, most, code⟩⟩ (UInt8.ofNat (tail + 0x80)) =
      ⟨chars, some ⟨owed + 1, 0x80, 0xBF, code * 64 + tail⟩⟩ := by
  rw [step_tail chars small low high]
  exact if_neg (by omega : ¬ owed + 2 = 1)

theorem foldl_step_one {code : Nat} (high : code ≤ 0x7F) (chars : List Char) :
    [UInt8.ofNat code].foldl step ⟨chars, none⟩ = ⟨Char.ofNat code :: chars, none⟩ := by
  have value : (UInt8.ofNat code).toNat = code := toNat_ofNat (by omega)
  have small : UInt8.ofNat code < 0x80 := by
    rw [UInt8.lt_iff_toNat_lt, value]
    exact Nat.lt_succ_of_le high
  simp only [List.foldl_cons, List.foldl_nil, step, start, if_pos small, value]

theorem foldl_step_two {code : Nat} (low : 0x7F < code) (high : code ≤ 0x7FF)
    (chars : List Char) :
    [UInt8.ofNat (code / 64 % 0x20 + 0xC0), UInt8.ofNat (code % 0x40 + 0x80)].foldl step
      ⟨chars, none⟩ = ⟨Char.ofNat code :: chars, none⟩ := by
  have lead : code / 64 % 0x20 = code / 64 := by omega
  have first : 0x80 ≤ (UInt8.ofNat (code / 64 + 0xC0)).toNat := by
    rw [toNat_ofNat (by omega)]
    omega
  have some_bits : 2 ≤ code / 64 := by omega
  have five_bits : code / 64 < 32 := by omega
  have pending := Pending.ofLead?_two some_bits five_bits
  have same : code / 64 * 64 + code % 0x40 = code := by omega
  rw [lead, List.foldl_cons, step_lead chars first pending, List.foldl_cons,
    step_last chars (by omega), same, List.foldl_nil]

theorem foldl_step_three {code : Nat} (low : 0x7FF < code) (high : code ≤ 0xFFFF)
    (valid : code < 0xD800 ∨ 0xDFFF < code) (chars : List Char) :
    [UInt8.ofNat (code / 4096 % 0x10 + 0xE0), UInt8.ofNat (code / 64 % 0x40 + 0x80),
        UInt8.ofNat (code % 0x40 + 0x80)].foldl step ⟨chars, none⟩ =
      ⟨Char.ofNat code :: chars, none⟩ := by
  have lead : code / 4096 % 0x10 = code / 4096 := by omega
  have first : 0x80 ≤ (UInt8.ofNat (code / 4096 + 0xE0)).toNat := by
    rw [toNat_ofNat (by omega)]
    omega
  have four_bits : code / 4096 < 16 := by omega
  have pending := Pending.ofLead?_three four_bits
  have lower : (if code / 4096 = 0 then 0xA0 else 0x80 : UInt8).toNat ≤
      code / 64 % 0x40 + 0x80 := by
    split
    · change 0xA0 ≤ _
      omega
    · change 0x80 ≤ _
      omega
  have upper : code / 64 % 0x40 + 0x80 ≤
      (if code / 4096 = 0xD then 0x9F else 0xBF : UInt8).toNat := by
    split
    · change _ ≤ 0x9F
      omega
    · change _ ≤ 0xBF
      omega
  have same : (code / 4096 * 64 + code / 64 % 0x40) * 64 + code % 0x40 = code := by omega
  rw [lead, List.foldl_cons, step_lead chars first pending, List.foldl_cons,
    step_more chars (by omega) lower upper, List.foldl_cons, step_last chars (by omega), same,
    List.foldl_nil]

theorem foldl_step_four {code : Nat} (low : 0xFFFF < code) (high : code < 0x110000)
    (chars : List Char) :
    [UInt8.ofNat (code / 262144 % 0x08 + 0xF0), UInt8.ofNat (code / 4096 % 0x40 + 0x80),
        UInt8.ofNat (code / 64 % 0x40 + 0x80), UInt8.ofNat (code % 0x40 + 0x80)].foldl step
      ⟨chars, none⟩ = ⟨Char.ofNat code :: chars, none⟩ := by
  have lead : code / 262144 % 0x08 = code / 262144 := by omega
  have first : 0x80 ≤ (UInt8.ofNat (code / 262144 + 0xF0)).toNat := by
    rw [toNat_ofNat (by omega)]
    omega
  have planes : code / 262144 < 5 := by omega
  have pending := Pending.ofLead?_four planes
  have lower : (if code / 262144 = 0 then 0x90 else 0x80 : UInt8).toNat ≤
      code / 4096 % 0x40 + 0x80 := by
    split
    · change 0x90 ≤ _
      omega
    · change 0x80 ≤ _
      omega
  have upper : code / 4096 % 0x40 + 0x80 ≤
      (if code / 262144 = 4 then 0x8F else 0xBF : UInt8).toNat := by
    split
    · change _ ≤ 0x8F
      omega
    · change _ ≤ 0xBF
      omega
  have middle : code / 64 % 0x40 + 0x80 ≤ (0xBF : UInt8).toNat := by
    change _ ≤ 0xBF
    omega
  have same : ((code / 262144 * 64 + code / 4096 % 0x40) * 64 + code / 64 % 0x40) * 64 +
      code % 0x40 = code := by omega
  rw [lead, List.foldl_cons, step_lead chars first pending, List.foldl_cons,
    step_more chars (by omega) lower upper, List.foldl_cons,
    step_more chars (by omega) (Nat.le_add_left _ _) middle, List.foldl_cons,
    step_last chars (by omega), same, List.foldl_nil]

/-- The bytes of a character are read as that character. -/
theorem foldl_step_char (char : Char) (chars : List Char) :
    (String.utf8EncodeChar char).foldl step ⟨chars, none⟩ = ⟨char :: chars, none⟩ := by
  have whole : Char.ofNat char.val.toNat = char := Char.ofNat_toNat char
  have valid : char.val.toNat < 0xD800 ∨ 0xDFFF < char.val.toNat ∧ char.val.toNat < 0x110000 :=
    char.valid
  unfold String.utf8EncodeChar
  generalize char.val.toNat = code at whole valid
  subst whole
  dsimp only
  split
  · exact foldl_step_one (by assumption) chars
  · split
    · exact foldl_step_two (by omega) (by assumption) chars
    · split
      · exact foldl_step_three (by omega) (by assumption) (by omega) chars
      · exact foldl_step_four (by omega) (by omega) chars

theorem foldl_step_chars (text : List Char) (chars : List Char) :
    (text.flatMap String.utf8EncodeChar).foldl step ⟨chars, none⟩ =
      ⟨text.reverse ++ chars, none⟩ := by
  induction text generalizing chars with
  | nil => rfl
  | cons char rest ih =>
      rw [List.flatMap_cons, List.foldl_append, foldl_step_char, ih, List.reverse_cons,
        List.append_assoc, List.singleton_append]

/-- The characters that were read before stay behind those that are read. -/
theorem step_append (chars before : List Char) (pending : Option Pending) (byte : UInt8) :
    step ⟨chars ++ before, pending⟩ byte =
      ⟨(step ⟨chars, pending⟩ byte).chars ++ before, (step ⟨chars, pending⟩ byte).pending⟩ := by
  have starts (chars : List Char) : start (chars ++ before) byte =
      ⟨(start chars byte).chars ++ before, (start chars byte).pending⟩ := by
    unfold start
    split
    · rfl
    · split <;> rfl
  cases pending with
  | none => exact starts chars
  | some pending =>
      simp only [step]
      split
      · split <;> rfl
      · exact starts (replacement :: chars)

theorem foldl_step_append (bytes : List UInt8) (chars before : List Char)
    (pending : Option Pending) :
    bytes.foldl step ⟨chars ++ before, pending⟩ =
      ⟨(bytes.foldl step ⟨chars, pending⟩).chars ++ before,
        (bytes.foldl step ⟨chars, pending⟩).pending⟩ := by
  induction bytes generalizing chars pending with
  | nil => rfl
  | cons byte rest ih =>
      rw [List.foldl_cons, List.foldl_cons, step_append]
      exact ih _ _

theorem finish_append (chars before : List Char) (pending : Option Pending) :
    finish ⟨chars ++ before, pending⟩ = before.reverse ++ finish ⟨chars, pending⟩ := by
  cases pending <;> simp [finish]

end Decoder

theorem toList_toUTF8 (text : String) :
    text.toUTF8.data.toList = text.toList.flatMap String.utf8EncodeChar := by
  rw [String.toUTF8_eq_toByteArray, ← String.utf8Encode_toList, List.utf8Encode,
    List.toList_data_toByteArray]

/-- The bytes of a text at the front are decoded to that text. -/
theorem decodeLossy_toUTF8_append (text : String) (bytes : List UInt8) :
    decodeLossy (text.toUTF8.data.toList ++ bytes) = text.toList ++ decodeLossy bytes := by
  have rest := Decoder.foldl_step_append bytes [] text.toList.reverse none
  rw [List.nil_append] at rest
  rw [decodeLossy, List.foldl_append, toList_toUTF8, Decoder.foldl_step_chars, List.append_nil,
    rest, Decoder.finish_append, List.reverse_reverse]
  rfl

theorem decodeLossy_toUTF8 (text : String) : decodeLossy text.toUTF8.data.toList = text.toList := by
  have decoded := decodeLossy_toUTF8_append text []
  rw [List.append_nil] at decoded
  rw [decoded]
  exact List.append_nil _

end ShellTree.Utf8
