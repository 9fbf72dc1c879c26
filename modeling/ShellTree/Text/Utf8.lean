/-!
# Lossy decoding of UTF-8

Bytes are read one at a time.  A sequence that cannot be continued, and a byte
that cannot start one, stands for one replacement character; reading goes on with
the byte that did not fit.
-/

namespace ShellTree.Utf8

/-- The character that stands for bytes that are not UTF-8. -/
def replacement : Char :=
  '�'

/-- An unfinished sequence: the bytes still owed, the range of the next one, and
the bits of the code point so far. -/
structure Pending where
  owed : Nat
  low : UInt8
  high : UInt8
  code : Nat
  deriving DecidableEq

def Pending.ofLead? (byte : UInt8) : Option Pending :=
  if byte < 0xC2 then none
  else if byte < 0xE0 then some ⟨1, 0x80, 0xBF, byte.toNat - 0xC0⟩
  else if byte = 0xE0 then some ⟨2, 0xA0, 0xBF, 0⟩
  else if byte = 0xED then some ⟨2, 0x80, 0x9F, 0xD⟩
  else if byte < 0xF0 then some ⟨2, 0x80, 0xBF, byte.toNat - 0xE0⟩
  else if byte = 0xF0 then some ⟨3, 0x90, 0xBF, 0⟩
  else if byte < 0xF4 then some ⟨3, 0x80, 0xBF, byte.toNat - 0xF0⟩
  else if byte = 0xF4 then some ⟨3, 0x80, 0x8F, 4⟩
  else none

/-- The characters so far, last first, and the unfinished sequence. -/
structure Decoder where
  chars : List Char := []
  pending : Option Pending := none

namespace Decoder

def start (chars : List Char) (byte : UInt8) : Decoder :=
  if byte < 0x80 then ⟨Char.ofNat byte.toNat :: chars, none⟩
  else match Pending.ofLead? byte with
    | some pending => ⟨chars, some pending⟩
    | none => ⟨replacement :: chars, none⟩

def step (decoder : Decoder) (byte : UInt8) : Decoder :=
  match decoder.pending with
  | none => start decoder.chars byte
  | some pending =>
      if pending.low ≤ byte ∧ byte ≤ pending.high then
        let code := pending.code * 64 + (byte.toNat - 0x80)
        if pending.owed = 1 then ⟨Char.ofNat code :: decoder.chars, none⟩
        else ⟨decoder.chars, some ⟨pending.owed - 1, 0x80, 0xBF, code⟩⟩
      else start (replacement :: decoder.chars) byte

def finish (decoder : Decoder) : List Char :=
  match decoder.pending with
  | none => decoder.chars.reverse
  | some _ => (replacement :: decoder.chars).reverse

end Decoder

def decodeLossy (bytes : List UInt8) : List Char :=
  (bytes.foldl Decoder.step {}).finish

end ShellTree.Utf8
