import ShellTree.Proofs.Text.Lossy
import ShellTree.Stream.Channel

/-!
# Captured text

An output that keeps what is written to it holds the bytes of all writes in their order.
A text among them is read back as it was written, even next to bytes that are no text:
these are decoded as if they stood alone.
-/

namespace ShellTree

inductive Portion where
  | text (content : String)
  | raw (bytes : ByteArray)

def Portion.bytes : Portion → ByteArray
  | .text content => content.toUTF8
  | .raw bytes => bytes

namespace StreamSets

/-- Write portions to the output of a stream set, up to the first write that fails. -/
def writeAll (sets : StreamSets) (index : Nat) :
    List Portion → Option (Except StreamFault StreamSets)
  | [] => some (.ok sets)
  | portion :: rest =>
      match sets.writeOutput index portion.bytes with
      | some (.ok written) => written.writeAll index rest
      | stopped => stopped

/-- All portions can be written, and then the output of the stream set has the text. -/
def Captures (sets : StreamSets) (index : Nat) (portions : List Portion) (text : String) : Prop :=
  ∃ after, sets.writeAll index portions = some (.ok after) ∧
    after.outputs[index]?.map Channel.text = some text

/-- An output without a limit takes all bytes. -/
theorem writeOutput_unlimited {sets : StreamSets} {index : Nat} {sink : Sink}
    (kept : sets.outputs[index]? = some (.keep sink)) (unlimited : sink.limit = none)
    (bytes : ByteArray) :
    ∃ after, sets.writeOutput index bytes = some (.ok after) ∧
      after.outputs[index]? = some (.keep { sink with contents := sink.contents ++ bytes }) := by
  have inside := (List.getElem?_eq_some_iff.mp kept).1
  have room : sink.accepts bytes.size = true := by
    rw [Sink.accepts, unlimited]
  let written : Channel := .keep { sink with contents := sink.contents ++ bytes }
  refine ⟨{ sets with outputs := sets.outputs.set index written }, ?_, ?_⟩
  · rw [writeOutput, kept]
    simp only [Option.map_some, Channel.writeBytes, Sink.writeBytes, if_pos room]
    rfl
  · exact List.getElem?_set_self inside

/-- The output holds the bytes of all portions in their order. -/
theorem writeAll_unlimited {sets : StreamSets} {index : Nat} {sink : Sink}
    (kept : sets.outputs[index]? = some (.keep sink)) (unlimited : sink.limit = none)
    (portions : List Portion) :
    ∃ after final, sets.writeAll index portions = some (.ok after) ∧
      after.outputs[index]? = some (.keep final) ∧
      final.contents.data.toList =
        sink.contents.data.toList ++ portions.flatMap fun portion => portion.bytes.data.toList := by
  induction portions generalizing sets sink with
  | nil => exact ⟨sets, sink, rfl, kept, (List.append_nil _).symm⟩
  | cons portion rest ih =>
      obtain ⟨written, done, kept'⟩ := writeOutput_unlimited kept unlimited portion.bytes
      obtain ⟨after, final, done', last, contents⟩ := ih kept' unlimited
      refine ⟨after, final, ?_, last, ?_⟩
      · rw [writeAll, done]
        exact done'
      · rw [contents, ByteArray.data_append, Array.toList_append, List.append_assoc,
          List.flatMap_cons]

theorem captures_of_fresh {sets : StreamSets} {index : Nat}
    (fresh : sets.outputs[index]? = some (.keep {})) (portions : List Portion) :
    sets.Captures index portions (String.ofList (Utf8.decodeLossy
      (portions.flatMap fun portion => portion.bytes.data.toList))) := by
  obtain ⟨after, final, done, last, contents⟩ := writeAll_unlimited fresh rfl portions
  refine ⟨after, done, ?_⟩
  rw [last, Option.map_some, Channel.text, Sink.text, contents]
  rfl

end StreamSets

theorem decodeLossy_texts (texts : List String) :
    Utf8.decodeLossy ((texts.map Portion.text).flatMap fun portion => portion.bytes.data.toList) =
      (String.join texts).toList := by
  induction texts with
  | nil => rfl
  | cons text rest ih =>
      rw [List.map_cons, List.flatMap_cons, Portion.bytes, Utf8.decodeLossy_toUTF8_append, ih,
        String.join_cons, String.toList_append]

namespace StreamSets

/-- An output that keeps what is written to it, and that nothing was written to yet, gives a
text, raw bytes and another text back as the first text, the lossy text of the bytes alone and
the second text.  Texts alone are given back one after the other. -/
theorem texts_around_bytes {sets : StreamSets} {index : Nat}
    (fresh : sets.outputs[index]? = some (.keep {})) :
    (∀ (front back : String) (bytes : ByteArray), ∃ lossy : String,
      Utf8.Lossy bytes.data.toList lossy.toList ∧
      sets.Captures index [.raw bytes] lossy ∧
      sets.Captures index [.text front, .raw bytes, .text back] (front ++ lossy ++ back)) ∧
    ∀ texts : List String, sets.Captures index (texts.map .text) (String.join texts) := by
  constructor
  · intro front back bytes
    refine ⟨String.ofList (Utf8.decodeLossy bytes.data.toList), ?_, ?_, ?_⟩
    · rw [String.toList_ofList, Utf8.lossy_iff]
    · have captures := captures_of_fresh fresh [.raw bytes]
      rwa [List.flatMap_singleton, Portion.bytes] at captures
    · have captures := captures_of_fresh fresh [.text front, .raw bytes, .text back]
      simp only [List.flatMap_cons, List.flatMap_nil, List.append_nil, Portion.bytes,
        Utf8.decodeLossy_toUTF8_append, Utf8.decodeLossy_append_toUTF8] at captures
      rwa [← List.append_assoc, String.ofList_append, String.ofList_append, String.ofList_toList,
        String.ofList_toList] at captures
  · intro texts
    have captures := captures_of_fresh fresh (texts.map .text)
    rwa [decodeLossy_texts, String.ofList_toList] at captures

/-- The first two of the three bytes of "€". -/
def truncatedEuro : ByteArray :=
  ⟨#[0xE2, 0x82]⟩

/-- The second byte of "¬" is the third byte of "€". -/
theorem truncatedEuro_between_texts :
    (capturing.withOutput).outputs[1]? = some (.keep {}) ∧
      capturing.withOutput.Captures 1 [.text "é", .raw truncatedEuro, .text "¬"] "é�¬" := by
  have fresh : (capturing.withOutput).outputs[1]? = some (.keep {}) := rfl
  obtain ⟨lossy, decoded, -, captures⟩ := (texts_around_bytes fresh).1 "é" "¬" truncatedEuro
  have chars : lossy.toList = ['�'] :=
    (Utf8.lossy_iff.mp decoded).symm.trans (by decide +kernel)
  obtain rfl : lossy = "�" := String.toList_injective (chars.trans (by decide))
  exact ⟨fresh, captures⟩

end StreamSets

end ShellTree
