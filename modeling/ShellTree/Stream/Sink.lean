import ShellTree.Text.Utf8

/-!
# Sinks

A sink keeps the bytes written to it.  It may have a limit: a write that would
go beyond it writes nothing and fails.
-/

namespace ShellTree

inductive StreamFault where
  | closed
  | unflushed
  deriving DecidableEq

def StreamFault.message : StreamFault → String
  | .closed => "pipe closed"
  | .unflushed => "flush failed"

/-- The bytes written so far, how many there may be, and whether flushing works. -/
structure Sink where
  contents : ByteArray := .empty
  limit : Option Nat := none
  flushable : Bool := true

namespace Sink

def size (sink : Sink) : Nat :=
  sink.contents.size

def accepts (sink : Sink) (count : Nat) : Bool :=
  match sink.limit with
  | none => true
  | some limit => sink.size + count ≤ limit

def writeBytes (sink : Sink) (bytes : ByteArray) : Except StreamFault Sink :=
  if sink.accepts bytes.size then .ok { sink with contents := sink.contents ++ bytes }
  else .error .closed

def write (sink : Sink) (text : String) : Except StreamFault Sink :=
  sink.writeBytes text.toUTF8

def flush (sink : Sink) : Except StreamFault Unit :=
  if sink.flushable then .ok () else .error .unflushed

def textFrom (sink : Sink) (start : Nat) : String :=
  String.ofList (Utf8.decodeLossy (sink.contents.data.toList.drop start))

def text (sink : Sink) : String :=
  String.ofList (Utf8.decodeLossy sink.contents.data.toList)

end Sink

end ShellTree
