import ShellTree.Stream.Sink

/-!
# Channels

A channel keeps or discards what is written to it.  Stream sets that are derived
from each other share one error channel and have output channels of their own.
-/

namespace ShellTree

inductive Channel where
  | discard
  | keep (sink : Sink)

namespace Channel

def writeBytes (channel : Channel) (bytes : ByteArray) : Except StreamFault Channel :=
  match channel with
  | .discard => .ok .discard
  | .keep sink => (sink.writeBytes bytes).map .keep

def write (channel : Channel) (text : String) : Except StreamFault Channel :=
  channel.writeBytes text.toUTF8

def flush : Channel → Except StreamFault Unit
  | .discard => .ok ()
  | .keep sink => sink.flush

def text : Channel → String
  | .discard => ""
  | .keep sink => sink.text

end Channel

/-- The output channels of all stream sets and their common error channel. -/
structure StreamSets where
  outputs : List Channel
  errors : Channel

namespace StreamSets

def capturing : StreamSets :=
  ⟨[.keep {}], .keep {}⟩

def discarding : StreamSets :=
  ⟨[.discard], .discard⟩

def withOutput (sets : StreamSets) : StreamSets :=
  { sets with outputs := sets.outputs ++ [.keep {}] }

/-- Write bytes to the output of a stream set; there has to be one. -/
def writeOutput (sets : StreamSets) (index : Nat) (bytes : ByteArray) :
    Option (Except StreamFault StreamSets) :=
  sets.outputs[index]?.map fun channel =>
    (channel.writeBytes bytes).map fun written =>
      { sets with outputs := sets.outputs.set index written }

def writeError (sets : StreamSets) (text : String) : Except StreamFault StreamSets :=
  (sets.errors.write text).map fun written => { sets with errors := written }

/-- Flush the output of a stream set, then the error channel. -/
def flush (sets : StreamSets) (index : Nat) : Option (Except StreamFault Unit) :=
  sets.outputs[index]?.map fun channel => do
    channel.flush
    sets.errors.flush

end StreamSets

end ShellTree
