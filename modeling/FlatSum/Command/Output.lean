import FlatSum.Log.Line
import FlatSum.Trace

namespace FlatSum

/-! What a run writes, in the order in which it is written, and how it ends. -/

inductive Chunk where
  | result (text : String)
  | diagnostic (text : String)
  | event (event : Event)

structure Output where
  chunks : List Chunk
  failed : Bool

namespace Chunk

def result? : Chunk → Option String
  | result text => some text
  | diagnostic _ | event _ => none

/-- The text that goes to the side channel: diagnostics, and events the settings keep. -/
def aside? (settings : Settings) (style : LogStyle) : Chunk → Option String
  | result _ => none
  | diagnostic text => some text
  | .event emitted => if settings.keepsEvent emitted then some (style.render emitted) else none

end Chunk

namespace Output

/-- Outputs one after the other; together they fail if one does. -/
def concat (outputs : List Output) : Output :=
  ⟨outputs.flatMap Output.chunks, outputs.any Output.failed⟩

def status (output : Output) : Nat := if output.failed then 1 else 0

end Output

end FlatSum
