import FlatSum.Proofs.JobOutput

namespace FlatSum

/-! What is written beside the results, write by write, so that lines of the log can be told from
diagnostics whatever their texts. -/

/-- One write beside the results: a line of the log or a diagnostic. -/
inductive Aside where
  | line (text : String)
  | diagnostic (text : String)
deriving DecidableEq, Repr

namespace Aside

def text : Aside → String
  | line text => text
  | diagnostic text => text

def diagnostic? : Aside → Option String
  | line _ => none
  | diagnostic text => some text

end Aside

def Chunk.write? (settings : Settings) (style : LogStyle) : Chunk → Option Aside
  | .result _ => none
  | .diagnostic text => some (.diagnostic text)
  | .event emitted =>
      if settings.keepsEvent emitted then some (.line (style.render emitted)) else none

/-- The writes beside the results, in order. -/
def Reply.writes (colored : Bool) (timestamp : String) (reply : Reply) : List Aside :=
  reply.chunks.filterMap (Chunk.write? reply.settings ⟨reply.settings.format, colored, timestamp⟩)

theorem Reply.asides_eq (colored : Bool) (timestamp : String) (reply : Reply) :
    reply.asides colored timestamp =
      String.join ((reply.writes colored timestamp).map Aside.text) := by
  rw [asides, writes, List.map_filterMap]
  congr 2
  funext chunk
  cases chunk with
  | result text => rfl
  | diagnostic text => rfl
  | event emitted =>
      rw [Chunk.aside?, Chunk.write?]
      split <;> rfl

namespace Job

variable (settings : Settings) (style : LogStyle) (colored : Bool) (report? : Option Report)

/-- The writes for one job beside the results: the events that are kept, then the report. -/
def writes (job : Job) : List Aside :=
  (keptEvents settings (Evaluation.events job.source)).map (fun event => .line (style.render event)) ++
    (report?.map fun report => Aside.diagnostic (report.render colored)).toList

theorem filterMap_write?_output (shown : String) (job : Job) :
    (job.output shown report? colored).chunks.filterMap (Chunk.write? settings style) =
      job.writes settings style colored report? := by
  have logged : ∀ events : List Event,
      (events.map Chunk.event).filterMap (Chunk.write? settings style) =
        (keptEvents settings events).map fun event => .line (style.render event) := by
    intro events
    rw [List.filterMap_map, keptEvents, ← List.filterMap_eq_map, List.filterMap_filter]
    rfl
  rw [output, List.filterMap_append, events, logged, writes]
  congr 1
  cases report? <;> rfl

theorem diagnostics_writes (job : Job) :
    (job.writes settings style colored report?).filterMap Aside.diagnostic? =
      (report?.map (·.render colored)).toList := by
  rw [writes, List.filterMap_append, List.filterMap_map]
  cases report? <;> simp [Function.comp_def, Aside.diagnostic?]

theorem filterMap_result?_output (shown : String) (job : Job) :
    (job.output shown report? colored).chunks.filterMap Chunk.result? = [shown] := by
  have logged : ∀ events : List Event, (events.map Chunk.event).filterMap Chunk.result? = [] := by
    intro events
    simp [List.filterMap_map, Function.comp_def, Chunk.result?]
  rw [output, List.filterMap_append, events, logged]
  cases report? <;> rfl

end Job

end FlatSum
