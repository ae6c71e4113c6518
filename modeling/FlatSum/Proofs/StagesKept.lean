import FlatSum.Proofs.Outcome
import FlatSum.Trace

namespace FlatSum

/-! An evaluation that keeps its stages against one that does not. Both come to the same end and
report the same of reading and summing; what was kept gives the result again. -/

variable {source : String} {event : Event}

theorem Scan.stage_of_mem_events {scan : Scan} (member : event ∈ scan.events) :
    event.stage = .lexer := by
  rcases List.mem_append.mp member with token | ending
  · obtain ⟨node, _, rfl⟩ := List.mem_map.mp token
    rfl
  · split at ending
    · rw [List.mem_singleton.mp ending]
      rfl
    · rw [List.mem_singleton.mp ending]
      rfl
    · contradiction

theorem Sum.stage_of_mem_events {sum : Sum} (member : event ∈ sum.events) :
    event.stage = .parser := by
  rcases List.mem_append.mp member with fold | ending
  · obtain ⟨made, _, rfl⟩ := List.mem_map.mp fold
    rfl
  · split at ending
    · rw [List.mem_singleton.mp ending]
      rfl
    · contradiction

/-- Whether a stage other than the driver emits the event. -/
def Event.besideDriver (event : Event) : Bool := decide (event.stage.target ≠ "tally::driver")

theorem Scan.filter_events (scan : Scan) : scan.events.filter Event.besideDriver = scan.events := by
  apply List.filter_eq_self.mpr
  intro event member
  rw [Event.besideDriver, stage_of_mem_events member]
  decide

theorem Sum.filter_events (sum : Sum) : sum.events.filter Event.besideDriver = sum.events := by
  apply List.filter_eq_self.mpr
  intro event member
  rw [Event.besideDriver, stage_of_mem_events member]
  decide

/-- Only the driver's own events tell the two evaluations apart. -/
theorem evaluateEvents_eq (source : String) :
    evaluateEvents source = (Evaluation.events source).filter Event.besideDriver := by
  have opening : (Event.evaluating source).besideDriver = false := rfl
  have closing : ∀ result, (Event.evaluated result).besideDriver = false := fun _ => rfl
  simp only [evaluateEvents, Evaluation.events]
  cases (Scan.ofText source.toList).result with
  | error fault => simp [opening, Scan.filter_events]
  | ok nodes => simp [opening, closing, Scan.filter_events, Sum.filter_events]

theorem Evaluation.scanned_eq_false_iff :
    (ofSource source).scanned = false ↔ ∃ error, evaluate source = .error (.scan error) := by
  rw [← result_ofSource, scanned]
  constructor
  · intro stopped
    split at stopped
    · rename_i error failed
      exact ⟨error, failed⟩
    · contradiction
  · rintro ⟨error, failed⟩
    rw [failed]

/-- The tokens that were kept sum up to the result, where the text was read to its end. -/
theorem Evaluation.sum_tokens (scanned : (ofSource source).scanned = true) :
    (TokenStream.ofList (ofSource source).tokens).sum.result.mapError Failure.sum =
      (ofSource source).result := by
  unfold ofSource at scanned ⊢
  cases read : (Scan.ofText source.toList).result with
  | error fault =>
      rw [read] at scanned
      contradiction
  | ok nodes =>
      simp only
      cases summed : (Sum.ofTokens (nodes.map Spanned.value)).result <;>
        exact congrArg (Except.mapError Failure.sum) summed

theorem kept_stages_agree (source : String) (settings : Settings) :
    (Evaluation.ofSource source).result = evaluate source ∧
    keptEvents settings (evaluateEvents source) =
      (keptEvents settings (Evaluation.events source)).filter Event.besideDriver ∧
    (Evaluation.ofSource source).nodes =
      (match (Scan.ofText source.toList).result with
      | .ok nodes => nodes
      | .error _ => []) ∧
    ((Evaluation.ofSource source).scanned = false ↔
      ∃ error, evaluate source = .error (.scan error)) ∧
    ((Evaluation.ofSource source).scanned = true →
      (TokenStream.ofList (Evaluation.ofSource source).tokens).sum.result.mapError Failure.sum =
        (Evaluation.ofSource source).result) := by
  refine ⟨Evaluation.result_ofSource source, ?_, Evaluation.nodes_eq source,
    Evaluation.scanned_eq_false_iff, Evaluation.sum_tokens⟩
  rw [evaluateEvents_eq, keptEvents, keptEvents, List.filter_filter, List.filter_filter]
  simp only [Bool.and_comm]

theorem kept_stages_of_open_end :
    (Evaluation.ofSource "1 +").scanned = true ∧
      (TokenStream.ofList (Evaluation.ofSource "1 +").tokens).sum.result.mapError Failure.sum =
        (Evaluation.ofSource "1 +").result := by
  have scanned : (Evaluation.ofSource "1 +").scanned = true := by decide +kernel
  obtain ⟨_, _, _, _, again⟩ := kept_stages_agree "1 +" .standard
  exact ⟨scanned, again scanned⟩

end FlatSum
