import FlatSum.Proofs.Filtering
import FlatSum.Proofs.Folding
import FlatSum.Proofs.TextFault
import FlatSum.Trace

namespace FlatSum

/-! The events of an evaluation as a log receives them, from the text and its tokens alone. Settings
keep of them those whose level they enable for the target, and leave the rest as it is. -/

/-- An event as a log receives it. -/
structure Record where
  level : Level
  target : String
  message : String
  fields : List Field
deriving DecidableEq, Repr

def Event.record (event : Event) : Record :=
  ⟨event.level, event.stage.target, event.message, event.fields⟩

namespace Record

def evaluating (source : String) : Record :=
  ⟨.debug, "tally::driver", "evaluating", [⟨"input", .source source⟩]⟩

def token (node : Spanned Token) : Record :=
  ⟨.trace, "tally::lexer", "token",
    [⟨"token", .shown node.value.text⟩, ⟨"start", .number node.span.start⟩,
      ⟨"end", .number node.span.stop⟩]⟩

/-- A foreign character is told. A numeral that is too large ends the trace without a word. -/
def ofFault : ScanError → List Record
  | .invalidCharacter char place =>
      [⟨.debug, "tally::lexer", "invalid character",
        [⟨"character", .shown (Quoted.char char)⟩, ⟨"position", .number place⟩]⟩]
  | .numberOverflow _ => []

def scanned (count : Nat) : Record :=
  ⟨.debug, "tally::lexer", "lexing finished", [⟨"count", .number count⟩]⟩

def folded (operator : Operator) (sum : Int) : Record :=
  ⟨.trace, "tally::parser", "folded operand",
    [⟨"token", .shown (String.singleton operator.symbol)⟩, ⟨"value", .number sum⟩]⟩

def ofValue : Except Failure Amount → List Record
  | .ok value => [⟨.debug, "tally::parser", "parse finished", [⟨"value", .number value.toInt⟩]⟩]
  | .error _ => []

def evaluated (result : Except Failure Amount) : Record :=
  ⟨.debug, "tally::driver", "evaluation finished", [⟨"result", .shown (outcomeForm result)⟩]⟩

end Record

/-- The record of each operand taken in behind the first: the operator before it, which is each second
token, and the exact sum up to it. -/
structure FoldRecords (tokens : List Token) (result : Except Failure Amount)
    (records : List Record) : Prop where
  count : records.length = operandsBefore tokens result - 1
  exact : ∀ place record, records[place]? = some record → ∃ operator,
    tokens[2 * place + 1]? = some (.operator operator) ∧
      record = .folded operator (exactSum tokens (place + 1))

/-- The whole trace of a source, before any of it is left out. -/
inductive FullTrace (source : String) : List Record → Prop where
  | fault {error : ScanError} {nodes : List (Spanned Token)}
      (first : FirstTextFault source.toList error)
      (before : (Scan.ofText (source.toList.take error.position)).result = .ok nodes) :
      FullTrace source (.evaluating source :: nodes.map .token ++ Record.ofFault error)
  | read {nodes : List (Spanned Token)} {folds : List Record}
      (read : (Scan.ofText source.toList).result = .ok nodes)
      (folded : FoldRecords (nodes.map Spanned.value) (evaluate source) folds) :
      FullTrace source (.evaluating source :: nodes.map .token ++ .scanned nodes.length :: folds ++
        Record.ofValue (evaluate source) ++ [.evaluated (evaluate source)])

variable {source : String} {tokens : List Token} {result : Except Failure Amount}
  {trace other : List Record} {nodes : List (Spanned Token)} {settings : Settings}

theorem FoldRecords.unique (first : FoldRecords tokens result trace)
    (second : FoldRecords tokens result other) : other = trace := by
  apply List.ext_getElem (second.count.trans first.count.symm)
  intro place inside inside'
  obtain ⟨operator, sign, same⟩ := first.exact place _ (List.getElem?_eq_getElem inside')
  obtain ⟨operator', sign', same'⟩ := second.exact place _ (List.getElem?_eq_getElem inside)
  rw [sign] at sign'
  cases sign'
  rw [same, same']

/-- The text and its tokens leave no choice. -/
theorem FullTrace.unique (first : FullTrace source trace) (second : FullTrace source other) :
    other = trace := by
  have never_both : ∀ {error nodes}, FirstTextFault source.toList error →
      (Scan.ofText source.toList).result = .ok nodes → False := by
    intro error nodes fault read
    rw [Scan.result_eq_ok_iff, error_ofText_eq_some_iff.mpr fault] at read
    exact nomatch read.1
  cases first with
  | fault fault before =>
      cases second with
      | fault fault' before' =>
          cases fault.unique fault'
          rw [before] at before'
          cases before'
          rfl
      | read read => exact (never_both fault read).elim
  | read read folded =>
      cases second with
      | fault fault => exact (never_both fault read).elim
      | read read' folded' =>
          rw [read] at read'
          cases read'
          rw [folded.unique folded']

theorem foldRecords_ofTokens (tokens : List Token) :
    FoldRecords tokens ((Sum.ofTokens tokens).result.mapError Failure.sum)
      ((Sum.ofTokens tokens).folds.map fun fold => (Event.folded fold).record) where
  count := by rw [List.length_map, Sum.folds_length]
  exact := by
    intro place record found
    rw [List.getElem?_map] at found
    obtain ⟨fold, made, rfl⟩ := Option.map_eq_some_iff.mp found
    obtain ⟨sign, exact⟩ := Sum.folds_exact made
    refine ⟨fold.operator, sign, ?_⟩
    rw [← exact]
    rfl

theorem Scan.map_record_events (scan : Scan) :
    scan.events.map Event.record = scan.nodes.map Record.token ++
      match scan.error with
      | none => [.scanned scan.nodes.length]
      | some error => Record.ofFault error := by
  rw [events, List.map_append, List.map_map]
  congr 1
  cases scan.error with
  | none => rfl
  | some error => cases error <;> rfl

theorem Sum.map_record_events (sum : Sum) :
    sum.events.map Event.record = (sum.folds.map fun fold => (Event.folded fold).record) ++
      Record.ofValue (sum.result.mapError Failure.sum) := by
  rw [events, List.map_append, List.map_map]
  congr 1
  cases sum.result <;> rfl

theorem Evaluation.map_record_events {scan : Scan} (reads : Reads 0 source.toList scan) :
    (events source).map Event.record = .evaluating source :: scan.nodes.map Record.token ++
      match scan.error with
      | some error => Record.ofFault error
      | none =>
          .scanned scan.nodes.length ::
            (Sum.ofTokens (scan.nodes.map Spanned.value)).folds.map
              (fun fold => (Event.folded fold).record) ++
            Record.ofValue (evaluate source) ++ [.evaluated (evaluate source)] := by
  have outcome := evaluate_eq reads
  have opening : (Event.evaluating source).record = .evaluating source := rfl
  have closing : (Event.evaluated (evaluate source)).record = .evaluated (evaluate source) := rfl
  simp only [events, reads.ofText_eq, Scan.result, List.map_append, List.map_cons, opening,
    Scan.map_record_events]
  cases read : scan.error with
  | some error => simp
  | none =>
      rw [read] at outcome
      simp only at outcome
      simp only [List.map_append, Sum.map_record_events, List.map_cons, List.map_nil, ← outcome,
        closing, List.append_assoc, List.cons_append, List.nil_append]

theorem fullTrace_events (source : String) :
    FullTrace source ((Evaluation.events source).map Event.record) := by
  obtain ⟨scan, reads⟩ := Reads.exists_scan 0 source.toList
  have outcome := evaluate_eq reads
  rw [Evaluation.map_record_events reads]
  cases read : scan.error with
  | some error =>
      obtain ⟨front, back, split, place, before⟩ := reads.before_fault read
      rw [Nat.zero_add] at place
      rw [← reads.ofText_eq] at read
      refine .fault (error_ofText_eq_some_iff.mp read) ?_
      rw [split, place, List.take_left, before.ofText_eq]
      rfl
  | none =>
      have folded := foldRecords_ofTokens (scan.nodes.map Spanned.value)
      rw [read] at outcome
      simp only at outcome
      rw [← outcome] at folded
      have result : (Scan.ofText source.toList).result = .ok scan.nodes := by
        rw [reads.ofText_eq, Scan.result_eq_ok_iff]
        exact ⟨read, rfl⟩
      simpa only [List.append_assoc] using FullTrace.read result folded

/-- Nothing is logged that is not in the whole trace, and nothing of it is kept back but for its
level. -/
theorem kept_events_traced (source : String) (settings : Settings) :
    ∃ trace, (∀ other, FullTrace source other ↔ other = trace) ∧
      (keptEvents settings (Evaluation.events source)).map Event.record =
        trace.filter fun record => decide (record.level ≤ settings.levelFor record.target) := by
  have full := fullTrace_events source
  refine ⟨_, fun other => ⟨fun another => full.unique another, ?_⟩, ?_⟩
  · rintro rfl
    exact full
  · rw [keptEvents, List.filter_map]
    congr 1
    apply List.filter_congr
    intro event _
    exact settings.keeps_eq event.stage event.level

end FlatSum
