import FlatSum.Command.Reply
import FlatSum.Proofs.Outcome

namespace FlatSum

/-! What is written for one job: the events it emits, the text it shows and the report of its failure.
Colour decides how a report is drawn and nothing else. -/

namespace Job

/-- The report of an expression that has no value. -/
def failureReport? (job : Job) : Option Report :=
  match evaluate job.source with
  | .ok _ => none
  | .error failure =>
      some ⟨failure, (Evaluation.ofSource job.source).errorSpan, job.name, job.source⟩

/-- The report of an expression that cannot be read. -/
def scanReport? (job : Job) : Option Report :=
  match (Scan.ofText job.source.toList).result with
  | .ok _ => none
  | .error fault => some ⟨.scan fault, some (fault.span job.source.toList), job.name, job.source⟩

def valueLine (job : Job) : String :=
  match evaluate job.source with
  | .ok value => Decimal.ofInt value.toInt ++ "\n"
  | .error _ => ""

def stageLines (job : Job) : String :=
  "Evaluating: " ++ job.source ++ "\n" ++
    (match (Scan.ofText job.source.toList).result with
    | .ok nodes => "Lexer output: " ++ tokenListForm (nodes.map Spanned.value) ++ "\n"
    | .error _ => "") ++
    match evaluate job.source with
    | .ok value => "Parser output: " ++ Decimal.ofInt value.toInt ++ "\n"
    | .error failure => failure.description ++ "\n"

/-- What is written for one job: its events, the text shown for it, and a report if it fails. -/
def output (shown : String) (report? : Option Report) (colored : Bool) (job : Job) : Output :=
  ⟨job.events ++ .result shown ::
    (report?.map fun report => Chunk.diagnostic (report.render colored)).toList, report?.isSome⟩

end Job

theorem Evaluation.ofSource_of_fault {source : String} {fault : ScanError}
    (read : (Scan.ofText source.toList).result = .error fault) :
    ofSource source = ⟨source, [], .error (.scan fault), some (fault.span source.toList)⟩ := by
  rw [ofSource, read]

theorem Evaluation.scanned_ofSource (source : String) :
    (ofSource source).scanned = (Scan.ofText source.toList).result.isOk := by
  rw [scanned, result_ofSource, evaluate]
  cases (Scan.ofText source.toList).result with
  | error fault => rfl
  | ok nodes =>
      simp only
      cases (Sum.ofTokens (nodes.map Spanned.value)).result <;> rfl

namespace Job

theorem stages_ofSource (job : Job) : (Evaluation.ofSource job.source).stages = job.stageLines := by
  unfold Evaluation.stages stageLines
  rw [Evaluation.source_ofSource, Evaluation.scanned_ofSource, Evaluation.tokens,
    Evaluation.nodes_eq, Evaluation.result_ofSource]
  cases (Scan.ofText job.source.toList).result <;> rfl

theorem report?_ofSource (job : Job) :
    (Evaluation.ofSource job.source).report? job.name = job.failureReport? := by
  rw [Evaluation.report?, Evaluation.result_ofSource, Evaluation.source_ofSource]
  rfl

theorem eval_eq (verbose colored : Bool) (job : Job) :
    job.eval verbose colored =
      job.output (if verbose then job.stageLines else job.valueLine) job.failureReport? colored := by
  have value : (Evaluation.ofSource job.source).valueLine = job.valueLine := by
    rw [Evaluation.valueLine, Evaluation.result_ofSource, valueLine]
    rfl
  simp only [eval, Evaluation.diagnostic?, report?_ofSource, stages_ofSource, value, output]
  cases job.failureReport? <;> rfl

theorem lex_eq (positions colored : Bool) (job : Job) :
    job.lex positions colored =
      job.output (TokenTable.block positions job.name (Evaluation.ofSource job.source).nodes)
        job.scanReport? colored := by
  cases read : (Scan.ofText job.source.toList).result with
  | error fault =>
      simp only [lex, output, scanReport?, read, Evaluation.ofSource_of_fault read]
      rfl
  | ok nodes =>
      simp only [lex, output, scanReport?, read, Evaluation.scanned_ofSource]
      rfl

end Job

end FlatSum
