import FlatSum.Command.Arguments
import FlatSum.Command.Environment
import FlatSum.Command.Job
import FlatSum.Command.Output
import FlatSum.Report.Layout

namespace FlatSum

/-! The commands: what each writes for its expressions. -/

inductive ReadError where
  | missing
  | directory
  | notDirectory
  | notText
  | other (reason : String)
deriving DecidableEq, Repr

def ReadError.message : ReadError → String
  | missing => "No such file or directory (os error 2)"
  | directory => "Is a directory (os error 21)"
  | notDirectory => "Not a directory (os error 20)"
  | notText => "stream did not contain valid UTF-8"
  | other reason => reason

def textOf (contents : ByteArray) : Except ReadError String :=
  match String.fromUTF8? contents with
  | some text => .ok text
  | none => .error .notText

namespace Evaluation

/-- The stages of an evaluation for a console. -/
def stages (evaluation : Evaluation) : String :=
  "Evaluating: " ++ evaluation.source ++ "\n" ++
    (if evaluation.scanned then "Lexer output: " ++ tokenListForm evaluation.tokens ++ "\n"
    else "") ++
    match evaluation.result with
    | .ok value => "Parser output: " ++ value.text ++ "\n"
    | .error failure => failure.description ++ "\n"

/-- The value on a line of its own, or nothing. -/
def valueLine (evaluation : Evaluation) : String :=
  match evaluation.result with
  | .ok value => value.text ++ "\n"
  | .error _ => ""

def diagnostic? (evaluation : Evaluation) (name : String) (colored : Bool) : Option String :=
  (evaluation.report? name).map (·.render colored)

end Evaluation

namespace TokenTable

def rule : String := String.ofList (List.replicate 40 '=') ++ "\n"

/-- The text moved to the right end of that many columns, or as it is if it is wider. -/
def alignRight (width : Nat) (text : String) : String :=
  String.ofList (List.replicate (width - text.length) ' ') ++ text

def alignLeft (width : Nat) (text : String) : String :=
  text ++ String.ofList (List.replicate (width - text.length) ' ')

/-- One token: its number, its kind and value and, when asked for, its place. -/
def row (positions : Bool) (index : Nat) (node : Spanned Token) : String :=
  alignRight 4 (Decimal.ofNat index) ++ " | " ++
    (if positions then
      alignLeft 12 node.value.form ++ " | " ++ Decimal.ofNat node.span.start ++ ".." ++
        Decimal.ofNat node.span.stop
    else node.value.form) ++ "\n"

def block (positions : Bool) (name : String) (nodes : List (Spanned Token)) : String :=
  "Tokens for " ++ name ++ ":\n\n" ++ rule ++
    String.join (nodes.zipIdx.map fun node => row positions node.2 node.1) ++ rule ++
    "\nTotal tokens: " ++ Decimal.ofNat nodes.length ++ "\n"

end TokenTable

def Job.events (job : Job) : List Chunk := (Evaluation.events job.source).map Chunk.event

/-- Evaluates one expression. It fails if the expression has no value. -/
def Job.eval (verbose colored : Bool) (job : Job) : Output :=
  let evaluation := Evaluation.ofSource job.source
  let shown := if verbose then evaluation.stages else evaluation.valueLine
  match evaluation.diagnostic? job.name colored with
  | some text => ⟨job.events ++ [.result shown, .diagnostic text], true⟩
  | none => ⟨job.events ++ [.result shown], false⟩

/-- Lists the tokens of one expression. Only a text that cannot be read makes it fail. -/
def Job.lex (positions colored : Bool) (job : Job) : Output :=
  let evaluation := Evaluation.ofSource job.source
  let shown := TokenTable.block positions job.name evaluation.nodes
  if evaluation.scanned then ⟨job.events ++ [.result shown], false⟩
  else
    let diagnostics := (evaluation.diagnostic? job.name colored).toList.map Chunk.diagnostic
    ⟨job.events ++ .result shown :: diagnostics, true⟩

/-- Shows the stages of each sample, with an empty line between two. A sample that fails is no
failure of the demonstration. -/
def demonstrate (colored : Bool) : Output :=
  let outputs := sampleSources.zipIdx.map fun sample =>
    let separator := if sample.2 = 0 then [] else [Chunk.result "\n"]
    let shown := Job.eval true colored ⟨"<sample>", sample.1⟩
    { shown with chunks := separator ++ shown.chunks }
  { Output.concat outputs with failed := false }

namespace Input

/-- The jobs of an input, with what reading it writes. A file that cannot be read gives none. -/
def jobs (read : String → Except ReadError String) : Input → Except ReadError (List Chunk × List Job)
  | expression source => .ok ([], [Job.ofExpression source])
  | file path =>
      match read path with
      | .ok contents => .ok ([.event (.loaded path)], Job.ofContents path contents)
      | .error error => .error error

def run (read : String → Except ReadError String) (work : Job → Output) (input : Input) : Output :=
  match input.jobs read with
  | .ok (chunks, jobs) => Output.concat (⟨chunks, false⟩ :: jobs.map work)
  | .error error => ⟨[.diagnostic ("Error reading file: " ++ error.message ++ "\n")], true⟩

end Input

def Task.run (read : String → Except ReadError String) (colored : Bool) : Task → Output
  | eval input verbose => input.run read (Job.eval verbose colored)
  | lex input positions => input.run read (Job.lex positions colored)
  | demo => demonstrate colored

namespace Request

def path? (request : Request) : Option String :=
  match request.task with
  | .eval (.file path) _ | .lex (.file path) _ => some path
  | .eval (.expression _) _ | .lex (.expression _) _ | .demo => none

def settings (request : Request) (environment : Environment) : Settings :=
  let settings := environment.settings
  { settings with level := request.level?.getD settings.level, format := request.format }

def run (request : Request) (environment : Environment)
    (read : String → Except ReadError String) : Output :=
  request.task.run read (environment.colorsReports request.noColor)

end Request

end FlatSum
