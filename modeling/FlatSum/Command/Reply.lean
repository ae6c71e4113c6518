import FlatSum.Command.Run

namespace FlatSum

/-! The whole answer to a command line: what is written, under which settings, and the exit status. -/

def versionText : String := "tally 0.1.0\n"

namespace Ending

/-- The version is told. The help, and the words in which a command line is refused, belong to the
reader of arguments and are left out. -/
def chunks : Ending → List Chunk
  | version => [.result versionText]
  | help | refused _ => []

def status : Ending → Nat
  | help | version => 0
  | refused _ => 2

end Ending

structure Reply where
  chunks : List Chunk
  settings : Settings
  status : Nat

namespace Reply

/-- Answers a command line in an environment; `read` gives the contents of files. -/
def ofArguments (environment : Environment) (read : String → Except ReadError String)
    (arguments : List String) : Reply :=
  match Request.ofArguments arguments with
  | .ok request =>
      let output := request.run environment read
      ⟨output.chunks, request.settings environment, output.status⟩
  | .error ending => ⟨ending.chunks, environment.settings, ending.status⟩

/-- What goes to standard output. -/
def results (reply : Reply) : String := String.join (reply.chunks.filterMap Chunk.result?)

/-- What goes to standard error, with log lines that carry colour as told and bear the given time. -/
def asides (colored : Bool) (timestamp : String) (reply : Reply) : String :=
  String.join (reply.chunks.filterMap
    (Chunk.aside? reply.settings ⟨reply.settings.format, colored, timestamp⟩))

end Reply

end FlatSum
