import FlatSum.Command.Reply

namespace FlatSum

/-! The command: reads its environment and at most one file, and writes the reply to its arguments.
Log lines bear the milliseconds of a clock that only runs forward. -/

/-- Why reading a file failed, as far as a program can act on it. -/
def readErrorOf : IO.Error → ReadError
  | .noFileOrDirectory .. => .missing
  | .inappropriateType _ 21 _ => .directory
  | .inappropriateType _ 20 _ => .notDirectory
  | error => .other (toString error)

def readContents (path : String) : IO (Except ReadError String) := do
  try
    return textOf (← IO.FS.readBinFile path)
  catch error =>
    return .error (readErrorOf error)

/-- The contents of the file that the arguments name, if they name one. -/
def loadInput (arguments : List String) : IO (String → Except ReadError String) := do
  match Request.ofArguments arguments with
  | .error _ => return fun _ => .error .missing
  | .ok request =>
      match request.path? with
      | none => return fun _ => .error .missing
      | some path =>
          let contents ← readContents path
          return fun _ => contents

def processEnvironment : IO Environment := do
  let logLevel ← IO.getEnv "TALLY_LOG"
  let noColor ← IO.getEnv "NO_COLOR"
  return ⟨logLevel.map String.toUTF8, noColor.map String.toUTF8⟩

def writeChunk (settings : Settings) (colored : Bool) (chunk : Chunk) : IO Unit := do
  match chunk.result? with
  | some text => IO.print text
  | none =>
      let time ← IO.monoMsNow
      match chunk.aside? settings ⟨settings.format, colored, Decimal.ofNat time⟩ with
      | none => return
      | some text =>
          (← IO.getStdout).flush
          IO.eprint text

end FlatSum

def main (arguments : List String) : IO UInt32 := do
  let environment ← FlatSum.processEnvironment
  let read ← FlatSum.loadInput arguments
  let reply := FlatSum.Reply.ofArguments environment read arguments
  for chunk in reply.chunks do
    FlatSum.writeChunk reply.settings environment.colorsLog chunk
  return reply.status.toUInt32
