import FlatSum.Log.Line

namespace FlatSum

/-! The environment variables that the command heeds, with the raw bytes they hold. -/

structure Environment where
  logLevel? : Option ByteArray
  noColor? : Option ByteArray

namespace Environment

/-- The text of a variable; bytes that are no text count as none. -/
def text? (bytes? : Option ByteArray) : Option String := bytes?.bind String.fromUTF8?

/-- The standard settings, with the level that the environment asks for if it names one. -/
def settings (environment : Environment) : Settings :=
  match (text? environment.logLevel?).bind Level.parse? with
  | some level => { Settings.standard with level }
  | none => Settings.standard

/-- Diagnostics carry colour unless the command line or the environment, by any value, says no. -/
def colorsReports (environment : Environment) (noColor : Bool) : Bool :=
  !noColor && environment.noColor?.isNone

/-- Log lines carry colour unless the environment says no by a value that is not empty. -/
def colorsLog (environment : Environment) : Bool :=
  match text? environment.noColor? with
  | some value => value.isEmpty
  | none => true

end Environment

end FlatSum
