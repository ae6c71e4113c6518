import FlatSum.Log.Event
import FlatSum.Text.Json

namespace FlatSum

/-! Events as text: compact lines for a terminal, JSON objects, or an airy form for reading. -/

/-- Text between an escape sequence of that code and the one that ends it. -/
def styled (colored : Bool) (code text : String) : String :=
  if colored then "\x1b[" ++ code ++ "m" ++ text ++ "\x1b[0m" else text

namespace Compact

def levelCode : Level → String
  | .error => "31"
  | .warn => "33"
  | .info => "32"
  | .debug => "34"
  | .trace => "35"

/-- The level, moved to the right end of five columns. -/
def levelText (level : Level) : String :=
  String.ofList (List.replicate (5 - level.display.length) ' ') ++ level.display

/-- A source is quoted, so that it cannot leave its line; the rest is written as it is. -/
def valueText : FieldValue → String
  | .source text => Quoted.text text
  | .shown text => text
  | .number value => Decimal.ofInt value

def field (colored : Bool) (field : Field) : String :=
  " " ++ styled colored "3" field.name ++ styled colored "2" "=" ++ valueText field.value

def line (colored : Bool) (event : Event) : String :=
  styled colored (levelCode event.level) (levelText event.level) ++ " " ++
    styled colored "2" event.stage.target ++ styled colored "2" ":" ++ " " ++ event.message ++
    String.join (event.fields.map (field colored)) ++ "\n"

end Compact

namespace Json

def valueText : FieldValue → String
  | .source text => string text
  | .shown text => string text
  | .number value => Decimal.ofInt value

def member (name valueText : String) : String := string name ++ ":" ++ valueText

def object (members : List String) : String := "\x7b" ++ ",".intercalate members ++ "\x7d"

def line (timestamp : String) (event : Event) : String :=
  object
    [member "timestamp" (string timestamp),
      member "level" (string event.level.display),
      member "fields" (object (member "message" (string event.message) ::
        event.fields.map fun field => member field.name (valueText field.value))),
      member "target" (string event.stage.target)] ++ "\n"

end Json

namespace Pretty

def field (field : Field) : String := ", " ++ field.name ++ ": " ++ Compact.valueText field.value

def lines (colored : Bool) (timestamp : String) (event : Event) : String :=
  "  " ++ timestamp ++ " " ++
    styled colored (Compact.levelCode event.level) (Compact.levelText event.level) ++ " " ++
    event.stage.target ++ ": " ++ event.message ++ String.join (event.fields.map field) ++ "\n\n"

end Pretty

/-- How log lines look: their format, whether they carry colour, and the time they bear. -/
structure LogStyle where
  format : LogFormat
  colored : Bool
  timestamp : String
deriving DecidableEq, Repr

def LogStyle.render (style : LogStyle) (event : Event) : String :=
  match style.format with
  | .compact => Compact.line style.colored event
  | .json => Json.line style.timestamp event
  | .pretty => Pretty.lines style.colored style.timestamp event

end FlatSum
