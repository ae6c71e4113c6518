import FlatSum.Log.Filter

namespace FlatSum

/-! What is logged and how: a level for everything, levels for single stages, and a format. -/

inductive Stage where
  | lexer
  | parser
  | driver
deriving DecidableEq, Repr

namespace Stage

def all : List Stage := [lexer, parser, driver]

/-- The name under which the stage logs. -/
def target : Stage → String
  | lexer => "tally::lexer"
  | parser => "tally::parser"
  | driver => "tally::driver"

def ofTarget? (target : String) : Option Stage := all.find? (·.target = target)

theorem mem_all (stage : Stage) : stage ∈ all := by
  cases stage <;> decide

theorem ofTarget?_eq_some_iff {target : String} {stage : Stage} :
    ofTarget? target = some stage ↔ stage.target = target := by
  constructor
  · intro found
    simpa using List.find?_some found
  · rintro rfl
    cases stage <;> decide

end Stage

inductive LogFormat where
  | pretty
  | compact
  | json
deriving DecidableEq, Repr

namespace LogFormat

def all : List LogFormat := [pretty, compact, json]

def name : LogFormat → String
  | pretty => "pretty"
  | compact => "compact"
  | json => "json"

/-- The format of that name; letters of ASCII may be told to match in either case. -/
def ofName? (ignoreCase : Bool) (name : String) : Option LogFormat :=
  let lower (text : String) := if ignoreCase then text.toList.map Char.toLower else text.toList
  all.find? fun format => lower format.name = lower name

/-- What is said of a name that no format has. -/
def unknownMessage (name : String) : String := "invalid variant: " ++ name

end LogFormat

structure Settings where
  level : Level
  override : Stage → Option Level
  format : LogFormat

namespace Settings

/-- Warnings and errors of every stage, one line for each event. -/
def standard : Settings := ⟨.warn, fun _ => none, .compact⟩

def levelOf (settings : Settings) (stage : Stage) : Level :=
  (settings.override stage).getD settings.level

/-- The level of the stage of exactly that name, else the level of everything. -/
def levelFor (settings : Settings) (target : String) : Level :=
  match Stage.ofTarget? target with
  | some stage => settings.levelOf stage
  | none => settings.level

/-- The filter that keeps what the settings ask for. -/
def filter (settings : Settings) : Filter :=
  ⟨settings.level, Stage.all.map fun stage => ⟨stage.target, settings.levelOf stage⟩⟩

/-- Whether the settings keep an event of that stage and level. -/
def keeps (settings : Settings) (stage : Stage) (level : Level) : Bool :=
  settings.filter.enables stage.target level

end Settings

end FlatSum
