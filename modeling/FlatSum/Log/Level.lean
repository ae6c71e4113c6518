import FlatSum.Text.Blank
import FlatSum.Text.Decimal

namespace FlatSum

/-! Levels of log events, from the gravest to the most talkative. -/

inductive Level where
  | error
  | warn
  | info
  | debug
  | trace
deriving DecidableEq, Repr

namespace Level

def all : List Level := [error, warn, info, debug, trace]

def verbosity : Level → Nat
  | error => 1
  | warn => 2
  | info => 3
  | debug => 4
  | trace => 5

instance : LE Level := ⟨fun left right => left.verbosity ≤ right.verbosity⟩

instance (left right : Level) : Decidable (left ≤ right) :=
  inferInstanceAs (Decidable (left.verbosity ≤ right.verbosity))

def name : Level → String
  | error => "error"
  | warn => "warn"
  | info => "info"
  | debug => "debug"
  | trace => "trace"

/-- The name in capitals, as log lines show it. -/
def display : Level → String
  | error => "ERROR"
  | warn => "WARN"
  | info => "INFO"
  | debug => "DEBUG"
  | trace => "TRACE"

def ofVerbosity? (number : Nat) : Option Level := all.find? (·.verbosity = number)

/-- The level of exactly that name. -/
def ofName? (name : String) : Option Level := all.find? (·.name = name)

/-- Reads a level from a setting: a name in any case of ASCII letters or the number of a level, with
blanks around it. -/
def parse? (setting : String) : Option Level :=
  let word := trim setting.toList
  match all.find? (·.name.toList = word.map Char.toLower) with
  | some level => some level
  | none => (Decimal.read? word).bind ofVerbosity?

end Level

end FlatSum
