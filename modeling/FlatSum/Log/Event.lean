import FlatSum.Evaluation
import FlatSum.Log.Settings

namespace FlatSum

/-! What the stages report while they work. -/

inductive Event where
  | loaded (path : String)
  | evaluating (source : String)
  | token (node : Spanned Token)
  | invalidCharacter (char : Char) (position : Nat)
  | scanned (count : Nat)
  | folded (fold : Fold)
  | summed (value : Amount)
  | evaluated (result : Except Failure Amount)

/-- The value of a field. A source is given as text of its own, a description as it is to be shown,
and a number as a number. -/
inductive FieldValue where
  | source (text : String)
  | shown (text : String)
  | number (value : Int)
deriving DecidableEq, Repr

structure Field where
  name : String
  value : FieldValue
deriving DecidableEq, Repr

/-- The bare text of a value. -/
def FieldValue.text : FieldValue → String
  | source text => text
  | shown text => text
  | number value => Decimal.ofInt value

namespace Event

def level : Event → Level
  | loaded _ => .info
  | token _ | folded _ => .trace
  | evaluating _ | invalidCharacter .. | scanned _ | summed _ | evaluated _ => .debug

def stage : Event → Stage
  | loaded _ | evaluating _ | evaluated _ => .driver
  | token _ | invalidCharacter .. | scanned _ => .lexer
  | folded _ | summed _ => .parser

def message : Event → String
  | loaded _ => "loaded expressions"
  | evaluating _ => "evaluating"
  | token _ => "token"
  | invalidCharacter .. => "invalid character"
  | scanned _ => "lexing finished"
  | folded _ => "folded operand"
  | summed _ => "parse finished"
  | evaluated _ => "evaluation finished"

def fields : Event → List Field
  | loaded path => [⟨"path", .shown path⟩]
  | evaluating source => [⟨"input", .source source⟩]
  | token node =>
      [⟨"token", .shown node.value.text⟩, ⟨"start", .number node.span.start⟩,
        ⟨"end", .number node.span.stop⟩]
  | invalidCharacter char position =>
      [⟨"character", .shown (Quoted.char char)⟩, ⟨"position", .number position⟩]
  | scanned count => [⟨"count", .number count⟩]
  | folded fold =>
      [⟨"token", .shown (Token.operator fold.operator).text⟩, ⟨"value", .number fold.value.toInt⟩]
  | summed value => [⟨"value", .number value.toInt⟩]
  | evaluated result => [⟨"result", .shown (outcomeForm result)⟩]

end Event

/-- Whether the settings keep the event. -/
def Settings.keepsEvent (settings : Settings) (event : Event) : Bool :=
  settings.keeps event.stage event.level

end FlatSum
