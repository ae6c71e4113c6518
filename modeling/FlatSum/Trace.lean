import FlatSum.Log.Event

namespace FlatSum

/-! The events of an evaluation, in the order in which they happen. -/

/-- One event for each token, then how reading ended. A numeral that does not fit ends it without a
word. -/
def Scan.events (scan : Scan) : List Event :=
  scan.nodes.map Event.token ++
    match scan.error with
    | none => [.scanned scan.nodes.length]
    | some (.invalidCharacter char index) => [.invalidCharacter char index]
    | some (.numberOverflow _) => []

/-- One event for each operand taken in behind the first, then the value if there is one. -/
def Sum.events (sum : Sum) : List Event :=
  sum.folds.map Event.folded ++
    match sum.result with
    | .ok value => [.summed value]
    | .error _ => []

def evaluateEvents (source : String) : List Event :=
  let scan := Scan.ofText source.toList
  match scan.result with
  | .error _ => scan.events
  | .ok nodes => scan.events ++ (Sum.ofTokens (nodes.map Spanned.value)).events

/-- The events of `Evaluation.ofSource`, which also says what it evaluates and, unless the text could
not be read, how that ended. -/
def Evaluation.events (source : String) : List Event :=
  let scan := Scan.ofText source.toList
  .evaluating source :: scan.events ++
    match scan.result with
    | .error _ => []
    | .ok nodes =>
        let sum := Sum.ofTokens (nodes.map Spanned.value)
        sum.events ++ [.evaluated (sum.result.mapError Failure.sum)]

def keptEvents (settings : Settings) (events : List Event) : List Event :=
  events.filter settings.keepsEvent

end FlatSum
