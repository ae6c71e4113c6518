import FlatSum.Failure
import FlatSum.Scan
import FlatSum.Sum

namespace FlatSum

/-! Evaluation of an expression: reading its tokens and summing them from left to right. A fault of
the text is reported before any fault of the sum. -/

def evaluate (source : String) : Except Failure Amount :=
  match (Scan.ofText source.toList).result with
  | .error error => .error (.scan error)
  | .ok nodes =>
      match (Sum.ofTokens (nodes.map Spanned.value)).result with
      | .error error => .error (.sum error)
      | .ok value => .ok value

/-- An evaluation with its stages kept, and the place of its failure where one can be named. -/
structure Evaluation where
  source : String
  nodes : List (Spanned Token)
  result : Except Failure Amount
  errorSpan : Option Span

/-- The place of a fault of the text. A numeral that is too large is marked as a whole, although
reading stopped inside it. -/
def ScanError.span (text : List Char) : ScanError → Span
  | .invalidCharacter _ index => ⟨index, index + 1⟩
  | .numberOverflow start => ⟨start, start + ((text.drop start).takeWhile Char.isDigit).length⟩

/-- The place of a fault of the sum: the token taken last. Where tokens ran out that is the last of
all, and none if there is no token. -/
def SumError.span? (nodes : List (Spanned Token)) (taken : Nat) : SumError → Option Span
  | .unexpectedEnd => nodes.getLast?.map Spanned.span
  | _ => if taken = 0 then none else nodes[taken - 1]?.map Spanned.span

namespace Evaluation

def ofSource (source : String) : Evaluation :=
  match (Scan.ofText source.toList).result with
  | .error error => ⟨source, [], .error (.scan error), some (error.span source.toList)⟩
  | .ok nodes =>
      let sum := Sum.ofTokens (nodes.map Spanned.value)
      match sum.result with
      | .ok value => ⟨source, nodes, .ok value, none⟩
      | .error error => ⟨source, nodes, .error (.sum error), error.span? nodes sum.stop.position⟩

/-- Whether the text was read to its end, whatever became of the sum. -/
def scanned (evaluation : Evaluation) : Bool :=
  match evaluation.result with
  | .error (.scan _) => false
  | _ => true

def tokens (evaluation : Evaluation) : List Token := evaluation.nodes.map Spanned.value

end Evaluation

/-- Expressions for a demonstration: one that holds, and three that fail. -/
def sampleSources : List String :=
  ["10 + 3 + 5", "10 + 5 - 3a - 1", "1 + 3 - 7a + 8", "10 + 3 3 + 7"]

end FlatSum
