import FlatSum.Evaluation

namespace FlatSum

/-! Evaluation step by step with every check that a step makes: no call outside an operation's domain,
no difference below zero, no count beyond a machine word. The loops run for as long as they run, so
whether they end is part of what a run comes to. -/

/-- What ends a run before its time. -/
inductive Trap where
  | misuse (cause : Misuse)
  | beyondWord
deriving DecidableEq, Repr

/-- A run that may be ended by a trap, or may never end. -/
abbrev Checked (α : Type) := ExceptT Trap Option α

namespace Checked

def of {α : Type} : Except Misuse α → Checked α
  | .ok value => pure value
  | .error cause => throw (.misuse cause)

/-- Addition of counts, of which the greatest is `limit`. -/
def add (limit left right : Nat) : Checked Nat :=
  if left + right ≤ limit then pure (left + right) else throw .beyondWord

def advance (limit : Nat) (cursor : Cursor) : Checked Cursor := do
  let next ← of cursor.advance
  let position ← add limit cursor.position 1
  return { next with position }

/-- The token that was read between two places. -/
def node (token : Token) (start stop : Cursor) : Checked (Spanned Token) := do
  return ⟨token, ← of (Span.ofBounds start.position stop.position)⟩

end Checked

/-- Takes digits onto `value`. The value of a digit is a difference of bytes. -/
def Cursor.digitsChecked (limit start : Nat) (value : Amount) (cursor : Cursor) :
    Checked (Except ScanError Amount × Cursor) := do
  match cursor.peek with
  | none => return (.ok value, cursor)
  | some c =>
      if c.isDigit then
        let digit ← Checked.of (checkedSub (c.toNat % 256) 48)
        match (value.mul? 10).bind fun shifted => shifted.add? (Int64.ofNat digit) with
        | none => return (.error (.numberOverflow start), cursor)
        | some grown => (← Checked.advance limit cursor) |>.digitsChecked limit start grown
      else return (.ok value, cursor)
partial_fixpoint

def Checked.number (limit : Nat) (cursor : Cursor) : Checked (Except ScanError Amount × Cursor) :=
  cursor.digitsChecked limit cursor.position 0

def Cursor.tokensChecked (limit : Nat) (nodes : List (Spanned Token)) (cursor : Cursor) :
    Checked Scan := do
  match cursor.peek with
  | none => return ⟨nodes, none, cursor⟩
  | some c =>
      if c.isDigit then
        match ← Checked.number limit cursor with
        | (.ok value, next) =>
            next |>.tokensChecked limit (nodes ++ [← Checked.node (.number value) cursor next])
        | (.error error, stop) => return ⟨nodes, some error, stop⟩
      else
        match Operator.ofChar? c with
        | some operator =>
            let next ← Checked.advance limit cursor
            next |>.tokensChecked limit
              (nodes ++ [← Checked.node (.operator operator) cursor next])
        | none =>
            if c = ' ' then (← Checked.advance limit cursor) |>.tokensChecked limit nodes
            else return ⟨nodes, some (.invalidCharacter c cursor.position), cursor⟩
partial_fixpoint

namespace Checked

def tokenize (limit : Nat) (cursor : Cursor) : Checked Scan := cursor.tokensChecked limit []

/-- A stream of tokens at work, with the number of times that a number was expected of it and came.
Nothing depends on that number. -/
structure Tally where
  stream : TokenStream
  met : Nat

section Summing

def next (limit : Nat) (tally : Tally) : Checked (Option Token × Tally) := do
  match tally.stream.rest with
  | [] => return (none, tally)
  | token :: rest =>
      let position ← add limit tally.stream.position 1
      return (some token, { tally with stream := { tally.stream with position, rest } })

def expectNumber (limit : Nat) (tally : Tally) : Checked (Except SumError Amount × Tally) := do
  match ← next limit tally with
  | (none, stop) => return (.error .unexpectedEnd, stop)
  | (some (.number value), after) =>
      let operands ← add limit after.stream.operands 1
      return (.ok value, ⟨{ after.stream with operands }, after.met + 1⟩)
  | (some (.operator operator), after) =>
      return (.error (.invalidToken (.operator operator) after.stream.operands), after)

/-- Sums on from `value`. The slot of an overflow is computed for each operand, needed or not. -/
def Tally.sumOnto (limit : Nat) (folds : List Fold) (value : Amount) (tally : Tally) :
    Checked (List Fold × Except SumError Amount × Tally) := do
  match ← next limit tally with
  | (none, stop) => return (folds, .ok value, stop)
  | (some (.number surplus), stop) =>
      return (folds, .error (.invalidToken (.number surplus) stop.stream.operands), stop)
  | (some (.operator operator), after) =>
      match ← expectNumber limit after with
      | (.error error, stop) => return (folds, .error error, stop)
      | (.ok operand, after) =>
          let slot ← of (checkedSub after.stream.operands 1)
          match operator.combine? value operand with
          | none => return (folds, .error (.overflow slot), after)
          | some total => after |>.sumOnto limit (folds ++ [⟨operator, total⟩]) total
partial_fixpoint

def sum (limit : Nat) (tally : Tally) : Checked (List Fold × Except SumError Amount × Tally) := do
  match ← expectNumber limit tally with
  | (.error error, stop) => return ([], .error error, stop)
  | (.ok value, after) => after.sumOnto limit [] value

end Summing

section Evaluating

def errorSpan (limit : Nat) (text : List Char) : ScanError → Checked Span
  | .invalidCharacter _ index => do of (Span.ofBounds index (← add limit index 1))
  | .numberOverflow start => do
      let digits := ((text.drop start).takeWhile Char.isDigit).length
      of (Span.ofBounds start (← add limit start digits))

def evaluate (limit : Nat) (source : String) : Checked (Except Failure Amount) := do
  let scan ← tokenize limit (Cursor.start source.toList)
  match scan.result with
  | .error error => return .error (.scan error)
  | .ok nodes =>
      let (_, result, _) ← sum limit ⟨.ofList (nodes.map Spanned.value), 0⟩
      return result.mapError Failure.sum

def trace (limit : Nat) (source : String) : Checked Evaluation := do
  let scan ← tokenize limit (Cursor.start source.toList)
  match scan.result with
  | .error error =>
      return ⟨source, [], .error (.scan error), ← errorSpan limit source.toList error⟩
  | .ok nodes =>
      let (_, result, stop) ← sum limit ⟨.ofList (nodes.map Spanned.value), 0⟩
      match result with
      | .ok value => return ⟨source, nodes, .ok value, none⟩
      | .error error =>
          return ⟨source, nodes, .error (.sum error), error.span? nodes stop.stream.position⟩

end Evaluating

end Checked

end FlatSum
