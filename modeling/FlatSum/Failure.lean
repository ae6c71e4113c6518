import FlatSum.Cursor
import FlatSum.TokenStream

namespace FlatSum

/-! Failures of an evaluation, tagged by the stage that found them, and the texts that present them. -/

inductive Failure where
  | scan (error : ScanError)
  | sum (error : SumError)
deriving DecidableEq, Repr

namespace Failure

/-- The stable code of the kind of failure. -/
def code : Failure → String
  | scan (.invalidCharacter ..) => "E0001"
  | scan (.numberOverflow _) => "E0002"
  | sum .unexpectedEnd => "E0003"
  | sum (.invalidToken ..) => "E0004"
  | sum (.overflow _) => "E0005"

def message : Failure → String
  | scan error => error.message
  | sum error => error.message

/-- The failure as logs show it, with its stage and kind. -/
def form : Failure → String
  | scan error => "Lex(" ++ error.form ++ ")"
  | sum error => "Parse(" ++ error.form ++ ")"

/-- The description printed to a console. -/
def description : Failure → String
  | scan (.invalidCharacter char index) =>
      "Input contained an invalid character at index " ++ Decimal.ofNat index ++ ": " ++
        String.singleton char
  | scan (.numberOverflow start) =>
      "Number starting at index " ++ Decimal.ofNat start ++ " does not fit in a 64-bit integer"
  | sum .unexpectedEnd => "Unexpected end of input during parsing"
  | sum (.invalidToken token slot) =>
      "Invalid token during parsing at index " ++ Decimal.ofNat slot ++ ": " ++ token.text
  | sum (.overflow slot) => "Arithmetic overflow during parsing at index " ++ Decimal.ofNat slot

def title : Failure → String
  | scan _ => "Lexical error"
  | sum (.overflow _) => "Arithmetic error"
  | sum _ => "Syntax error"

/-- What a diagnostic writes beside the place it marks. -/
def label : Failure → String
  | scan (.invalidCharacter char _) => "unexpected character " ++ Quoted.char char
  | scan (.numberOverflow _) => "larger than " ++ Amount.text Int64.maxValue
  | sum .unexpectedEnd => "expected a number after this"
  | sum (.invalidToken token _) =>
      if token.isOperator then "expected a number, found '" ++ token.text ++ "'"
      else "expected '+' or '-' before '" ++ token.text ++ "'"
  | sum (.overflow _) => "result leaves the 64-bit integer range here"

end Failure

/-- The outcome of an evaluation as logs show it. -/
def outcomeForm : Except Failure Amount → String
  | .ok value => "Ok(" ++ value.text ++ ")"
  | .error failure => "Err(" ++ failure.form ++ ")"

end FlatSum
