import FlatSum.Amount

namespace FlatSum

/-! The vocabulary of expressions: numbers and the two operators. -/

inductive Operator where
  | plus
  | minus
deriving DecidableEq, Repr

namespace Operator

def symbol : Operator → Char
  | plus => '+'
  | minus => '-'

def ofChar? : Char → Option Operator
  | '+' => some plus
  | '-' => some minus
  | _ => none

/-- The sum or difference, unless it leaves the range of amounts. -/
def combine? : Operator → Amount → Amount → Option Amount
  | plus => Amount.add?
  | minus => Amount.sub?

def exact : Operator → Int → Int → Int
  | plus, left, right => left + right
  | minus, left, right => left - right

theorem ofChar?_eq_some_iff {c : Char} {operator : Operator} :
    ofChar? c = some operator ↔ c = operator.symbol := by
  unfold ofChar?
  split
  · cases operator <;> simp [symbol]
  · cases operator <;> simp [symbol]
  · cases operator <;> simp_all [symbol]

theorem combine?_eq_some_iff {operator : Operator} {left right result : Amount} :
    operator.combine? left right = some result ↔
      result.toInt = operator.exact left.toInt right.toInt := by
  cases operator
  · exact Amount.add?_eq_some_iff
  · exact Amount.sub?_eq_some_iff

theorem combine?_eq_none_iff {operator : Operator} {left right : Amount} :
    operator.combine? left right = none ↔
      ¬ Amount.InRange (operator.exact left.toInt right.toInt) := by
  cases operator <;> exact Amount.ofInt?_eq_none_iff

end Operator

inductive Token where
  | number (value : Amount)
  | operator (operator : Operator)
deriving DecidableEq, Repr

namespace Token

def isOperator : Token → Bool
  | number _ => false
  | operator _ => true

/-- The token as it would stand in an expression; a negative number has its sign before it. -/
def text : Token → String
  | number value => value.text
  | operator op => String.singleton op.symbol

/-- The token as listings and logs show it, with its kind. -/
def form : Token → String
  | number value => "Number(" ++ value.text ++ ")"
  | operator .plus => "Plus"
  | operator .minus => "Minus"

/-- A way to write tokens loses nothing if it loses no number and no operator and never writes the one
like the other. -/
theorem injective_of_kinds {write : Token → String}
    (numbers : ∀ value other, write (.number value) = write (.number other) → value = other)
    (operators : ∀ operator other, write (.operator operator) = write (.operator other) →
      operator = other)
    (apart : ∀ value operator, write (.number value) ≠ write (.operator operator))
    {token other : Token} (same : write token = write other) : token = other := by
  cases token with
  | number value =>
      cases other with
      | number value' => rw [numbers value value' same]
      | operator operator => exact absurd same (apart value operator)
  | operator operator =>
      cases other with
      | number value => exact absurd same.symm (apart value operator)
      | operator operator' => rw [operators operator operator' same]

theorem text_injective {token other : Token} (same : token.text = other.text) : token = other := by
  refine injective_of_kinds (fun _ _ => Amount.text_injective) ?_ ?_ same
  · intro operator operator' same
    cases operator <;> cases operator' <;> first | rfl | exact absurd same (by decide)
  · intro value operator same
    -- A negative number shares its sign with an operator, but no operator is written with a digit.
    obtain ⟨c, member, digit⟩ := Decimal.exists_digit_mem_ofInt value.toInt
    have written : c ∈ (text (.operator operator)).toList := same ▸ member
    obtain rfl : c = operator.symbol := by simpa [text] using written
    cases operator <;> contradiction

theorem form_injective {token other : Token} (same : token.form = other.form) : token = other := by
  refine injective_of_kinds ?_ ?_ ?_ same
  · intro value value' same
    have digits : value.text = value'.text := by simpa [form] using same
    exact Amount.text_injective digits
  · intro operator operator' same
    cases operator <;> cases operator' <;> first | rfl | exact absurd same (by decide)
  · intro value operator same
    have first := congrArg (fun text => text.toList.head?) same
    cases operator <;> simp [form] at first

end Token

def tokenListForm (tokens : List Token) : String :=
  "[" ++ ", ".intercalate (tokens.map Token.form) ++ "]"

end FlatSum
