import FlatSum.Text.Decimal

namespace FlatSum

/-! Calls outside an operation's domain. They are defects of the caller and not faults of a text, so
they are kept apart from the errors that a reader of a report sees. -/

inductive Misuse where
  | advancedAtEnd
  | spanReversed (start stop : Nat)
  | negativeDifference
deriving DecidableEq, Repr

namespace Misuse

def message : Misuse → String
  | advancedAtEnd => "cannot advance past the end of input"
  | spanReversed start stop =>
      "span start " ++ Decimal.ofNat start ++ " is past its end " ++ Decimal.ofNat stop
  | negativeDifference => "attempt to subtract with overflow"

end Misuse

/-- Subtraction that refuses to go below zero. -/
def checkedSub (left right : Nat) : Except Misuse Nat :=
  if right ≤ left then .ok (left - right) else .error .negativeDifference

theorem checkedSub_eq_ok_iff {left right difference : Nat} :
    checkedSub left right = .ok difference ↔ left = difference + right := by
  unfold checkedSub
  split <;> simp <;> omega

end FlatSum
