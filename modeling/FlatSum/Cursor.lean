import FlatSum.Misuse
import FlatSum.Text.Quoted
import FlatSum.Token

namespace FlatSum

/-! A place in a text, and the reading of one numeral from it. The text itself is not kept: what is
left of it and the number of characters before that are all a later step can see. -/

structure Cursor where
  position : Nat
  rest : List Char
deriving DecidableEq, Repr

/-- Why a text is no list of tokens. Both causes carry a character position. -/
inductive ScanError where
  | invalidCharacter (char : Char) (index : Nat)
  | numberOverflow (start : Nat)
deriving DecidableEq, Repr

namespace ScanError

def position : ScanError → Nat
  | invalidCharacter _ index => index
  | numberOverflow start => start

def message : ScanError → String
  | invalidCharacter char index =>
      "invalid character '" ++ String.singleton char ++ "' at index " ++ Decimal.ofNat index
  | numberOverflow start =>
      "number starting at index " ++ Decimal.ofNat start ++ " is too large"

def form : ScanError → String
  | invalidCharacter char index =>
      "InvalidCharacter(" ++ Quoted.char char ++ ", " ++ Decimal.ofNat index ++ ")"
  | numberOverflow start => "NumberOverflow(" ++ Decimal.ofNat start ++ ")"

/-- The same cause in a text with that many more characters before it. -/
def shift (offset : Nat) : ScanError → ScanError
  | invalidCharacter char index => invalidCharacter char (index + offset)
  | numberOverflow start => numberOverflow (start + offset)

end ScanError

/-- The value with one more digit behind it, unless that leaves the range of amounts. -/
def Amount.extend? (value : Amount) (digit : Char) : Option Amount :=
  (value.mul? 10).bind fun shifted => Amount.add? shifted (Int64.ofNat (digit.toNat - 48))

/-- A numeral of one digit always fits. -/
theorem Amount.extend?_zero (digit : Char) :
    Amount.extend? 0 digit = some (Int64.ofNat (digit.toNat - 48)) := by
  have shifted : Amount.mul? 0 10 = some 0 := by
    rw [Amount.mul?_eq_some_iff]
    simp
  simp only [Amount.extend?, shifted, Option.bind_some]
  rw [Amount.add?_eq_some_iff]
  simp

namespace Cursor

def start (text : List Char) : Cursor := ⟨0, text⟩

def peek (cursor : Cursor) : Option Char := cursor.rest.head?

def advance (cursor : Cursor) : Except Misuse Cursor :=
  match cursor.rest with
  | [] => .error .advancedAtEnd
  | _ :: rest => .ok ⟨cursor.position + 1, rest⟩

/-- Takes digits onto `value` as long as they fit. Ends before the first other character, or, without
a value, before the digit that does not fit. -/
def digitsOnto (value : Amount) (position : Nat) : List Char → Option Amount × Cursor
  | [] => (some value, ⟨position, []⟩)
  | c :: rest =>
      if c.isDigit then
        match value.extend? c with
        | some next => digitsOnto next (position + 1) rest
        | none => (none, ⟨position, c :: rest⟩)
      else (some value, ⟨position, c :: rest⟩)

/-- Reads the numeral under the cursor. Where no digit stands the number is zero and nothing is
read. -/
def number (cursor : Cursor) : Except ScanError Amount × Cursor :=
  match digitsOnto 0 cursor.position cursor.rest with
  | (some value, next) => (.ok value, next)
  | (none, stop) => (.error (.numberOverflow cursor.position), stop)

theorem rest_digitsOnto_length (value : Amount) (position : Nat) (text : List Char) :
    (digitsOnto value position text).2.rest.length ≤ text.length := by
  induction text generalizing value position with
  | nil => simp [digitsOnto]
  | cons c rest ih =>
      simp only [digitsOnto]
      split
      · split
        · rename_i next fits
          exact Nat.le_succ_of_le (ih next (position + 1))
        · simp
      · simp

theorem rest_number_length_lt {cursor : Cursor} {c : Char} {rest : List Char}
    (text : cursor.rest = c :: rest) (digit : c.isDigit = true) :
    cursor.number.2.rest.length < cursor.rest.length := by
  have first := Amount.extend?_zero c
  have shorter := rest_digitsOnto_length (Int64.ofNat (c.toNat - 48)) (cursor.position + 1) rest
  have opened : digitsOnto 0 cursor.position cursor.rest =
      digitsOnto (Int64.ofNat (c.toNat - 48)) (cursor.position + 1) rest := by
    simp [text, digitsOnto, digit, first]
  unfold number
  rw [opened]
  split <;> rename_i next found <;> rw [found] at shorter <;> rw [text] <;>
    exact Nat.lt_succ_of_le shorter

end Cursor

end FlatSum
