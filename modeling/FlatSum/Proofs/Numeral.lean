import FlatSum.Cursor.Lemmas

namespace FlatSum

/-! Numerals as they are written, leading zeros included, against the arithmetic that reads them digit
by digit. A numeral is read as a whole if it fits, and otherwise up to the first digit too many. -/

structure Numeral where
  digits : List Char
  nonempty : digits ≠ []
  decimal : ∀ c ∈ digits, c.isDigit = true

def NoDigitAhead (rest : List Char) : Prop := ∀ c, rest.head? = some c → c.isDigit = false

def NoDigitBehind (front : List Char) : Prop := ∀ c, front.getLast? = some c → c.isDigit = false

theorem NoDigitAhead.nil : NoDigitAhead [] := nofun

theorem NoDigitBehind.nil : NoDigitBehind [] := nofun

theorem exists_digits (text : List Char) :
    ∃ digits back, text = digits ++ back ∧ (∀ c ∈ digits, c.isDigit = true) ∧ NoDigitAhead back := by
  refine ⟨text.takeWhile Char.isDigit, text.dropWhile Char.isDigit,
    List.takeWhile_append_dropWhile.symm, List.all_eq_true.mp List.all_takeWhile, ?_⟩
  intro c first
  have stopped := List.head?_dropWhile_not Char.isDigit text
  simpa [first] using stopped

theorem Amount.toInt_zero : (0 : Amount).toInt = ((0 : Nat) : Int) := Int64.toInt_zero

namespace Numeral

variable {numeral : Numeral} {rest taken : List Char} {c : Char}

def length (numeral : Numeral) : Nat := numeral.digits.length

def value (numeral : Numeral) : Nat := Decimal.value numeral.digits

/-- The numeral denotes an amount: it is at most the greatest. -/
def Fits (numeral : Numeral) : Prop := numeral.value < 9223372036854775808

instance (numeral : Numeral) : Decidable numeral.Fits :=
  inferInstanceAs (Decidable (numeral.value < 9223372036854775808))

def amount (numeral : Numeral) : Amount := Int64.ofNat numeral.value

def extend (numeral : Numeral) (more : List Char) (decimal : ∀ c ∈ more, c.isDigit = true) :
    Numeral where
  digits := numeral.digits ++ more
  nonempty := List.append_ne_nil_of_left_ne_nil numeral.nonempty more
  decimal := by
    intro c member
    rcases List.mem_append.mp member with early | late
    · exact numeral.decimal c early
    · exact decimal c late

theorem toInt_amount (fits : numeral.Fits) : numeral.amount.toInt = numeral.value :=
  Int64.toInt_ofNat_of_lt fits

theorem exists_cons (numeral : Numeral) :
    ∃ c rest, numeral.digits = c :: rest ∧ c.isDigit = true := by
  obtain ⟨c, rest, shape⟩ := List.exists_cons_of_ne_nil numeral.nonempty
  exact ⟨c, rest, shape, numeral.decimal c (by simp [shape])⟩

theorem length_pos (numeral : Numeral) : 0 < numeral.length :=
  List.length_pos_iff.mpr numeral.nonempty

theorem value_le_extend (numeral : Numeral) (more : List Char)
    (decimal : ∀ c ∈ more, c.isDigit = true) :
    numeral.value ≤ (numeral.extend more decimal).value := by
  unfold value extend
  rw [Decimal.value_append]
  exact le_ofDigitChars more _

theorem exists_head {c : Char} (digit : c.isDigit = true) (rest : List Char) :
    ∃ (numeral : Numeral) (back : List Char),
      c :: rest = numeral.digits ++ back ∧ NoDigitAhead back := by
  obtain ⟨digits, back, rfl, decimal, apart⟩ := exists_digits rest
  exact ⟨⟨c :: digits, List.cons_ne_nil c digits, List.forall_mem_cons.mpr ⟨digit, decimal⟩⟩, back,
    rfl, apart⟩

theorem number_of_fits (position : Nat) (fits : numeral.Fits) (apart : NoDigitAhead rest) :
    Cursor.number ⟨position, numeral.digits ++ rest⟩ =
      (.ok numeral.amount, ⟨position + numeral.length, rest⟩) := by
  obtain ⟨amount, exact, read⟩ :=
    Cursor.digitsOnto_of_lt position Amount.toInt_zero numeral.decimal apart fits
  have same : amount = numeral.amount := by
    apply Int64.toInt_inj.mp
    rw [exact, toInt_amount fits]
    rfl
  simp [Cursor.number, read, same, length]

/-- A numeral that does not fit has a first digit too many. -/
theorem exists_refused (large : ¬ numeral.Fits) :
    ∃ (refused : Numeral) (taken : List Char) (c : Char) (left : List Char),
      refused.digits = taken ++ [c] ∧ numeral.digits = refused.digits ++ left ∧
      Decimal.value taken < 9223372036854775808 ∧ ¬ refused.Fits := by
  obtain ⟨taken, c, left, split, room, beyond, _⟩ :=
    @Cursor.digitsOnto_of_le 0 0 numeral.digits [] 0 Amount.toInt_zero numeral.decimal
      (Nat.not_lt.mp large)
  have whole : numeral.digits = taken ++ [c] ++ left := by simpa using split
  have decimal : ∀ d ∈ taken ++ [c], d.isDigit = true := by
    intro d member
    apply numeral.decimal
    rw [whole]
    exact List.mem_append_left left member
  exact ⟨⟨taken ++ [c], by simp, decimal⟩, taken, c, left, rfl, whole, room, Nat.not_lt.mpr beyond⟩

/-- Reading stops at the first digit that the digits before it leave no room for. -/
theorem number_of_refused (position : Nat) (rest : List Char)
    (digits : numeral.digits = taken ++ [c]) (room : Decimal.value taken < 9223372036854775808)
    (beyond : ¬ numeral.Fits) :
    Cursor.number ⟨position, numeral.digits ++ rest⟩ =
      (.error (.numberOverflow position), ⟨position + taken.length, c :: rest⟩) := by
  obtain ⟨front, d, left, split, _, large, read⟩ :=
    @Cursor.digitsOnto_of_le 0 0 numeral.digits rest position Amount.toInt_zero numeral.decimal
      (Nat.not_lt.mp beyond)
  rw [digits] at split
  -- Were a digit left over, reading would have stopped among the digits that still fit.
  have none_left : left = [] := by
    rcases List.eq_nil_or_concat left with empty | ⟨others, last, concat⟩
    · exact empty
    · have whole : taken ++ [c] = front ++ [d] ++ others ++ [last] := by
        rw [split, concat]
        simp
      have inside : taken = front ++ [d] ++ others := (List.append_inj' whole rfl).1
      have grown : Decimal.value (front ++ [d]) ≤ Decimal.value taken := by
        rw [inside, Decimal.value_append _ others]
        exact le_ofDigitChars others _
      exact absurd (Nat.le_trans large grown) (Nat.not_le.mpr room)
  subst none_left
  obtain ⟨sameFront, sameDigit⟩ := List.append_inj' split rfl
  cases sameFront
  cases sameDigit
  rw [Cursor.number, read]
  rfl

end Numeral

end FlatSum
