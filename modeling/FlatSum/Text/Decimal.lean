namespace FlatSum.Decimal

/-! Decimal text of whole numbers: no leading zeros, and a minus sign before a negative one. -/

def ofNat (n : Nat) : String := String.ofList (Nat.toDigits 10 n)

def ofInt : Int → String
  | .ofNat n => ofNat n
  | .negSucc n => "-" ++ ofNat (n + 1)

/-- The number that a list of digits writes, leading zeros included. -/
def value (digits : List Char) : Nat := Nat.ofDigitChars 10 digits 0

/-- Reads an unsigned numeral; one plus sign may stand before it. -/
def read? (text : List Char) : Option Nat :=
  let digits := if text.head? = some '+' then text.tail else text
  if digits ≠ [] ∧ digits.all Char.isDigit then some (value digits) else none

theorem toList_ofNat (n : Nat) : (ofNat n).toList = Nat.toDigits 10 n :=
  String.toList_ofList

theorem isDigit_of_mem_ofNat {n : Nat} {c : Char} (member : c ∈ (ofNat n).toList) :
    c.isDigit = true := by
  rw [toList_ofNat] at member
  exact Nat.isDigit_of_mem_toDigits (by decide) (by decide) member

theorem ofNat_ne_empty (n : Nat) : (ofNat n).toList ≠ [] := by
  rw [toList_ofNat]
  exact Nat.toDigits_ne_nil

theorem value_ofNat (n : Nat) : value (ofNat n).toList = n := by
  rw [toList_ofNat]
  exact Nat.ofDigitChars_ten_toDigits

theorem ofNat_injective {m n : Nat} (same : ofNat m = ofNat n) : m = n := by
  rw [← value_ofNat m, same, value_ofNat]

theorem not_mem_ofNat {n : Nat} {c : Char} (apart : c.isDigit = false) : c ∉ (ofNat n).toList := by
  intro member
  rw [isDigit_of_mem_ofNat member] at apart
  contradiction

/-- No unsigned numeral begins with a minus sign. -/
theorem ofNat_ne_signed (m n : Nat) : ofNat m ≠ "-" ++ ofNat n := by
  intro same
  have sign : '-' ∈ (ofNat m).toList := by
    rw [same]
    simp
  exact not_mem_ofNat (by decide) sign

theorem ofInt_injective {m n : Int} (same : ofInt m = ofInt n) : m = n := by
  cases m with
  | ofNat m =>
      cases n with
      | ofNat n => exact congrArg Int.ofNat (ofNat_injective same)
      | negSucc n => exact absurd same (ofNat_ne_signed m (n + 1))
  | negSucc m =>
      cases n with
      | ofNat n => exact absurd same.symm (ofNat_ne_signed n (m + 1))
      | negSucc n =>
          have digits : ofNat (m + 1) = ofNat (n + 1) := by simpa [ofInt] using same
          rw [Nat.succ.inj (ofNat_injective digits)]

theorem mem_ofInt {value : Int} {c : Char} (member : c ∈ (ofInt value).toList) :
    c = '-' ∨ c.isDigit = true := by
  cases value with
  | ofNat n => exact .inr (isDigit_of_mem_ofNat member)
  | negSucc n =>
      rw [ofInt, String.toList_append, List.mem_append] at member
      rcases member with sign | digit
      · exact .inl (by simpa using sign)
      · exact .inr (isDigit_of_mem_ofNat digit)

theorem not_mem_ofInt {value : Int} {c : Char} (different : c ≠ '-') (apart : c.isDigit = false) :
    c ∉ (ofInt value).toList := by
  intro member
  rcases mem_ofInt member with sign | digit
  · exact different sign
  · rw [digit] at apart
    contradiction

theorem exists_digit_mem_ofInt (value : Int) : ∃ c ∈ (ofInt value).toList, c.isDigit = true := by
  have unsigned : ∀ n, ∃ c ∈ (ofNat n).toList, c.isDigit = true := by
    intro n
    obtain ⟨c, member⟩ := List.exists_mem_of_ne_nil _ (ofNat_ne_empty n)
    exact ⟨c, member, isDigit_of_mem_ofNat member⟩
  cases value with
  | ofNat n => exact unsigned n
  | negSucc n =>
      obtain ⟨c, member, digit⟩ := unsigned (n + 1)
      refine ⟨c, ?_, digit⟩
      rw [ofInt, String.toList_append]
      exact List.mem_append_right _ member

theorem value_append (front back : List Char) :
    value (front ++ back) = Nat.ofDigitChars 10 back (value front) :=
  Nat.ofDigitChars_append 0

theorem value_replicate_zero_append (zeros : Nat) (digits : List Char) :
    value (List.replicate zeros '0' ++ digits) = value digits := by
  rw [value_append]
  simp [value]

end FlatSum.Decimal
