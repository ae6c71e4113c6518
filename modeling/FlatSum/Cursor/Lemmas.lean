import FlatSum.Cursor

namespace FlatSum

/-! Reading a numeral against the number that its digits write. Arithmetic that is checked digit by
digit accepts a run of digits exactly if the whole of it fits. -/

theorem Amount.toInt_digit {c : Char} (digit : c.isDigit = true) :
    (Int64.ofNat (c.toNat - 48)).toInt = ((c.toNat - 48 : Nat) : Int) := by
  have bounds : 48 ≤ c.toNat ∧ c.toNat ≤ 57 := Char.isDigit_iff_toNat.mp digit
  exact Int64.toInt_ofNat_of_lt (by omega)

/-- For a value that is not negative neither of the two checks refuses a digit that fits. -/
theorem Amount.extend?_eq_some_iff {value next : Amount} {c : Char} {sofar : Nat}
    (reads : value.toInt = sofar) (digit : c.isDigit = true) :
    value.extend? c = some next ↔ next.toInt = ((10 * sofar + (c.toNat - 48) : Nat) : Int) := by
  unfold Amount.extend?
  rw [Option.bind_eq_some_iff]
  have ten : (10 : Amount).toInt = 10 := by decide
  constructor
  · rintro ⟨shifted, multiplied, added⟩
    rw [Amount.mul?_eq_some_iff, ten] at multiplied
    rw [Amount.add?_eq_some_iff, Amount.toInt_digit digit] at added
    omega
  · intro written
    have range := next.inRange_toInt
    unfold Amount.InRange at range
    obtain ⟨shifted, exact⟩ : ∃ shifted : Amount, shifted.toInt = value.toInt * 10 :=
      Amount.exists_toInt_eq ⟨by omega, by omega⟩
    refine ⟨shifted, ?_, ?_⟩
    · rw [Amount.mul?_eq_some_iff, ten, exact]
    · rw [Amount.add?_eq_some_iff, Amount.toInt_digit digit]
      omega

theorem Amount.extend?_eq_none_iff {value : Amount} {c : Char} {sofar : Nat}
    (reads : value.toInt = sofar) (digit : c.isDigit = true) :
    value.extend? c = none ↔ 9223372036854775808 ≤ 10 * sofar + (c.toNat - 48) := by
  rw [Option.eq_none_iff_forall_ne_some]
  constructor
  · intro refused
    apply Nat.not_lt.mp
    intro fits
    obtain ⟨next, written⟩ : ∃ next : Amount,
        next.toInt = ((10 * sofar + (c.toNat - 48) : Nat) : Int) :=
      Amount.exists_toInt_eq ⟨by omega, by omega⟩
    exact refused next ((Amount.extend?_eq_some_iff reads digit).mpr written)
  · intro large next found
    have written := (Amount.extend?_eq_some_iff reads digit).mp found
    have range := next.inRange_toInt
    unfold Amount.InRange at range
    omega

theorem ofDigitChars_cons (c : Char) (rest : List Char) (sofar : Nat) :
    Nat.ofDigitChars 10 (c :: rest) sofar =
      Nat.ofDigitChars 10 rest (10 * sofar + (c.toNat - 48)) :=
  Nat.ofDigitChars_cons

theorem le_ofDigitChars (digits : List Char) (sofar : Nat) :
    sofar ≤ Nat.ofDigitChars 10 digits sofar := by
  induction digits generalizing sofar with
  | nil => exact Nat.le_refl sofar
  | cons c rest ih =>
      rw [ofDigitChars_cons]
      exact Nat.le_trans (by omega) (ih _)

namespace Cursor

/-- What is read and what is left make up the text, and what is read consists of digits. -/
theorem digitsOnto_split (value : Amount) (position : Nat) (text : List Char) :
    ∃ digits, text = digits ++ (digitsOnto value position text).2.rest ∧
      (∀ c ∈ digits, c.isDigit = true) ∧
      (digitsOnto value position text).2.position = position + digits.length := by
  induction text generalizing value position with
  | nil => exact ⟨[], by simp [digitsOnto]⟩
  | cons c rest ih =>
      by_cases digit : c.isDigit = true
      · cases extended : value.extend? c with
        | none => exact ⟨[], by simp [digitsOnto, digit, extended]⟩
        | some next =>
            obtain ⟨digits, whole, all, place⟩ := ih next (position + 1)
            refine ⟨c :: digits, ?_, ?_, ?_⟩
            · simpa [digitsOnto, digit, extended] using whole
            · intro d member
              rcases List.mem_cons.mp member with rfl | later
              · exact digit
              · exact all d later
            · simp only [digitsOnto, digit, extended, if_true, place, List.length_cons]
              omega
      · exact ⟨[], by simp [digitsOnto, digit]⟩

theorem digitsOnto_of_not_digit {value : Amount} {position : Nat} {text : List Char}
    (boundary : ∀ c, text.head? = some c → c.isDigit = false) :
    digitsOnto value position text = (some value, ⟨position, text⟩) := by
  cases text with
  | nil => rfl
  | cons c rest => simp [digitsOnto, boundary c rfl]

/-- A run of digits that fits is read to its end. -/
theorem digitsOnto_of_lt {value : Amount} {sofar : Nat} {digits rest : List Char} (position : Nat)
    (reads : value.toInt = sofar) (all : ∀ c ∈ digits, c.isDigit = true)
    (boundary : ∀ c, rest.head? = some c → c.isDigit = false)
    (fits : Nat.ofDigitChars 10 digits sofar < 9223372036854775808) :
    ∃ amount : Amount, amount.toInt = Nat.ofDigitChars 10 digits sofar ∧
      digitsOnto value position (digits ++ rest) =
        (some amount, ⟨position + digits.length, rest⟩) := by
  induction digits generalizing value position sofar with
  | nil => exact ⟨value, reads, digitsOnto_of_not_digit boundary⟩
  | cons c digits ih =>
      have digit := all c List.mem_cons_self
      rw [ofDigitChars_cons] at fits ⊢
      have small := Nat.lt_of_le_of_lt (le_ofDigitChars digits _) fits
      obtain ⟨next, written⟩ : ∃ next : Amount,
          next.toInt = ((10 * sofar + (c.toNat - 48) : Nat) : Int) :=
        Amount.exists_toInt_eq ⟨by omega, by omega⟩
      have extended := (Amount.extend?_eq_some_iff reads digit).mpr written
      obtain ⟨amount, value_eq, result⟩ :=
        ih (position + 1) written
          (fun d member => all d (List.mem_cons_of_mem c member)) fits
      refine ⟨amount, value_eq, ?_⟩
      simp [digitsOnto, digit, extended, result, Nat.add_assoc, Nat.add_comm 1]

/-- A run of digits that does not fit is refused at the first digit that makes it too large. -/
theorem digitsOnto_of_le {value : Amount} {sofar : Nat} {digits rest : List Char} (position : Nat)
    (reads : value.toInt = sofar) (all : ∀ c ∈ digits, c.isDigit = true)
    (large : 9223372036854775808 ≤ Nat.ofDigitChars 10 digits sofar) :
    ∃ taken c left, digits = taken ++ c :: left ∧
      Nat.ofDigitChars 10 taken sofar < 9223372036854775808 ∧
      9223372036854775808 ≤ Nat.ofDigitChars 10 (taken ++ [c]) sofar ∧
      digitsOnto value position (digits ++ rest) =
        (none, ⟨position + taken.length, c :: left ++ rest⟩) := by
  induction digits generalizing value position sofar with
  | nil =>
      have range := value.inRange_toInt
      unfold Amount.InRange at range
      rw [Nat.ofDigitChars_nil] at large
      omega
  | cons c digits ih =>
      have digit := all c List.mem_cons_self
      cases extended : value.extend? c with
      | none =>
          have range := value.inRange_toInt
          unfold Amount.InRange at range
          refine ⟨[], c, digits, rfl, ?_, ?_, ?_⟩
          · rw [Nat.ofDigitChars_nil]
            omega
          · exact (Amount.extend?_eq_none_iff reads digit).mp extended
          · simp [digitsOnto, digit, extended]
      | some next =>
          have written := (Amount.extend?_eq_some_iff reads digit).mp extended
          rw [ofDigitChars_cons] at large
          obtain ⟨taken, d, left, rfl, small, beyond, result⟩ :=
            ih (position + 1) written
              (fun d member => all d (List.mem_cons_of_mem c member)) large
          refine ⟨c :: taken, d, left, rfl, ?_, ?_, ?_⟩
          · rw [ofDigitChars_cons]
            exact small
          · rw [List.cons_append, ofDigitChars_cons]
            exact beyond
          · have opened : digitsOnto value position (c :: (taken ++ d :: left) ++ rest) =
                digitsOnto next (position + 1) (taken ++ d :: left ++ rest) := by
              simp [digitsOnto, digit, extended]
            rw [opened, result, List.length_cons, Nat.add_assoc, Nat.add_comm 1]

end Cursor

end FlatSum
