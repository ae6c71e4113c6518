import FlatSum.Proofs.Numeral
import FlatSum.Scan.Lemmas

namespace FlatSum

/-! Reading a text, rule by rule: one rule for each thing that can stand at a place. The rules derive
exactly what `Cursor.tokenize` leaves, so a property of all readings is shown by induction on them. -/

def Admitted (c : Char) : Prop := c.isDigit = true ∨ c = '+' ∨ c = '-' ∨ c = ' '

inductive Reads : Nat → List Char → Scan → Prop where
  | finish {position : Nat} : Reads position [] ⟨[], none, ⟨position, []⟩⟩
  | space {position : Nat} {rest : List Char} {scan : Scan}
      (next : Reads (position + 1) rest scan) :
      Reads position (' ' :: rest) scan
  | operator {position : Nat} {rest : List Char} {scan : Scan} (operator : Operator)
      (next : Reads (position + 1) rest scan) :
      Reads position (operator.symbol :: rest)
        (scan.behind [⟨.operator operator, ⟨position, position + 1⟩⟩])
  | number {position : Nat} {rest : List Char} {scan : Scan} (numeral : Numeral)
      (fits : numeral.Fits) (apart : NoDigitAhead rest)
      (next : Reads (position + numeral.length) rest scan) :
      Reads position (numeral.digits ++ rest)
        (scan.behind [⟨.number numeral.amount, ⟨position, position + numeral.length⟩⟩])
  | overflow {position : Nat} {taken rest : List Char} {c : Char} (numeral : Numeral)
      (digits : numeral.digits = taken ++ [c]) (room : Decimal.value taken < 9223372036854775808)
      (beyond : ¬ numeral.Fits) :
      Reads position (numeral.digits ++ rest)
        ⟨[], some (.numberOverflow position), ⟨position + taken.length, c :: rest⟩⟩
  | invalid {position : Nat} {rest : List Char} {c : Char} (foreign : ¬ Admitted c) :
      Reads position (c :: rest)
        ⟨[], some (.invalidCharacter c position), ⟨position, c :: rest⟩⟩

theorem admitted_symbol (operator : Operator) : Admitted operator.symbol := by
  cases operator <;> simp [Admitted, Operator.symbol]

theorem isDigit_symbol (operator : Operator) : operator.symbol.isDigit = false := by
  cases operator <;> decide

theorem ofChar?_symbol (operator : Operator) : Operator.ofChar? operator.symbol = some operator :=
  Operator.ofChar?_eq_some_iff.mpr rfl

theorem ofChar?_eq_none_iff {c : Char} : Operator.ofChar? c = none ↔ c ≠ '+' ∧ c ≠ '-' := by
  rw [Option.eq_none_iff_forall_ne_some]
  refine ⟨fun none => ⟨?_, ?_⟩, ?_⟩
  · intro plus
    exact none .plus (Operator.ofChar?_eq_some_iff.mpr plus)
  · intro minus
    exact none .minus (Operator.ofChar?_eq_some_iff.mpr minus)
  · intro different operator found
    have symbol := Operator.ofChar?_eq_some_iff.mp found
    cases operator with
    | plus => exact different.1 symbol
    | minus => exact different.2 symbol

theorem not_admitted_iff {c : Char} :
    ¬ Admitted c ↔ c.isDigit = false ∧ Operator.ofChar? c = none ∧ c ≠ ' ' := by
  rw [ofChar?_eq_none_iff]
  simp only [Admitted, not_or, Bool.not_eq_true, and_assoc]

namespace Reads

variable {position : Nat} {text : List Char} {scan : Scan}

/-- Whatever the rules derive is what the reading leaves. -/
theorem tokenize_eq (reads : Reads position text scan) :
    Cursor.tokenize ⟨position, text⟩ = scan := by
  induction reads with
  | finish => exact Cursor.tokenize_nil
  | space next ih => rw [Cursor.tokenize_space, ih]
  | operator operator next ih =>
      rw [Cursor.tokenize_operator (isDigit_symbol operator) (ofChar?_symbol operator), ih]
  | @number position rest scan numeral fits apart next ih =>
      have read := numeral.number_of_fits position fits apart
      obtain ⟨c, digits, shape, digit⟩ := numeral.exists_cons
      rw [shape, List.cons_append] at read ⊢
      rw [Cursor.tokenize_number digit read, ih]
  | @overflow position taken rest c numeral digits room beyond =>
      have read := Numeral.number_of_refused position rest digits room beyond
      obtain ⟨d, digits, shape, digit⟩ := numeral.exists_cons
      rw [shape, List.cons_append] at read ⊢
      exact Cursor.tokenize_overflow digit read
  | invalid foreign =>
      obtain ⟨digit, operator, space⟩ := not_admitted_iff.mp foreign
      exact Cursor.tokenize_invalid digit operator space

/-- A numeral before a text is read, and then the text, or the numeral is refused. -/
theorem exists_numeral {rest : List Char} (numeral : Numeral) (apart : NoDigitAhead rest)
    (next : Reads (position + numeral.length) rest scan) :
    ∃ after, Reads position (numeral.digits ++ rest) after ∧
      (after.error = none ↔ numeral.Fits ∧ scan.error = none) ∧
      (numeral.Fits → after.nodes.map Spanned.value =
        .number numeral.amount :: scan.nodes.map Spanned.value) := by
  by_cases fits : numeral.Fits
  · refine ⟨_, .number numeral fits apart next, ?_, fun _ => rfl⟩
    simp [Scan.behind, fits]
  · obtain ⟨refused, taken, c, left, digits, shape, room, beyond⟩ := Numeral.exists_refused fits
    rw [shape, List.append_assoc]
    refine ⟨_, .overflow refused digits room beyond, ?_, fun fit => absurd fit fits⟩
    simp [fits]

/-- Every text is read by the rules, to its end or to a fault. -/
theorem exists_scan (position : Nat) (text : List Char) : ∃ scan, Reads position text scan := by
  induction size : text.length using Nat.strongRecOn generalizing position text with
  | ind size ih =>
      subst size
      cases text with
      | nil => exact ⟨_, finish⟩
      | cons c rest =>
          by_cases admitted : Admitted c
          · obtain ⟨scan, next⟩ := ih rest.length (Nat.lt_succ_self _) (position + 1) rest rfl
            rcases admitted with digit | rfl | rfl | rfl
            · obtain ⟨numeral, back, split, apart⟩ := Numeral.exists_head digit rest
              have shorter : back.length < (c :: rest).length := by
                have positive : 0 < numeral.digits.length := numeral.length_pos
                rw [split, List.length_append]
                omega
              obtain ⟨scan, next⟩ := ih back.length shorter (position + numeral.length) back rfl
              obtain ⟨after, reads, _⟩ := next.exists_numeral numeral apart
              rw [split]
              exact ⟨after, reads⟩
            · exact ⟨_, operator .plus next⟩
            · exact ⟨_, operator .minus next⟩
            · exact ⟨_, space next⟩
          · exact ⟨_, invalid admitted⟩

theorem iff_tokenize : Reads position text scan ↔ Cursor.tokenize ⟨position, text⟩ = scan := by
  refine ⟨tokenize_eq, ?_⟩
  intro left
  obtain ⟨derived, reads⟩ := exists_scan position text
  rwa [reads.tokenize_eq.symm.trans left] at reads

/-- A numeral that does not fit ends the reading on its first digit too many. -/
theorem stop_of_overflow {start : Nat} (reads : Reads position text scan)
    (fault : scan.error = some (.numberOverflow start)) :
    ∃ front numeral taken c back, text = front ++ (Numeral.digits numeral ++ back) ∧
      start = position + front.length ∧ numeral.digits = taken ++ [c] ∧
      Decimal.value taken < 9223372036854775808 ∧ ¬ numeral.Fits ∧
      scan.stop = ⟨start + taken.length, c :: back⟩ := by
  induction reads with
  | finish => contradiction
  | space next ih =>
      obtain ⟨front, numeral, taken, c, back, rfl, place, ended⟩ := ih fault
      refine ⟨' ' :: front, numeral, taken, c, back, rfl, ?_, ended⟩
      rw [place, List.length_cons]
      omega
  | operator operator next ih =>
      obtain ⟨front, numeral, taken, c, back, rfl, place, ended⟩ := ih fault
      refine ⟨operator.symbol :: front, numeral, taken, c, back, rfl, ?_, ended⟩
      rw [place, List.length_cons]
      omega
  | number earlier fits apart next ih =>
      obtain ⟨front, numeral, taken, c, back, rfl, place, ended⟩ := ih fault
      refine ⟨earlier.digits ++ front, numeral, taken, c, back, (List.append_assoc ..).symm, ?_,
        ended⟩
      rw [place, List.length_append, Numeral.length, Nat.add_assoc]
  | @overflow position taken rest c numeral digits room beyond =>
      cases fault
      exact ⟨[], numeral, taken, c, rest, rfl, rfl, digits, room, beyond, rfl⟩
  | invalid => cases fault

theorem eq_of_nil (reads : Reads position [] scan) : scan = ⟨[], none, ⟨position, []⟩⟩ :=
  reads.tokenize_eq.symm.trans Cursor.tokenize_nil

theorem of_ofText (text : List Char) : Reads 0 text (Scan.ofText text) :=
  iff_tokenize.mpr rfl

theorem ofText_eq (reads : Reads 0 text scan) : Scan.ofText text = scan :=
  reads.tokenize_eq

end Reads

end FlatSum
