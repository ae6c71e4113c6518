import FlatSum.Proofs.CheckedRun
import FlatSum.Proofs.Reading

namespace FlatSum

/-! Reading makes no check fire. The cursor is advanced on a character only, the byte of a digit is
never below that of zero, and a token ends behind its beginning. -/

theorem Scan.behind_behind (scan : Scan) (earlier later : List (Spanned Token)) :
    (scan.behind later).behind earlier = scan.behind (earlier ++ later) :=
  congrArg (Scan.mk · scan.error scan.stop) (List.append_assoc ..).symm

namespace Checked

variable {limit : Nat}

theorem add_of_le {left right : Nat} (fits : left + right ≤ limit) :
    add limit left right = pure (left + right) :=
  if_pos fits

theorem of_ok {α : Type} (value : α) : of (.ok value) = pure value := rfl

theorem ofBounds_of_le {start stop : Nat} (ordered : start ≤ stop) :
    of (Span.ofBounds start stop) = pure ⟨start, stop⟩ := by
  rw [Span.ofBounds_eq_ok_iff.mpr ⟨ordered, rfl⟩, of_ok]

variable {position : Nat} {c : Char} {rest text : List Char} {scan : Scan}

theorem advance_cons (fits : position + 1 ≤ limit) :
    advance limit ⟨position, c :: rest⟩ = pure ⟨position + 1, rest⟩ := by
  simp only [advance, Cursor.advance, of_ok, pure_bind, add_of_le fits]

/-- A digit is a single byte, at or above that of zero. -/
theorem checkedSub_digit (digit : c.isDigit = true) :
    checkedSub (c.toNat % 256) 48 = .ok (c.toNat - 48) := by
  have bounds : 48 ≤ c.toNat ∧ c.toNat ≤ 57 := Char.isDigit_iff_toNat.mp digit
  rw [checkedSub_eq_ok_iff]
  omega

/-- What comes of taking digits, as it is reported for a numeral that begins at `start`. -/
def numberOf (start : Nat) : Option Amount × Cursor → Except ScanError Amount × Cursor
  | (some value, next) => (.ok value, next)
  | (none, stop) => (.error (.numberOverflow start), stop)

theorem digitsChecked_eq (start : Nat) (value : Amount) (fits : position + text.length ≤ limit) :
    Cursor.digitsChecked limit start value ⟨position, text⟩ =
      pure (numberOf start (Cursor.digitsOnto value position text)) := by
  induction text generalizing value position with
  | nil =>
      rw [Cursor.digitsChecked]
      rfl
  | cons c rest ih =>
      rw [List.length_cons] at fits
      rw [Cursor.digitsChecked, Cursor.digitsOnto]
      simp only [Cursor.peek, List.head?_cons]
      by_cases digit : c.isDigit = true
      · simp only [digit, if_true, checkedSub_digit digit, of_ok, pure_bind]
        rw [← Amount.extend?]
        cases extended : value.extend? c with
        | none => rfl
        | some grown =>
            simp only [advance_cons (show position + 1 ≤ limit by omega), pure_bind]
            exact ih grown (by omega)
      · simp only [digit]
        rfl

theorem number_eq (fits : position + text.length ≤ limit) :
    number limit ⟨position, text⟩ = pure (Cursor.number ⟨position, text⟩) := by
  rw [number, digitsChecked_eq position 0 fits, Cursor.number]
  rcases Cursor.digitsOnto 0 position text with ⟨_ | value, stop⟩ <;> rfl

section Kinds

variable (nodes : List (Spanned Token))

theorem tokensChecked_nil :
    Cursor.tokensChecked limit nodes ⟨position, []⟩ = pure ⟨nodes, none, ⟨position, []⟩⟩ := by
  rw [Cursor.tokensChecked]
  rfl

theorem tokensChecked_space (fits : position + 1 ≤ limit) :
    Cursor.tokensChecked limit nodes ⟨position, ' ' :: rest⟩ =
      Cursor.tokensChecked limit nodes ⟨position + 1, rest⟩ := by
  rw [Cursor.tokensChecked]
  simp only [Cursor.peek, List.head?_cons, show ' '.isDigit = false by decide,
    show Operator.ofChar? ' ' = none by decide, Bool.false_eq_true, if_false, if_true,
    advance_cons fits, pure_bind]

theorem tokensChecked_operator (operator : Operator) (fits : position + 1 ≤ limit) :
    Cursor.tokensChecked limit nodes ⟨position, operator.symbol :: rest⟩ =
      Cursor.tokensChecked limit (nodes ++ [⟨.operator operator, ⟨position, position + 1⟩⟩])
        ⟨position + 1, rest⟩ := by
  have ordered := Nat.le_succ position
  rw [Cursor.tokensChecked]
  simp only [Cursor.peek, List.head?_cons, isDigit_symbol, ofChar?_symbol, Bool.false_eq_true,
    if_false, advance_cons fits, node, ofBounds_of_le ordered, pure_bind]

theorem tokensChecked_number {value : Amount} {stop : Cursor} (digit : c.isDigit = true)
    (read : Cursor.number ⟨position, c :: rest⟩ = (.ok value, stop))
    (ordered : position ≤ stop.position) (fits : position + (c :: rest).length ≤ limit) :
    Cursor.tokensChecked limit nodes ⟨position, c :: rest⟩ =
      Cursor.tokensChecked limit (nodes ++ [⟨.number value, ⟨position, stop.position⟩⟩]) stop := by
  rw [Cursor.tokensChecked]
  simp only [Cursor.peek, List.head?_cons, digit, if_true, number_eq fits, read, node,
    ofBounds_of_le ordered, pure_bind]

theorem tokensChecked_overflow {error : ScanError} {stop : Cursor} (digit : c.isDigit = true)
    (read : Cursor.number ⟨position, c :: rest⟩ = (.error error, stop))
    (fits : position + (c :: rest).length ≤ limit) :
    Cursor.tokensChecked limit nodes ⟨position, c :: rest⟩ = pure ⟨nodes, some error, stop⟩ := by
  rw [Cursor.tokensChecked]
  simp only [Cursor.peek, List.head?_cons, digit, if_true, number_eq fits, read, pure_bind]

theorem tokensChecked_invalid (foreign : ¬ Admitted c) :
    Cursor.tokensChecked limit nodes ⟨position, c :: rest⟩ =
      pure ⟨nodes, some (.invalidCharacter c position), ⟨position, c :: rest⟩⟩ := by
  obtain ⟨digit, operator, space⟩ := not_admitted_iff.mp foreign
  rw [Cursor.tokensChecked]
  simp only [Cursor.peek, List.head?_cons, digit, operator, space, Bool.false_eq_true, if_false]

end Kinds

/-- Reading on behind tokens, with every check, is reading on behind them. -/
theorem tokensChecked_eq (reads : Reads position text scan) (fits : position + text.length ≤ limit)
    (nodes : List (Spanned Token)) :
    Cursor.tokensChecked limit nodes ⟨position, text⟩ = pure (scan.behind nodes) := by
  induction reads generalizing nodes with
  | finish => rw [tokensChecked_nil, Scan.behind, List.append_nil]
  | space next ih =>
      rw [List.length_cons] at fits
      rw [tokensChecked_space nodes (by omega), ih (by omega)]
  | operator operator next ih =>
      rw [List.length_cons] at fits
      rw [tokensChecked_operator nodes operator (by omega), ih (by omega), Scan.behind_behind]
  | @number position rest scan numeral fit apart next ih =>
      have read := numeral.number_of_fits position fit apart
      have ahead : position + numeral.length + rest.length ≤ limit := by
        rw [List.length_append] at fits
        rwa [Nat.add_assoc]
      obtain ⟨c, digits, shape, digit⟩ := numeral.exists_cons
      rw [shape, List.cons_append] at read fits ⊢
      rw [tokensChecked_number nodes digit read (Nat.le_add_right _ _) fits, ih ahead,
        Scan.behind_behind]
  | @overflow position taken rest c numeral digits room beyond =>
      have read := Numeral.number_of_refused position rest digits room beyond
      obtain ⟨d, digits, shape, digit⟩ := numeral.exists_cons
      rw [shape, List.cons_append] at read fits ⊢
      rw [tokensChecked_overflow nodes digit read fits, Scan.behind, List.append_nil]
  | invalid foreign => rw [tokensChecked_invalid nodes foreign, Scan.behind, List.append_nil]

theorem tokenize_eq (cursor : Cursor) (fits : cursor.position + cursor.rest.length ≤ limit) :
    tokenize limit cursor = pure cursor.tokenize :=
  tokensChecked_eq (Reads.iff_tokenize.mpr rfl) fits []

end Checked

end FlatSum
