import FlatSum.Proofs.Expression
import FlatSum.Proofs.Outcome
import FlatSum.Proofs.Summation

namespace FlatSum

/-! The value of an expression. A source has one exactly if it is an expression as it may be written,
each numeral fits, and so does each sum on the way from the first operand to the last. -/

variable {value total : Amount} {position operands : Nat}

theorem resume_terms_eq_ok_iff {terms : List Term} (fits : ∀ term ∈ terms, term.operand.Fits) :
    (TokenStream.resume ⟨position, operands, terms.flatMap Term.tokens⟩ value).result = .ok total ↔
      (∀ sum ∈ terms.scanl Term.exact value.toInt, Amount.InRange sum) ∧
        total.toInt = terms.foldl Term.exact value.toInt := by
  induction terms generalizing value position operands with
  | nil =>
      have range := value.inRange_toInt
      simp [TokenStream.resume_nil, range, Int64.toInt_inj, eq_comm]
  | cons term terms ih =>
      obtain ⟨fit, fits⟩ := List.forall_mem_cons.mp fits
      have range := value.inRange_toInt
      have operand : term.operand.amount.toInt = term.operand.value := Numeral.toInt_amount fit
      rw [List.flatMap_cons, Term.tokens, List.scanl_cons, List.foldl_cons, List.forall_mem_cons]
      cases combined : term.operator.combine? value term.operand.amount with
      | some next =>
          have sum := Operator.combine?_eq_some_iff.mp combined
          rw [operand] at sum
          have step : Term.exact value.toInt term = next.toInt := sum.symm
          rw [List.cons_append, List.cons_append, List.nil_append, TokenStream.resume_fold combined,
            step]
          simpa [Sum.behind, range] using ih fits
      | none =>
          have beyond := Operator.combine?_eq_none_iff.mp combined
          rw [operand] at beyond
          rw [List.cons_append, List.cons_append, List.nil_append,
            TokenStream.resume_overflow combined]
          refine ⟨?_, ?_⟩
          · intro impossible
            contradiction
          · intro claimed
            obtain ⟨⟨_, sums⟩, _⟩ := claimed
            refine absurd (sums (Term.exact value.toInt term) ?_) beyond
            cases terms <;> simp

/-- A source that is read without a fault and has a sum is made of terms behind its first operand. -/
theorem exists_terms {text : List Char} {place : Nat} {scan : Scan} (reads : Reads place text scan)
    (read : scan.error = none)
    (summed : (TokenStream.resume ⟨position, operands, scan.nodes.map Spanned.value⟩ value).result =
      .ok total) :
    ∃ terms trailing, text = List.flatMap Term.text terms ++ spaces trailing := by
  generalize found : scan.nodes.map Spanned.value = tokens at summed
  induction tokens using TokenStream.shapes generalizing text place scan position operands value with
  | finished =>
      obtain ⟨trailing, rfl⟩ := reads.text_of_finished read found
      exact ⟨[], trailing, rfl⟩
  | surplus => contradiction
  | hanging => contradiction
  | doubled => contradiction
  | pair operator operand rest ih =>
      obtain ⟨gap, _, _, scan, rfl, reads, read, found⟩ := reads.text_of_operator read found
      obtain ⟨margin, numeral, _, _, scan, rfl, reads, read, found⟩ := reads.text_of_number read found
      cases combined : operator.combine? value operand with
      | some next =>
          rw [TokenStream.resume_fold combined] at summed
          obtain ⟨terms, trailing, rfl⟩ := ih reads read found summed
          refine ⟨⟨gap, operator, margin, numeral⟩ :: terms, trailing, ?_⟩
          rw [List.flatMap_cons, List.append_assoc, Term.text_append]
      | none =>
          rw [TokenStream.resume_overflow combined] at summed
          contradiction

theorem Expression.sum_eq_ok_iff {expression : Expression}
    (fits : ∀ numeral ∈ expression.numerals, numeral.Fits) :
    (Sum.ofTokens expression.tokens).result = .ok value ↔
      (∀ sum ∈ expression.partialSums, Amount.InRange sum) ∧ value.toInt = expression.total := by
  obtain ⟨first, terms⟩ := List.forall_mem_cons.mp fits
  rw [tokens, Sum.ofTokens_number, resume_terms_eq_ok_iff (List.forall_mem_map.mp terms),
    Numeral.toInt_amount first, partialSums, total]

theorem Expression.evaluate_eq_ok_iff {expression : Expression} {source : String}
    (written : expression.text = source.toList) :
    evaluate source = .ok value ↔ expression.Fits ∧ value.toInt = expression.total := by
  obtain ⟨scan, reads, outcome, tokens⟩ := expression.exists_reads
  rw [written] at reads
  rw [FlatSum.evaluate_eq_ok_iff reads]
  refine ⟨?_, ?_⟩
  · intro valued
    obtain ⟨read, summed⟩ := valued
    have numerals := outcome.mp read
    rw [tokens read] at summed
    obtain ⟨sums, exact⟩ := (sum_eq_ok_iff numerals).mp summed
    exact ⟨⟨numerals, sums⟩, exact⟩
  · intro claimed
    obtain ⟨⟨numerals, sums⟩, exact⟩ := claimed
    have read := outcome.mpr numerals
    rw [tokens read]
    exact ⟨read, (sum_eq_ok_iff numerals).mpr ⟨sums, exact⟩⟩

theorem exists_expression {source : String} (valued : evaluate source = .ok value) :
    ∃ expression : Expression, expression.text = source.toList := by
  have reads := Reads.of_ofText source.toList
  obtain ⟨read, summed⟩ := (evaluate_eq_ok_iff reads).mp valued
  generalize found : (Scan.ofText source.toList).nodes.map Spanned.value = tokens at summed
  cases tokens with
  | nil => contradiction
  | cons token tokens =>
      cases token with
      | operator operator => contradiction
      | number first =>
          obtain ⟨indent, numeral, back, place, scan, text, next, ended, behind⟩ :=
            reads.text_of_number read found
          rw [Sum.ofTokens_number, ← behind] at summed
          obtain ⟨terms, trailing, rfl⟩ := exists_terms next ended summed
          exact ⟨⟨indent, numeral, terms, trailing⟩, text.symm⟩

/-- Nothing wraps around and nothing is forgiven: an expression with one sum on the way that does not
fit has no value, even if its total fits. -/
theorem evaluate_ok_iff_written (source : String) (value : Amount) :
    (evaluate source = .ok value ↔
      ∃ expression : Expression, expression.text = source.toList ∧ expression.Fits ∧
        value.toInt = expression.total) ∧
    ∀ expression : Expression, expression.text = source.toList → ¬ expression.Fits →
      ∃ failure, evaluate source = .error failure := by
  refine ⟨⟨?_, ?_⟩, ?_⟩
  · intro valued
    obtain ⟨expression, written⟩ := exists_expression valued
    exact ⟨expression, written, (Expression.evaluate_eq_ok_iff written).mp valued⟩
  · intro claimed
    obtain ⟨expression, written, exact⟩ := claimed
    exact (Expression.evaluate_eq_ok_iff written).mpr exact
  · intro expression written refused
    cases outcome : evaluate source with
    | error failure => exact ⟨failure, rfl⟩
    | ok other =>
        obtain ⟨fits, _⟩ := (Expression.evaluate_eq_ok_iff written).mp outcome
        exact absurd fits refused

/-- The greatest amount, one more, and one less again: the total fits, the sum on the way does not. -/
def overTheTop : Expression where
  indent := 0
  first := ⟨"9223372036854775807".toList, by simp, List.all_eq_true.mp rfl⟩
  terms := [⟨1, .plus, 1, ⟨['1'], by simp, by simp⟩⟩, ⟨1, .minus, 1, ⟨['1'], by simp, by simp⟩⟩]
  trailing := 0

theorem evaluate_overTheTop :
    overTheTop.text = "9223372036854775807 + 1 - 1".toList ∧ Amount.InRange overTheTop.total ∧
      ∃ failure, evaluate "9223372036854775807 + 1 - 1" = .error failure := by
  have written : overTheTop.text = "9223372036854775807 + 1 - 1".toList := by decide
  have refused : ¬ overTheTop.Fits := by
    intro fits
    exact absurd (fits.sums 9223372036854775808 (by decide)) (by decide)
  exact ⟨written, by decide,
    (evaluate_ok_iff_written "9223372036854775807 + 1 - 1" 0).2 overTheTop written refused⟩

end FlatSum
