import FlatSum.Proofs.CheckedSumming
import FlatSum.Proofs.TextFault

namespace FlatSum

/-! Evaluation makes no check fire and ends. A text has no more tokens than characters, and the place
of a fault is inside the text, with all the digits that are counted from there. -/

variable {limit : Nat}

theorem Reads.length_nodes_le {position : Nat} {text : List Char} {scan : Scan}
    (reads : Reads position text scan) : scan.nodes.length ≤ text.length := by
  induction reads with
  | finish => exact Nat.le_refl 0
  | space next ih => exact Nat.le_succ_of_le ih
  | operator operator next ih => exact Nat.succ_le_succ ih
  | @number position rest scan numeral fits apart next ih =>
      have few : scan.nodes.length + 1 ≤ rest.length + numeral.length :=
        Nat.add_le_add ih numeral.length_pos
      rwa [List.length_append, Nat.add_comm numeral.digits.length]
  | overflow => exact Nat.zero_le _
  | invalid => exact Nat.zero_le _

namespace Checked

theorem errorSpan_eq {text : List Char} {error : ScanError} (fault : TextFault text error)
    (fits : text.length ≤ limit) : errorSpan limit text error = pure (error.span text) := by
  have inside := fault.lt_length
  cases error with
  | invalidCharacter char index =>
      rw [errorSpan, add_of_le (Nat.le_trans inside fits), pure_bind,
        ofBounds_of_le (Nat.le_succ index), ScanError.span]
  | numberOverflow start =>
      -- The digits are counted anew, behind the start of the numeral and not beyond the text.
      have counted : ((text.drop start).takeWhile Char.isDigit).length ≤ text.length - start := by
        rw [← List.length_drop]
        exact (List.takeWhile_prefix _).length_le
      have reached : start + ((text.drop start).takeWhile Char.isDigit).length ≤ limit := by
        have before : start < text.length := inside
        omega
      simp only [errorSpan, add_of_le reached, pure_bind, ofBounds_of_le (Nat.le_add_right start _),
        ScanError.span]

theorem tokenize_text {text : List Char} (fits : text.length ≤ limit) :
    tokenize limit (Cursor.start text) = pure (Scan.ofText text) :=
  tokenize_eq (Cursor.start text) (by rwa [Cursor.start, Nat.zero_add])

theorem sum_tokens {text : List Char} {nodes : List (Spanned Token)}
    (read : (Scan.ofText text).result = .ok nodes) (fits : text.length ≤ limit) :
    let summed := Sum.ofTokens (nodes.map Spanned.value)
    sum limit ⟨.ofList (nodes.map Spanned.value), 0⟩ =
      pure (summed.folds, summed.result, .ofStream summed.stop) := by
  have few := (Reads.of_ofText text).length_nodes_le
  rw [(Scan.result_eq_ok_iff.mp read).2] at few
  have room : (TokenStream.ofList (nodes.map Spanned.value)).Room limit :=
    .ofList (by rw [List.length_map]; exact Nat.le_trans few fits)
  exact sum_eq room

theorem evaluate_eq {source : String} (fits : source.toList.length ≤ limit) :
    evaluate limit source = pure (FlatSum.evaluate source) := by
  rw [evaluate, tokenize_text fits, pure_bind, FlatSum.evaluate]
  cases read : (Scan.ofText source.toList).result with
  | error error => rfl
  | ok nodes =>
      simp only [sum_tokens read fits, pure_bind]
      cases (Sum.ofTokens (nodes.map Spanned.value)).result <;> rfl

theorem trace_eq {source : String} (fits : source.toList.length ≤ limit) :
    trace limit source = pure (Evaluation.ofSource source) := by
  rw [trace, tokenize_text fits, pure_bind, Evaluation.ofSource]
  cases read : (Scan.ofText source.toList).result with
  | error error =>
      have first := error_ofText_eq_some_iff.mp (Scan.result_eq_error_iff.mp read)
      simp only [errorSpan_eq first.fault fits, pure_bind]
  | ok nodes =>
      simp only [sum_tokens read fits, pure_bind]
      cases (Sum.ofTokens (nodes.map Spanned.value)).result <;> rfl

/-- Evaluation, plain or with its stages kept, ends on every text that a machine word can count, with
no check fired on the way. -/
theorem no_check_fires {source : String} (fits : source.length ≤ limit) :
    evaluate limit source = pure (FlatSum.evaluate source) ∧
      trace limit source = pure (Evaluation.ofSource source) := by
  have inText : source.toList.length ≤ limit := by rwa [String.length_toList]
  exact ⟨evaluate_eq inText, trace_eq inText⟩

theorem no_check_fires_on_large_number :
    "1 + 99999999999999999999".length ≤ 18446744073709551615 ∧
      evaluate 18446744073709551615 "1 + 99999999999999999999" =
        pure (.error (.scan (.numberOverflow 4))) ∧
      trace 18446744073709551615 "1 + 99999999999999999999" =
        pure ⟨"1 + 99999999999999999999", [], .error (.scan (.numberOverflow 4)), some ⟨4, 24⟩⟩ := by
  have fits : "1 + 99999999999999999999".length ≤ 18446744073709551615 := by decide
  have read : (Scan.ofText "1 + 99999999999999999999".toList).result =
      .error (.numberOverflow 4) :=
    Scan.result_eq_error_iff.mpr (by decide +kernel)
  have marked : (ScanError.numberOverflow 4).span "1 + 99999999999999999999".toList = ⟨4, 24⟩ := by
    decide
  obtain ⟨plain, traced⟩ := no_check_fires fits
  rw [FlatSum.evaluate, read] at plain
  rw [Evaluation.ofSource, read] at traced
  exact ⟨fits, plain, marked ▸ traced⟩

end Checked

end FlatSum
