import FlatSum.Proofs.Outcome
import FlatSum.Proofs.Seam
import FlatSum.Proofs.Summation

namespace FlatSum

/-! What more text behind a source can change. A source that ends too early can be completed; any
other fault is there to stay, even where the text behind it lengthens the last numeral: a longer
numeral is no smaller, and a sum that has left the range only leaves it further. -/

/-- What a longer text may make of a list of tokens: the last of them may be a greater number, and
any others may follow. -/
inductive Lengthens : List Token → List Token → Prop where
  | append (more : List Token) : Lengthens [] more
  | grown {value greater : Amount} (sign : 0 ≤ value.toInt) (grows : value.toInt ≤ greater.toInt)
      (more : List Token) : Lengthens [.number value] (.number greater :: more)
  | cons {tokens longer : List Token} (token : Token) (behind : Lengthens tokens longer) :
      Lengthens (token :: tokens) (token :: longer)

variable {position operands : Nat} {value : Amount} {error : SumError}
  {rest tokens longer : List Token} {text : List Char} {scan : Scan}

theorem Reads.lengthens (reads : Reads position text scan) (read : scan.error = none)
    (more : List Char) :
    ∃ after, Reads position (text ++ more) after ∧ (after.error = none →
      Lengthens (scan.nodes.map Spanned.value) (after.nodes.map Spanned.value)) := by
  induction reads with
  | @finish position =>
      obtain ⟨after, reads⟩ := exists_scan position more
      exact ⟨after, reads, fun _ => .append _⟩
  | space next ih =>
      obtain ⟨after, reads, longer⟩ := ih read
      exact ⟨after, space reads, longer⟩
  | operator operator next ih =>
      obtain ⟨after, reads, longer⟩ := ih read
      exact ⟨_, .operator operator reads, fun ended => .cons _ (longer ended)⟩
  | @number position rest scan numeral fits apart next ih =>
      by_cases last : rest = []
      · subst last
        obtain ⟨digits, back, rfl, decimal, ahead⟩ := exists_digits more
        obtain ⟨after, reads⟩ := exists_scan (position + (numeral.extend digits decimal).length) back
        obtain ⟨whole, read', ended, tokens⟩ := reads.exists_numeral _ ahead
        rw [List.append_nil, ← List.append_assoc]
        refine ⟨whole, read', fun sound => ?_⟩
        have large := (ended.mp sound).1
        rw [next.eq_of_nil, tokens large]
        have grows := numeral.value_le_extend digits decimal
        apply Lengthens.grown
        · rw [Numeral.toInt_amount fits]
          exact Int.natCast_nonneg _
        · rw [Numeral.toInt_amount fits, Numeral.toInt_amount large]
          exact Int.ofNat_le.mpr grows
      · obtain ⟨after, reads, longer⟩ := ih read
        rw [List.append_assoc]
        exact ⟨_, number numeral fits (apart.append last more) reads,
          fun ended => .cons _ (longer ended)⟩
  | overflow => contradiction
  | invalid => contradiction

theorem combine?_eq_none_of_le {operator : Operator} {operand greater : Amount}
    (refused : operator.combine? value operand = none) (sign : 0 ≤ operand.toInt)
    (grows : operand.toInt ≤ greater.toInt) : operator.combine? value greater = none := by
  have range := value.inRange_toInt
  rw [Operator.combine?_eq_none_iff] at refused ⊢
  unfold Amount.InRange at range refused ⊢
  cases operator with
  | plus =>
      simp only [Operator.exact] at refused ⊢
      omega
  | minus =>
      simp only [Operator.exact] at refused ⊢
      omega

theorem TokenStream.resume_lengthens (lengthened : Lengthens rest longer)
    (failed : (resume ⟨position, operands, rest⟩ value).result = .error error)
    (stays : error ≠ .unexpectedEnd) :
    ∃ later, (resume ⟨position, operands, longer⟩ value).result = .error later := by
  induction rest using TokenStream.shapes generalizing position operands value longer with
  | finished => contradiction
  | surplus surplus rest =>
      cases lengthened with
      | grown => exact ⟨_, rfl⟩
      | cons => exact ⟨_, rfl⟩
  | hanging operator =>
      cases failed
      contradiction
  | doubled operator second rest =>
      cases lengthened with
      | cons _ behind =>
          cases behind with
          | cons => exact ⟨_, rfl⟩
  | pair operator operand rest ih =>
      cases lengthened with
      | cons _ behind =>
          cases combined : operator.combine? value operand with
          | some next =>
              rw [resume_fold combined] at failed
              cases behind with
              | grown => contradiction
              | cons _ behind =>
                  obtain ⟨later, found⟩ := ih behind failed
                  rw [resume_fold combined]
                  exact ⟨later, found⟩
          | none =>
              cases behind with
              | grown sign grows =>
                  rw [resume_overflow (combine?_eq_none_of_le combined sign grows)]
                  exact ⟨_, rfl⟩
              | cons =>
                  rw [resume_overflow combined]
                  exact ⟨_, rfl⟩

theorem Sum.ofTokens_lengthens (lengthened : Lengthens tokens longer)
    (failed : (ofTokens tokens).result = .error error) (stays : error ≠ .unexpectedEnd) :
    ∃ later, (ofTokens longer).result = .error later := by
  cases lengthened with
  | append =>
      cases failed
      contradiction
  | grown => contradiction
  | cons token behind =>
      cases token with
      | operator operator => exact ⟨_, rfl⟩
      | number first => exact TokenStream.resume_lengthens behind failed stays

/-- No tokens, or an operator last: an operand is still to come. -/
def Unfinished (tokens : List Token) : Prop :=
  tokens = [] ∨ ∃ front operator, tokens = front ++ [.operator operator]

theorem Unfinished.of_operator {operator : Operator}
    (unfinished : Unfinished (.operator operator :: tokens)) : Unfinished tokens := by
  rcases unfinished with empty | ⟨front, last, split⟩
  · contradiction
  · cases front with
    | nil =>
        cases split
        exact .inl rfl
    | cons token front =>
        cases split
        exact .inr ⟨front, last, rfl⟩

theorem Unfinished.of_number (unfinished : Unfinished (.number value :: tokens)) :
    tokens ≠ [] ∧ Unfinished tokens := by
  rcases unfinished with empty | ⟨front, last, split⟩
  · contradiction
  · cases front with
    | nil => cases split
    | cons token front =>
        cases split
        exact ⟨by simp, .inr ⟨front, last, rfl⟩⟩

theorem Reads.noDigitBehind (reads : Reads position text scan) (read : scan.error = none)
    (unfinished : Unfinished (scan.nodes.map Spanned.value)) : NoDigitBehind text := by
  induction reads with
  | finish => exact .nil
  | space next ih => exact .cons rfl (ih read unfinished)
  | operator operator next ih =>
      exact .cons (isDigit_symbol operator) (ih read unfinished.of_operator)
  | @number position rest scan numeral fits apart next ih =>
      obtain ⟨behind, unfinished⟩ := unfinished.of_number
      have nonempty : rest ≠ [] := by
        intro empty
        subst empty
        rw [next.eq_of_nil] at behind
        exact behind rfl
      exact (ih read unfinished).append nonempty
  | overflow => contradiction
  | invalid => contradiction

theorem TokenStream.resume_unfinished
    (ended : (resume ⟨position, operands, rest⟩ value).result = .error .unexpectedEnd) :
    (∃ front operator, rest = front ++ [.operator operator]) ∧
      ∃ total, (resume ⟨position, operands, rest ++ [.number 0]⟩ value).result = .ok total := by
  induction rest using TokenStream.shapes generalizing position operands value with
  | finished => contradiction
  | surplus =>
      rw [resume_number] at ended
      cases ended
  | hanging operator =>
      have same : operator.combine? value 0 = some value := by
        rw [Operator.combine?_eq_some_iff]
        cases operator <;> simp [Operator.exact]
      refine ⟨⟨[], operator, rfl⟩, value, ?_⟩
      rw [List.singleton_append, resume_fold same]
      rfl
  | doubled =>
      rw [resume_operator] at ended
      cases ended
  | pair operator operand rest ih =>
      cases combined : operator.combine? value operand with
      | some next =>
          rw [resume_fold combined] at ended
          obtain ⟨⟨front, last, split⟩, total, found⟩ := ih ended
          refine ⟨⟨.operator operator :: .number operand :: front, last, by rw [split]; rfl⟩,
            total, ?_⟩
          rw [List.cons_append, List.cons_append, resume_fold combined]
          exact found
      | none =>
          rw [resume_overflow combined] at ended
          cases ended

theorem Sum.ofTokens_unfinished (ended : (ofTokens tokens).result = .error .unexpectedEnd) :
    Unfinished tokens ∧ ∃ total, (ofTokens (tokens ++ [.number 0])).result = .ok total := by
  cases tokens with
  | nil => exact ⟨.inl rfl, 0, rfl⟩
  | cons token rest =>
      cases token with
      | operator operator =>
          rw [ofTokens_operator] at ended
          cases ended
      | number first =>
          rw [ofTokens_number] at ended
          obtain ⟨⟨front, last, split⟩, completed⟩ := TokenStream.resume_unfinished ended
          exact ⟨.inr ⟨.number first :: front, last, by rw [split]; rfl⟩, completed⟩

def Numeral.zero : Numeral where
  digits := ['0']
  nonempty := List.cons_ne_nil _ _
  decimal := List.forall_mem_singleton.mpr rfl

/-- A failure other than a missing end is final, and a missing end can be supplied. -/
theorem evaluate_append (source : String) :
    (evaluate source = .error (.sum .unexpectedEnd) →
      ∃ value, evaluate (source ++ "0") = .ok value) ∧
    ∀ failure, evaluate source = .error failure → failure ≠ .sum .unexpectedEnd →
      ∀ more, ∃ later, evaluate (source ++ more) = .error later := by
  have reads := Reads.of_ofText source.toList
  refine ⟨?_, ?_⟩
  · intro ended
    obtain ⟨read, summed⟩ := (evaluate_eq_sum_iff reads).mp ended
    obtain ⟨unfinished, total, completed⟩ := Sum.ofTokens_unfinished summed
    have fits : Numeral.zero.Fits := by decide
    have zero : Reads (0 + source.toList.length) (Numeral.zero.digits ++ []) _ :=
      .number Numeral.zero fits (fun _ first => nomatch first) .finish
    have joined := reads.append read (.inl (reads.noDigitBehind read unfinished)) zero
    have longer : source.toList ++ (Numeral.zero.digits ++ []) = (source ++ "0").toList := by
      rw [String.toList_append]
      rfl
    rw [longer] at joined
    refine ⟨total, (evaluate_eq_ok_iff joined).mpr ⟨rfl, ?_⟩⟩
    rw [Scan.behind, List.map_append]
    exact completed
  · intro failure failed stays more
    cases failure with
    | scan error =>
        have fault := (evaluate_eq_scan_iff reads).mp failed
        have kept := reads.append_of_error fault more.toList
        rw [← String.toList_append] at kept
        exact ⟨.scan error, (evaluate_eq_scan_iff kept).mpr fault⟩
    | sum error =>
        obtain ⟨read, summed⟩ := (evaluate_eq_sum_iff reads).mp failed
        obtain ⟨after, reads', longer⟩ := reads.lengthens read more.toList
        rw [← String.toList_append] at reads'
        cases outcome : after.error with
        | some fault => exact ⟨.scan fault, (evaluate_eq_scan_iff reads').mpr outcome⟩
        | none =>
            have different : error ≠ .unexpectedEnd := fun same => stays (by rw [same])
            obtain ⟨later, found⟩ := Sum.ofTokens_lengthens (longer outcome) summed different
            exact ⟨.sum later, (evaluate_eq_sum_iff reads').mpr ⟨outcome, found⟩⟩

theorem evaluate_append_digit :
    evaluate "9223372036854775807 + 1" = .error (.sum (.overflow 1)) ∧
      ∃ later, evaluate ("9223372036854775807 + 1" ++ "0") = .error later := by
  have tokens : (Scan.ofText "9223372036854775807 + 1".toList).nodes.map Spanned.value =
      [.number 9223372036854775807, .operator .plus, .number 1] := by decide +kernel
  have failed : evaluate "9223372036854775807 + 1" = .error (.sum (.overflow 1)) := by
    rw [evaluate_eq_sum_iff (Reads.of_ofText _), tokens]
    exact ⟨by decide +kernel, rfl⟩
  exact ⟨failed, (evaluate_append "9223372036854775807 + 1").2 _ failed (by decide) "0"⟩

end FlatSum
