import FlatSum.Proofs.Resumption

namespace FlatSum

/-! Arithmetic that is checked digit by digit, against the number that a whole run of digits writes. A
number too large shows at its first digit too many, since further digits never make a number smaller,
so stopping there refuses no run that fits and accepts none that does not. -/

/-- All the digits from a place on, up to a character that is none or to the end. The run may be
empty. -/
structure RunFrom (text : List Char) (start stop : Nat) : Prop where
  ordered : start ≤ stop
  digits : ∀ index, start ≤ index → index < stop → ∃ c, text[index]? = some c ∧ c.isDigit = true
  ended : ∀ c, text[stop]? = some c → c.isDigit = false

variable {text digits back : List Char} {start stop other : Nat}

namespace RunFrom

theorem stop_le (run : RunFrom text start stop) (another : RunFrom text start other) :
    stop ≤ other := by
  apply Nat.le_of_not_lt
  intro longer
  obtain ⟨c, found, digit⟩ := run.digits other another.ordered longer
  rw [another.ended c found] at digit
  contradiction

theorem unique (run : RunFrom text start stop) (another : RunFrom text start other) :
    other = stop :=
  Nat.le_antisymm (another.stop_le run) (run.stop_le another)

theorem of_split (split : text.drop start = digits ++ back)
    (decimal : ∀ c ∈ digits, c.isDigit = true) (apart : NoDigitAhead back) :
    RunFrom text start (start + digits.length) where
  ordered := Nat.le_add_right _ _
  digits := by
    intro index lower upper
    obtain ⟨offset, rfl⟩ := Nat.exists_eq_add_of_le lower
    have inside : offset < digits.length := Nat.lt_of_add_lt_add_left upper
    refine ⟨digits[offset], ?_, decimal _ (List.getElem_mem inside)⟩
    rw [← List.getElem?_drop, split, List.getElem?_append_left inside,
      List.getElem?_eq_getElem inside]
  ended := by
    intro c found
    apply apart c
    rwa [← List.getElem?_drop, split, List.getElem?_append_right (Nat.le_refl _), Nat.sub_self,
      ← List.head?_eq_getElem?] at found

end RunFrom

theorem Span.slice_of_split (split : text.drop start = digits ++ back) :
    Span.slice ⟨start, start + digits.length⟩ text = digits := by
  rw [slice, List.extract_eq_take_drop, split, Nat.add_sub_cancel_left, List.take_left]

theorem drop_of_split (split : text.drop start = digits ++ back) :
    text.drop (start + digits.length) = back := by
  rw [← List.drop_drop, split, List.drop_left]

namespace Cursor

/-- Of a run too large, reading leaves the first digit that makes it so. -/
theorem number_of_outgrown (split : text.drop start = digits ++ back)
    (decimal : ∀ c ∈ digits, c.isDigit = true)
    (beyond : 9223372036854775807 < Decimal.value digits) :
    ∃ place < start + digits.length, OutgrownAt text start place ∧
      number ⟨start, text.drop start⟩ =
        (.error (.numberOverflow start), ⟨place, text.drop place⟩) := by
  obtain ⟨taken, c, left, rfl, room, large, read⟩ :=
    @digitsOnto_of_le 0 0 digits back start Amount.toInt_zero decimal beyond
  have inside : start < text.length := by
    apply Nat.lt_of_not_le
    intro short
    rw [List.drop_eq_nil_of_le short] at split
    simp at split
  have front : (text.take start).length = start := by
    rw [List.length_take, Nat.min_eq_left (Nat.le_of_lt inside)]
  have whole : text.take start ++ (taken ++ c :: (left ++ back)) = text := by
    rw [← List.cons_append, ← List.append_assoc taken, ← split, List.take_append_drop]
  have read_digits : ∀ d ∈ taken ++ [c], d.isDigit = true := by
    intro d member
    apply decimal
    rw [List.append_cons]
    exact List.mem_append_left left member
  have outgrown := OutgrownAt.of_split (text.take start) (left ++ back) read_digits
    (Nat.le_of_lt_succ room) large
  rw [whole, front] at outgrown
  refine ⟨start + taken.length, by simp, outgrown, ?_⟩
  have ahead : text.drop (start + taken.length) = c :: left ++ back :=
    drop_of_split (split.trans (List.append_assoc ..))
  rw [split, number, read, ahead]

/-- A numeral is read from a place just as its whole run of digits says. -/
theorem number_agrees_with_run (text : List Char) (start : Nat) :
    ∃ stop, RunFrom text start stop ∧ (∀ other, RunFrom text start other → other = stop) ∧
      (Decimal.value (Span.slice ⟨start, stop⟩ text) ≤ 9223372036854775807 →
        ∃ amount : Amount, amount.toInt = Decimal.value (Span.slice ⟨start, stop⟩ text) ∧
          number ⟨start, text.drop start⟩ = (.ok amount, ⟨stop, text.drop stop⟩)) ∧
      (9223372036854775807 < Decimal.value (Span.slice ⟨start, stop⟩ text) →
        ∃ place < stop, OutgrownAt text start place ∧
          number ⟨start, text.drop start⟩ =
            (.error (.numberOverflow start), ⟨place, text.drop place⟩)) := by
  obtain ⟨digits, back, split, decimal, apart⟩ := exists_digits (text.drop start)
  have run := RunFrom.of_split split decimal apart
  refine ⟨start + digits.length, run, fun other another => run.unique another, ?_⟩
  rw [Span.slice_of_split split]
  constructor
  · intro fits
    obtain ⟨amount, exact, read⟩ :=
      digitsOnto_of_lt start Amount.toInt_zero decimal apart (Nat.lt_succ_of_le fits)
    refine ⟨amount, exact, ?_⟩
    rw [drop_of_split split, split, number, read]
  · intro beyond
    exact number_of_outgrown split decimal beyond

end Cursor

end FlatSum
