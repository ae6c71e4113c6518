import FlatSum.Text.Decimal

namespace FlatSum

/-! Texts that come apart in one way only: at the first of a mark, behind a number, or behind one of
several openings. -/

theorem takeWhile_cut {mark : Char} {front back : List Char} (clear : mark ∉ front) :
    (front ++ mark :: back).takeWhile (· ≠ mark) = front := by
  have before : ∀ c ∈ front, decide (c ≠ mark) = true := by
    intro c member
    rw [decide_eq_true_eq]
    rintro rfl
    exact clear member
  rw [List.takeWhile_append_of_pos before]
  simp

/-- A text is cut at its first mark in one way only. -/
theorem eq_of_cut {mark : Char} {front other back rest : List Char} (clear : mark ∉ front)
    (clear' : mark ∉ other) (same : front ++ mark :: back = other ++ mark :: rest) :
    front = other ∧ back = rest := by
  have first : front = other := by
    rw [← takeWhile_cut clear, same, takeWhile_cut clear']
  subst first
  exact ⟨rfl, (List.cons.inj (List.append_cancel_left same)).2⟩

/-- A number ends where the digits do. -/
theorem Decimal.eq_of_cut {mark : Char} {m n : Nat} {back rest : List Char}
    (apart : mark.isDigit = false)
    (same : (ofNat m).toList ++ mark :: back = (ofNat n).toList ++ mark :: rest) :
    m = n ∧ back = rest := by
  obtain ⟨digits, behind⟩ := FlatSum.eq_of_cut (not_mem_ofNat apart) (not_mem_ofNat apart) same
  exact ⟨ofNat_injective (String.toList_inj.mp digits), behind⟩

/-- Where none of some openings begins another, no text has two of them. -/
theorem eq_of_openings {Kind : Type} {opening : Kind → String}
    (apart : ∀ kind other, (opening kind).toList <+: (opening other).toList → kind = other)
    {kind other : Kind} {text : List Char} (first : (opening kind).toList <+: text)
    (second : (opening other).toList <+: text) : kind = other := by
  rcases Nat.le_total (opening kind).toList.length (opening other).toList.length with short | long
  · exact apart kind other (List.prefix_of_prefix_length_le first second short)
  · exact (apart other kind (List.prefix_of_prefix_length_le second first long)).symm

end FlatSum
