import FlatSum.Proofs.Reading

namespace FlatSum

/-! Readings of a text cut in two. A fault is final: what stands behind it decides nothing, and what
stands before it is read without one. Two readings without a fault join wherever no numeral runs
across the cut. Where a text begins decides nothing but the positions. -/

/-- The same reading of a text that begins that many characters further on. -/
def Scan.shift (scan : Scan) (offset : Nat) : Scan where
  nodes := scan.nodes.map (·.shift offset)
  error := scan.error.map (·.shift offset)
  stop := ⟨scan.stop.position + offset, scan.stop.rest⟩

theorem Scan.shift_behind (scan : Scan) (node : Spanned Token) (offset : Nat) :
    (scan.behind [node]).shift offset = (scan.shift offset).behind [node.shift offset] := rfl

variable {front back : List Char}

theorem NoDigitAhead.of_append (apart : NoDigitAhead (front ++ back)) : NoDigitAhead front := by
  intro c first
  apply apart c
  rw [List.head?_append, first]
  rfl

theorem NoDigitAhead.append (apart : NoDigitAhead front) (nonempty : front ≠ []) (back : List Char) :
    NoDigitAhead (front ++ back) := by
  obtain ⟨c, rest, rfl⟩ := List.exists_cons_of_ne_nil nonempty
  exact apart

theorem NoDigitBehind.of_append (apart : NoDigitBehind (front ++ back)) : NoDigitBehind back := by
  intro c last
  apply apart c
  rw [List.getLast?_append, last]
  rfl

theorem NoDigitBehind.of_cons {c : Char} (apart : NoDigitBehind (c :: back)) : NoDigitBehind back :=
  @NoDigitBehind.of_append [c] back apart

theorem NoDigitBehind.append (apart : NoDigitBehind back)
    (nonempty : back ≠ []) : NoDigitBehind (front ++ back) := by
  intro c last
  have found := List.getLast?_eq_some_getLast nonempty
  rw [List.getLast?_append, found] at last
  cases last
  exact apart _ found

theorem NoDigitBehind.cons {c : Char} (digit : c.isDigit = false)
    (apart : NoDigitBehind back) : NoDigitBehind (c :: back) := by
  cases back with
  | nil =>
      intro d last
      cases last
      exact digit
  | cons d back =>
      have nonempty : d :: back ≠ [] := List.cons_ne_nil d back
      exact @NoDigitBehind.append [c] (d :: back) apart nonempty

theorem NoDigitBehind.concat {c : Char} (front : List Char) (digit : c.isDigit = false) :
    NoDigitBehind (front ++ [c]) := by
  intro d last
  rw [List.getLast?_concat] at last
  cases last
  exact digit

theorem Numeral.not_noDigitAhead (numeral : Numeral) (back : List Char) :
    ¬ NoDigitAhead (numeral.digits ++ back) := by
  intro apart
  obtain ⟨c, digits, shape, digit⟩ := numeral.exists_cons
  rw [apart c (by simp [shape])] at digit
  contradiction

theorem Numeral.not_noDigitBehind (numeral : Numeral) : ¬ NoDigitBehind numeral.digits := by
  intro apart
  have last := List.getLast?_eq_some_getLast numeral.nonempty
  have digit := numeral.decimal _ (List.getLast_mem numeral.nonempty)
  rw [apart _ last] at digit
  contradiction

namespace Reads

variable {position : Nat} {text : List Char} {scan after : Scan} {error : ScanError}

theorem shift (reads : Reads position text scan) (offset : Nat) :
    Reads (position + offset) text (scan.shift offset) := by
  induction reads with
  | finish => exact finish
  | @space position rest scan next ih =>
      rw [Nat.add_right_comm] at ih
      exact space ih
  | @operator position rest scan operator next ih =>
      rw [Scan.shift_behind, Spanned.shift, Span.shift]
      rw [Nat.add_right_comm] at ih ⊢
      exact .operator operator ih
  | @number position rest scan numeral fits apart next ih =>
      rw [Scan.shift_behind, Spanned.shift, Span.shift]
      rw [Nat.add_right_comm] at ih ⊢
      exact number numeral fits apart ih
  | @overflow position taken rest c numeral digits room beyond =>
      rw [Scan.shift, Nat.add_right_comm]
      exact overflow numeral digits room beyond
  | invalid foreign => exact invalid foreign

theorem append_of_error (reads : Reads position text scan) (fault : scan.error = some error)
    (more : List Char) :
    Reads position (text ++ more)
      { scan with stop := ⟨scan.stop.position, scan.stop.rest ++ more⟩ } := by
  induction reads with
  | finish => contradiction
  | space next ih => exact space (ih fault)
  | operator operator next ih => exact .operator operator (ih fault)
  | @number position rest scan numeral fits apart next ih =>
      have nonempty : rest ≠ [] := by
        intro empty
        subst empty
        rw [next.eq_of_nil] at fault
        contradiction
      rw [List.append_assoc]
      exact number numeral fits (apart.append nonempty more) (ih fault)
  | overflow numeral digits room beyond =>
      rw [List.append_assoc]
      exact overflow numeral digits room beyond
  | invalid foreign => exact invalid foreign

theorem before_fault (reads : Reads position text scan) (fault : scan.error = some error) :
    ∃ front back, text = front ++ back ∧ error.position = position + front.length ∧
      Reads position front ⟨scan.nodes, none, ⟨error.position, []⟩⟩ := by
  induction reads with
  | finish => contradiction
  | space next ih =>
      obtain ⟨front, back, rfl, place, read⟩ := ih fault
      exact ⟨' ' :: front, back, rfl, by simp only [place, List.length_cons]; omega, space read⟩
  | operator operator next ih =>
      obtain ⟨front, back, rfl, place, read⟩ := ih fault
      exact ⟨operator.symbol :: front, back, rfl,
        by simp only [place, List.length_cons]; omega, .operator operator read⟩
  | number numeral fits apart next ih =>
      obtain ⟨front, back, rfl, place, read⟩ := ih fault
      refine ⟨numeral.digits ++ front, back, (List.append_assoc ..).symm, ?_,
        number numeral fits apart.of_append read⟩
      rw [place, List.length_append, Numeral.length, Nat.add_assoc]
  | overflow numeral digits room beyond =>
      cases fault
      exact ⟨[], _, rfl, rfl, finish⟩
  | invalid foreign =>
      cases fault
      exact ⟨[], _, rfl, rfl, finish⟩

theorem append (first : Reads position front scan) (read : scan.error = none)
    (seam : NoDigitBehind front ∨ NoDigitAhead back)
    (second : Reads (position + front.length) back after) :
    Reads position (front ++ back) (after.behind scan.nodes) := by
  induction first with
  | finish => exact second
  | @space position rest scan next ih =>
      have seam := seam.imp_left NoDigitBehind.of_cons
      rw [List.length_cons, Nat.add_comm rest.length, ← Nat.add_assoc] at second
      exact space (ih read seam second)
  | @operator position rest scan operator next ih =>
      have seam := seam.imp_left NoDigitBehind.of_cons
      rw [List.length_cons, Nat.add_comm rest.length, ← Nat.add_assoc] at second
      exact .operator operator (ih read seam second)
  | @number position rest scan numeral fits apart next ih =>
      rw [List.length_append, ← Nat.add_assoc] at second
      have joined := ih read (seam.imp_left NoDigitBehind.of_append) second
      have apart : NoDigitAhead (rest ++ back) := by
        by_cases empty : rest = []
        · subst empty
          rw [List.append_nil] at seam
          exact seam.resolve_left numeral.not_noDigitBehind
        · exact apart.append empty back
      rw [List.append_assoc]
      exact number numeral fits apart joined
  | overflow => contradiction
  | invalid => contradiction

end Reads

end FlatSum
