import FlatSum.Proofs.Outcome
import FlatSum.Proofs.Seam

namespace FlatSum

/-! Faults of a text, each with its place: a character that belongs to no token and is no space, and a
maximal run of digits that does not fit. Reading reports the first fault there is, whatever tokens
stand before it, and evaluation reports it before any fault of the sum. -/

/-- A run of digits that no digit touches on either side, and the place where it begins. -/
def MaximalRun (text : List Char) (start : Nat) (run : Numeral) : Prop :=
  ∃ front back, text = front ++ (run.digits ++ back) ∧ front.length = start ∧
    NoDigitBehind front ∧ NoDigitAhead back

inductive TextFault (text : List Char) : ScanError → Prop where
  | foreign {char : Char} {index : Nat} (found : text[index]? = some char)
      (foreign : ¬ Admitted char) :
      TextFault text (.invalidCharacter char index)
  | tooLarge {start : Nat} {run : Numeral} (maximal : MaximalRun text start run)
      (beyond : ¬ run.Fits) :
      TextFault text (.numberOverflow start)

structure FirstTextFault (text : List Char) (error : ScanError) : Prop where
  fault : TextFault text error
  least : ∀ other, TextFault text other → error.position ≤ other.position

variable {text front rest : List Char} {start : Nat} {run : Numeral} {c : Char}
  {error : ScanError}

namespace MaximalRun

theorem digit_at {offset : Nat} (maximal : MaximalRun text start run)
    (inside : offset < run.length) : ∃ c, text[start + offset]? = some c ∧ c.isDigit = true := by
  obtain ⟨front, back, rfl, rfl, _, _⟩ := maximal
  refine ⟨run.digits[offset], ?_, run.decimal _ (List.getElem_mem inside)⟩
  rw [List.getElem?_append_right (Nat.le_add_right _ _), Nat.add_sub_cancel_left,
    List.getElem?_append_left inside, List.getElem?_eq_getElem inside]

theorem head (maximal : MaximalRun text start run) :
    ∃ c, text[start]? = some c ∧ c.isDigit = true :=
  maximal.digit_at run.length_pos

theorem not_digit_before (maximal : MaximalRun text (start + 1) run)
    (found : text[start]? = some c) : c.isDigit = false := by
  obtain ⟨front, back, rfl, size, behind, _⟩ := maximal
  apply behind c
  have inside : start < front.length := by omega
  rw [List.getLast?_eq_getElem?, size, ← found]
  exact (List.getElem?_append_left inside).symm

/-- A maximal run is all the digits from its first place on. -/
theorem digits_eq (maximal : MaximalRun text start run) :
    run.digits = (text.drop start).takeWhile Char.isDigit := by
  obtain ⟨front, back, rfl, rfl, _, ahead⟩ := maximal
  have ended : back.takeWhile Char.isDigit = [] := by
    cases back with
    | nil => rfl
    | cons c back => simp [ahead c rfl]
  rw [List.drop_left, List.takeWhile_append_of_pos run.decimal, ended, List.append_nil]

end MaximalRun

/-- The character at the place of a fault tells which one it is. -/
theorem TextFault.eq_of_found (fault : TextFault text error) :
    ∃ c, text[error.position]? = some c ∧ error =
      if c.isDigit then .numberOverflow error.position
      else .invalidCharacter c error.position := by
  cases fault with
  | @foreign char index found foreign =>
      have digit := (not_admitted_iff.mp foreign).1
      exact ⟨char, found, by simp [digit, ScanError.position]⟩
  | tooLarge maximal =>
      obtain ⟨c, found, digit⟩ := maximal.head
      exact ⟨c, found, by simp [digit, ScanError.position]⟩

theorem TextFault.lt_length (fault : TextFault text error) : error.position < text.length := by
  obtain ⟨c, found, _⟩ := fault.eq_of_found
  exact (List.getElem?_eq_some_iff.mp found).1

theorem FirstTextFault.unique {other : ScanError} (first : FirstTextFault text error)
    (second : FirstTextFault text other) : error = other := by
  have same : error.position = other.position :=
    Nat.le_antisymm (first.least other second.fault) (second.least error first.fault)
  obtain ⟨c, found, isError⟩ := first.fault.eq_of_found
  obtain ⟨d, found', isOther⟩ := second.fault.eq_of_found
  rw [← same, found] at found'
  cases found'
  rw [isError, isOther, same]

/-- At a character that may stand there and is no digit, there is no fault. -/
theorem TextFault.position_ne (fault : TextFault text error) (admitted : Admitted c)
    (digit : c.isDigit = false) (found : text[start]? = some c) : error.position ≠ start := by
  intro same
  cases fault with
  | foreign found' foreign =>
      rw [ScanError.position] at same
      rw [same, found] at found'
      cases found'
      exact foreign admitted
  | tooLarge maximal =>
      rw [ScanError.position] at same
      subst same
      obtain ⟨d, found', isDigit⟩ := maximal.head
      rw [found] at found'
      cases found'
      rw [digit] at isDigit
      contradiction

/-- Along a maximal run that fits, there is no fault. -/
theorem TextFault.outside_run (fault : TextFault text error) (maximal : MaximalRun text start run)
    (fits : run.Fits) (later : start ≤ error.position) : start + run.length ≤ error.position := by
  apply Nat.le_of_not_lt
  intro inside
  cases fault with
  | @foreign char index found foreign =>
      obtain ⟨offset, rfl⟩ := Nat.exists_eq_add_of_le later
      obtain ⟨c, found', digit⟩ := maximal.digit_at (Nat.lt_of_add_lt_add_left inside)
      rw [found] at found'
      cases found'
      exact foreign (.inl digit)
  | @tooLarge place other maximal' beyond =>
      obtain ⟨offset, same⟩ := Nat.exists_eq_add_of_le later
      rw [ScanError.position] at same inside
      subst same
      cases offset with
      | zero =>
          have digits : run.digits = other.digits :=
            maximal.digits_eq.trans maximal'.digits_eq.symm
          rw [Numeral.Fits, Numeral.value, ← digits] at beyond
          exact beyond fits
      | succ offset =>
          obtain ⟨c, found, digit⟩ := maximal.digit_at (Nat.lt_of_succ_lt (Nat.lt_of_add_lt_add_left inside))
          rw [maximal'.not_digit_before found] at digit
          contradiction

/-- What reading has made sure of when it has come to the end of a front part: no fault lies within it
and no run of digits crosses into the rest. -/
structure CleanBefore (front rest : List Char) : Prop where
  seam : NoDigitBehind front ∨ NoDigitAhead rest
  least : ∀ error, TextFault (front ++ rest) error → front.length ≤ error.position

namespace CleanBefore

theorem initial (text : List Char) : CleanBefore [] text where
  seam := .inl .nil
  least := fun error _ => Nat.zero_le error.position

theorem char (clean : CleanBefore front (c :: rest)) (admitted : Admitted c)
    (digit : c.isDigit = false) : CleanBefore (front ++ [c]) rest where
  seam := .inl (.concat front digit)
  least := by
    intro error fault
    rw [List.append_assoc] at fault
    have found : (front ++ c :: rest)[front.length]? = some c := by simp
    have later := clean.least error fault
    have different := fault.position_ne admitted digit found
    rw [List.length_append, List.length_singleton]
    omega

theorem maximal (clean : CleanBefore front (run.digits ++ rest)) (apart : NoDigitAhead rest) :
    MaximalRun (front ++ (run.digits ++ rest)) front.length run := by
  have behind : NoDigitBehind front := clean.seam.resolve_right (run.not_noDigitAhead rest)
  exact ⟨front, rest, rfl, rfl, behind, apart⟩

theorem numeral (clean : CleanBefore front (run.digits ++ rest)) (fits : run.Fits)
    (apart : NoDigitAhead rest) : CleanBefore (front ++ run.digits) rest where
  seam := .inr apart
  least := by
    intro error fault
    rw [List.append_assoc] at fault
    have later := clean.least error fault
    rw [List.length_append]
    exact fault.outside_run (clean.maximal apart) fits later

end CleanBefore

/-- Reading ends with the first fault of the text, or with none if there is none. -/
def EndsAtFirstFault (text : List Char) : Option ScanError → Prop
  | none => ∀ error, ¬ TextFault text error
  | some error => FirstTextFault text error

theorem Reads.endsAtFirstFault {position : Nat} {scan : Scan} (reads : Reads position rest scan)
    (place : front.length = position) (clean : CleanBefore front rest) :
    EndsAtFirstFault (front ++ rest) scan.error := by
  induction reads generalizing front with
  | finish =>
      intro error fault
      have later := clean.least error fault
      have inside := fault.lt_length
      rw [List.append_nil] at inside
      omega
  | @space position rest scan next ih =>
      have ended := ih (by simp [place]) (clean.char (by simp [Admitted]) rfl)
      rwa [List.append_assoc] at ended
  | @operator position rest scan operator next ih =>
      have ended := ih (by simp [place])
        (clean.char (admitted_symbol operator) (isDigit_symbol operator))
      rwa [List.append_assoc] at ended
  | @number position rest scan numeral fits apart next ih =>
      have ended := ih (by simp [place, Numeral.length]) (clean.numeral fits apart)
      rwa [List.append_assoc] at ended
  | @overflow position taken rest c numeral digits room beyond =>
      obtain ⟨more, back, rfl, decimal, apart⟩ := exists_digits rest
      have whole : numeral.digits ++ (more ++ back) = (numeral.extend more decimal).digits ++ back :=
        (List.append_assoc ..).symm
      rw [whole] at clean ⊢
      have large : ¬ (numeral.extend more decimal).Fits := by
        intro fits
        exact beyond (Nat.lt_of_le_of_lt (numeral.value_le_extend more decimal) fits)
      rw [← place]
      exact ⟨.tooLarge (clean.maximal apart) large, clean.least⟩
  | @invalid position rest c foreign =>
      rw [← place]
      exact ⟨.foreign (by simp) foreign, clean.least⟩

theorem endsAtFirstFault_ofText (text : List Char) :
    EndsAtFirstFault text (Scan.ofText text).error :=
  (Reads.of_ofText text).endsAtFirstFault rfl (.initial text)

theorem error_ofText_eq_some_iff :
    (Scan.ofText text).error = some error ↔ FirstTextFault text error := by
  have ended := endsAtFirstFault_ofText text
  refine ⟨?_, ?_⟩
  · intro found
    rwa [found] at ended
  · intro first
    cases found : (Scan.ofText text).error with
    | none =>
        rw [found] at ended
        exact absurd first.fault (ended error)
    | some other =>
        rw [found] at ended
        rw [first.unique ended]

theorem error_ofText_eq_none_iff :
    (Scan.ofText text).error = none ↔ ∀ error, ¬ TextFault text error := by
  have ended := endsAtFirstFault_ofText text
  refine ⟨?_, ?_⟩
  · intro found
    rwa [found] at ended
  · intro clean
    cases found : (Scan.ofText text).error with
    | none => rfl
    | some other =>
        rw [found] at ended
        exact absurd ended.fault (clean other)

theorem first_text_fault_reported (source : String) :
    ((∃ nodes, (Scan.ofText source.toList).result = .ok nodes) ↔
      ∀ error, ¬ TextFault source.toList error) ∧
    ∀ error,
      ((Scan.ofText source.toList).result = .error error ↔ FirstTextFault source.toList error) ∧
      (evaluate source = .error (.scan error) ↔ FirstTextFault source.toList error) ∧
      ((Evaluation.ofSource source).result = .error (.scan error) ↔
        FirstTextFault source.toList error) ∧
      (FirstTextFault source.toList error →
        ∃ nodes, (Scan.ofText (source.toList.take error.position)).result = .ok nodes) := by
  have reads := Reads.of_ofText source.toList
  refine ⟨?_, ?_⟩
  · rw [Scan.exists_result_eq_ok_iff, error_ofText_eq_none_iff]
  · intro error
    refine ⟨?_, ?_, ?_, ?_⟩
    · rw [Scan.result_eq_error_iff, error_ofText_eq_some_iff]
    · rw [evaluate_eq_scan_iff reads, error_ofText_eq_some_iff]
    · rw [Evaluation.result_ofSource, evaluate_eq_scan_iff reads, error_ofText_eq_some_iff]
    · intro first
      obtain ⟨front, back, split, place, read⟩ :=
        reads.before_fault (error_ofText_eq_some_iff.mpr first)
      rw [Nat.zero_add] at place
      rw [split, place, List.take_left, read.ofText_eq]
      exact ⟨_, rfl⟩

theorem reading_before_accent :
    FirstTextFault "1 1 é".toList (.invalidCharacter 'é' 4) ∧
      ∃ nodes, (Scan.ofText ("1 1 é".toList.take 4)).result = .ok nodes := by
  have reported : (Scan.ofText "1 1 é".toList).result = .error (.invalidCharacter 'é' 4) :=
    Scan.result_eq_error_iff.mpr (by decide +kernel)
  obtain ⟨found, _, _, before⟩ := (first_text_fault_reported "1 1 é").2 (.invalidCharacter 'é' 4)
  exact ⟨found.mp reported, before (found.mp reported)⟩

end FlatSum
