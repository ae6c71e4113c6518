import Mathlib.Algebra.Ring.Nat
import FlatSum.Proofs.CursorCalls
import FlatSum.Proofs.Outcome
import FlatSum.Proofs.Seam

namespace FlatSum

/-! Reading on from where a cursor stands. What is read there is what a text that begins there would
give, with every place moved; and where a reading has ended, the next one begins. A numeral that is too
large is the only thing that lets a later reading get further, and it always does. -/

/-- The place at which a run of digits from `start` on first denotes too large a number. -/
structure OutgrownAt (text : List Char) (start place : Nat) : Prop where
  digits : ∀ index, start ≤ index → index ≤ place → ∃ c, text[index]? = some c ∧ c.isDigit = true
  room : ∀ earlier, start ≤ earlier → earlier < place →
    Decimal.value (Span.slice ⟨start, earlier + 1⟩ text) ≤ 9223372036854775807
  beyond : 9223372036854775807 < Decimal.value (Span.slice ⟨start, place + 1⟩ text)

/-- Reading ends on its own, or at a character that no further reading gets past. -/
def Scan.Final (scan : Scan) : Prop :=
  (∃ nodes, scan.result = .ok nodes) ∨ ∃ c index, scan.result = .error (.invalidCharacter c index)

/-- Reading begins with a numeral at the place, whether it fits or not. -/
def Scan.BeginsWithNumeral (scan : Scan) (place : Nat) : Prop :=
  scan.result = .error (.numberOverflow place) ∨
    ∃ value stop more, scan.nodes = ⟨.number value, ⟨place, stop⟩⟩ :: more

theorem ofDigitChars_lt_pow {digits : List Char} (decimal : ∀ c ∈ digits, c.isDigit = true)
    (sofar : Nat) : Nat.ofDigitChars 10 digits sofar < (sofar + 1) * 10 ^ digits.length := by
  induction digits generalizing sofar with
  | nil => simp
  | cons c rest ih =>
      obtain ⟨first, decimal⟩ := List.forall_mem_cons.mp decimal
      have digit : 48 ≤ c.toNat ∧ c.toNat ≤ 57 := Char.isDigit_iff_toNat.mp first
      calc Nat.ofDigitChars 10 (c :: rest) sofar
          = Nat.ofDigitChars 10 rest (10 * sofar + (c.toNat - 48)) := ofDigitChars_cons c rest sofar
        _ < (10 * sofar + (c.toNat - 48) + 1) * 10 ^ rest.length := ih decimal _
        _ ≤ ((sofar + 1) * 10) * 10 ^ rest.length := Nat.mul_le_mul_right _ (by omega)
        _ = (sofar + 1) * 10 ^ (c :: rest).length := by
            rw [Nat.mul_assoc, List.length_cons, Nat.pow_succ, Nat.mul_comm 10]

/-- A number too large has nineteen digits or more. -/
theorem nineteen_le_length {digits : List Char} (decimal : ∀ c ∈ digits, c.isDigit = true)
    (beyond : 9223372036854775807 < Decimal.value digits) : 19 ≤ digits.length := by
  apply Nat.le_of_not_lt
  intro short
  have small := ofDigitChars_lt_pow decimal 0
  have bound : 10 ^ digits.length ≤ 10 ^ 18 :=
    Nat.pow_le_pow_right (by decide) (Nat.le_of_lt_succ short)
  unfold Decimal.value at beyond
  omega

theorem value_le_value_append (front back : List Char) :
    Decimal.value front ≤ Decimal.value (front ++ back) := by
  rw [Decimal.value_append]
  exact le_ofDigitChars back _

theorem OutgrownAt.of_split {taken : List Char} {c : Char} (front back : List Char)
    (decimal : ∀ d ∈ taken ++ [c], d.isDigit = true)
    (room : Decimal.value taken ≤ 9223372036854775807)
    (beyond : 9223372036854775807 < Decimal.value (taken ++ [c])) :
    OutgrownAt (front ++ (taken ++ c :: back)) front.length (front.length + taken.length) where
  digits := by
    intro index lower upper
    have inside : index - front.length < (taken ++ [c]).length := by
      rw [List.length_append, List.length_singleton]
      omega
    refine ⟨(taken ++ [c])[index - front.length], ?_, decimal _ (List.getElem_mem inside)⟩
    rw [List.append_cons, List.getElem?_append_right lower, List.getElem?_append_left inside,
      List.getElem?_eq_getElem inside]
  room := by
    intro earlier lower upper
    -- The digits up to there are the front of those that have room together.
    have cut : (taken.take (earlier + 1 - front.length)).length = earlier + 1 - front.length := by
      rw [List.length_take]
      omega
    have place : earlier + 1 = front.length + (taken.take (earlier + 1 - front.length)).length := by
      rw [cut]
      omega
    have marked := Span.slice_append front (taken.take (earlier + 1 - front.length))
      (taken.drop (earlier + 1 - front.length) ++ c :: back)
    rw [← List.append_assoc (taken.take _), List.take_append_drop, ← place] at marked
    have grown := value_le_value_append (taken.take (earlier + 1 - front.length))
      (taken.drop (earlier + 1 - front.length))
    rw [List.take_append_drop] at grown
    rw [marked]
    exact Nat.le_trans grown room
  beyond := by
    have marked := Span.slice_append front (taken ++ [c]) back
    rw [List.length_append, List.length_singleton, List.append_assoc, List.singleton_append]
      at marked
    rwa [Nat.add_assoc, marked]

namespace Reads

variable {position start : Nat} {text : List Char} {scan : Scan} {c : Char}

theorem stop_of_finished (reads : Reads position text scan) (read : scan.error = none) :
    scan.stop.rest = [] := by
  induction reads with
  | finish => rfl
  | space next ih => exact ih read
  | operator operator next ih => exact ih read
  | number numeral fits apart next ih => exact ih read
  | overflow => contradiction
  | invalid => contradiction

theorem stop_of_invalid {index : Nat} (reads : Reads position text scan)
    (fault : scan.error = some (.invalidCharacter c index)) :
    ∃ rest, scan.stop = ⟨index, c :: rest⟩ ∧ ¬ Admitted c := by
  induction reads with
  | finish => contradiction
  | space next ih => exact ih fault
  | operator operator next ih => exact ih fault
  | number numeral fits apart next ih => exact ih fault
  | overflow => cases fault
  | invalid foreign =>
      cases fault
      exact ⟨_, rfl, foreign⟩

/-- A text that begins with a digit is read with a numeral first. -/
theorem beginsWithNumeral {rest : List Char} (digit : c.isDigit = true)
    (reads : Reads position (c :: rest) scan) : scan.BeginsWithNumeral position := by
  generalize whole : c :: rest = text at reads
  cases reads with
  | finish => contradiction
  | space next =>
      cases whole
      contradiction
  | operator operator next =>
      cases whole
      rw [isDigit_symbol] at digit
      contradiction
  | number numeral fits apart next => exact .inr ⟨_, _, _, rfl⟩
  | overflow => exact .inl rfl
  | invalid foreign =>
      cases whole
      exact absurd (.inl digit) foreign

end Reads

theorem Scan.result_shift (scan : Scan) (offset : Nat) :
    (scan.shift offset).result =
      (scan.result.map (List.map (·.shift offset))).mapError (·.shift offset) := by
  unfold result shift
  cases scan.error <;> rfl

namespace Cursor

variable {text : List Char} {cursor : Cursor} {start index : Nat} {c : Char}

theorem reads_tokenize (cursor : Cursor) : Reads cursor.position cursor.rest cursor.tokenize :=
  Reads.iff_tokenize.mpr rfl

/-- Reading on from a place is reading the text that begins there. -/
theorem tokenize_eq_shift (on : cursor.On text) :
    cursor.tokenize = (Scan.ofText (text.drop cursor.position)).shift cursor.position := by
  have fresh := (Reads.of_ofText (text.drop cursor.position)).shift cursor.position
  rw [Nat.zero_add, ← on.ahead] at fresh
  rw [← on.ahead]
  exact fresh.tokenize_eq

theorem stop_of_ok (on : cursor.On text) {nodes : List (Spanned Token)}
    (valued : cursor.tokenize.result = .ok nodes) : cursor.tokenize.stop = ⟨text.length, []⟩ := by
  obtain ⟨read, _⟩ := Scan.result_eq_ok_iff.mp valued
  have nothing := cursor.reads_tokenize.stop_of_finished read
  have reached := (on_tokenize on).length_rest
  rw [nothing, List.length_nil, Nat.add_zero] at reached
  rw [← reached, ← nothing]

theorem stop_of_invalid (on : cursor.On text)
    (failed : cursor.tokenize.result = .error (.invalidCharacter c index)) :
    cursor.tokenize.stop = ⟨index, text.drop index⟩ ∧ cursor.tokenize.stop.tokenize =
      ⟨[], some (.invalidCharacter c index), cursor.tokenize.stop⟩ := by
  have fault := Scan.result_eq_error_iff.mp failed
  obtain ⟨rest, stop, foreign⟩ := cursor.reads_tokenize.stop_of_invalid fault
  have ahead := (on_tokenize on).ahead
  rw [stop] at ahead ⊢
  exact ⟨congrArg (Cursor.mk index) ahead, (Reads.invalid foreign).tokenize_eq⟩

/-- A numeral that is too large is left inside, on the digit that makes it so. -/
theorem stop_of_overflow (on : cursor.On text)
    (failed : cursor.tokenize.result = .error (.numberOverflow start)) :
    ∃ place, cursor.tokenize.stop = ⟨place, text.drop place⟩ ∧ cursor.position ≤ start ∧
      start + 18 ≤ place ∧ OutgrownAt text start place ∧
      cursor.tokenize.stop.tokenize.BeginsWithNumeral place := by
  have fault := Scan.result_eq_error_iff.mp failed
  obtain ⟨front, numeral, taken, c, back, split, begun, digits, room, beyond, stop⟩ :=
    cursor.reads_tokenize.stop_of_overflow fault
  have decimal := numeral.decimal
  have value : Decimal.value (taken ++ [c]) = numeral.value := by rw [Numeral.value, digits]
  have large : 9223372036854775807 < Decimal.value (taken ++ [c]) :=
    value ▸ Nat.not_lt.mp beyond
  rw [digits] at decimal split
  have size := nineteen_le_length decimal large
  rw [List.length_append, List.length_singleton] at size
  have whole : text = text.take cursor.position ++ front ++ (taken ++ c :: back) := by
    rw [List.append_cons taken, List.append_assoc _ front, ← split, on.ahead,
      List.take_append_drop]
  have ahead : (text.take cursor.position ++ front).length = start := by
    rw [List.length_append, List.length_take, Nat.min_eq_left on.within, begun]
  have outgrown := OutgrownAt.of_split (text.take cursor.position ++ front) back decimal
    (Nat.le_of_lt_succ room) large
  rw [← whole, ahead] at outgrown
  have reached := (on_tokenize on).ahead
  rw [stop] at reached ⊢
  refine ⟨start + taken.length, congrArg (Cursor.mk _) reached, ?_, by omega, outgrown, ?_⟩
  · rw [begun]
    exact Nat.le_add_right _ _
  · have digit := decimal c (List.mem_append_right taken (List.mem_singleton_self c))
    exact (reads_tokenize ⟨_, c :: back⟩).beginsWithNumeral digit

/-- Each reading that is stopped by a numeral too large gets further, so one that is not comes. -/
theorem exists_final (on : cursor.On text) :
    ∃ earlier, earlier + cursor.position ≤ text.length ∧
      (cursor.afterAll (List.replicate earlier .tokenize)).tokenize.Final := by
  induction left : text.length - cursor.position using Nat.strongRecOn generalizing cursor with
  | ind left ih =>
      cases outcome : cursor.tokenize.result with
      | ok nodes => exact ⟨0, by rw [Nat.zero_add]; exact on.within, .inl ⟨nodes, outcome⟩⟩
      | error error =>
          cases error with
          | invalidCharacter c index =>
              exact ⟨0, by rw [Nat.zero_add]; exact on.within, .inr ⟨c, index, outcome⟩⟩
          | numberOverflow start =>
              obtain ⟨place, stop, begun, further, _⟩ := stop_of_overflow on outcome
              have next := on_tokenize on
              have within := next.within
              have reached : cursor.tokenize.stop.position = place := congrArg Cursor.position stop
              obtain ⟨earlier, bound, final⟩ := ih _ (by omega) next rfl
              exact ⟨earlier + 1, by omega, final⟩

/-- Reading from a cursor is reading the text behind it, and may be taken up where it ended. -/
theorem tokenize_resumed (text : List Char) :
    (Cursor.start text).On text ∧
    ∀ cursor : Cursor, cursor.On text →
      (∀ calls, (cursor.afterAll calls).On text) ∧
      cursor.tokenize.result =
        ((Scan.ofText (text.drop cursor.position)).result.map
          (List.map (·.shift cursor.position))).mapError (·.shift cursor.position) ∧
      (∀ nodes, cursor.tokenize.result = .ok nodes →
        cursor.tokenize.stop.position = text.length ∧
        cursor.tokenize.stop.tokenize.result = .ok []) ∧
      (∀ c index, cursor.tokenize.result = .error (.invalidCharacter c index) →
        cursor.tokenize.stop.position = index ∧
        cursor.tokenize.stop.tokenize.result = .error (.invalidCharacter c index) ∧
        cursor.tokenize.stop.tokenize.stop = cursor.tokenize.stop) ∧
      (∀ start, cursor.tokenize.result = .error (.numberOverflow start) →
        OutgrownAt text start cursor.tokenize.stop.position ∧
        start + 18 ≤ cursor.tokenize.stop.position ∧
        cursor.tokenize.stop.tokenize.BeginsWithNumeral cursor.tokenize.stop.position) ∧
      ∃ earlier ≤ text.length,
        (cursor.afterAll (List.replicate earlier .tokenize)).tokenize.Final := by
  refine ⟨on_start text, fun cursor on => ⟨on_afterAll on, ?_, ?_, ?_, ?_, ?_⟩⟩
  · rw [tokenize_eq_shift on, Scan.result_shift]
  · intro nodes valued
    rw [stop_of_ok on valued, tokenize_nil]
    exact ⟨rfl, rfl⟩
  · intro c index failed
    obtain ⟨stop, again⟩ := stop_of_invalid on failed
    rw [again]
    exact ⟨congrArg Cursor.position stop, rfl, rfl⟩
  · intro start failed
    obtain ⟨place, stop, _, further, outgrown, numeral⟩ := stop_of_overflow on failed
    rw [congrArg Cursor.position stop]
    exact ⟨outgrown, further, numeral⟩
  · obtain ⟨earlier, bound, final⟩ := exists_final on
    exact ⟨earlier, Nat.le_trans (Nat.le_add_right _ _) bound, final⟩

theorem tokenize_resumed_in_three_places :
    ∃ text, text = "7 99999999999999999999é".toList ∧
      On text ⟨1, text.drop 1⟩ ∧
      (tokenize ⟨1, text.drop 1⟩).result = .error (.numberOverflow 2) ∧
      OutgrownAt text 2 (tokenize ⟨1, text.drop 1⟩).stop.position ∧
      On text ⟨20, text.drop 20⟩ ∧
      (tokenize ⟨20, text.drop 20⟩).result = .error (.invalidCharacter 'é' 22) ∧
      (tokenize ⟨20, text.drop 20⟩).stop.position = 22 ∧
      On text ⟨23, text.drop 23⟩ ∧
      (tokenize ⟨23, text.drop 23⟩).result = .ok [] ∧
      (tokenize ⟨23, text.drop 23⟩).stop.position = 23 := by
  refine ⟨_, rfl, ?_⟩
  obtain ⟨_, resumed⟩ := tokenize_resumed "7 99999999999999999999é".toList
  have inside : On "7 99999999999999999999é".toList ⟨1, _⟩ := ⟨by decide, rfl⟩
  have behind : On "7 99999999999999999999é".toList ⟨20, _⟩ := ⟨by decide, rfl⟩
  have ended : On "7 99999999999999999999é".toList ⟨23, _⟩ := ⟨by decide, rfl⟩
  have overflow := Scan.result_eq_error_iff.mpr
    (by decide +kernel : (tokenize ⟨1, "7 99999999999999999999é".toList.drop 1⟩).error =
      some (.numberOverflow 2))
  have foreign := Scan.result_eq_error_iff.mpr
    (by decide +kernel : (tokenize ⟨20, "7 99999999999999999999é".toList.drop 20⟩).error =
      some (.invalidCharacter 'é' 22))
  have nothing : (tokenize ⟨23, "7 99999999999999999999é".toList.drop 23⟩).result = .ok [] :=
    Scan.result_eq_ok_iff.mpr (by decide +kernel)
  obtain ⟨_, _, _, _, refused, _⟩ := resumed _ inside
  obtain ⟨_, _, _, stopped, _⟩ := resumed _ behind
  obtain ⟨_, _, finished, _⟩ := resumed _ ended
  exact ⟨inside, overflow, (refused 2 overflow).1, behind, foreign, (stopped 'é' 22 foreign).1,
    ended, nothing, (finished [] nothing).1⟩

end Cursor

end FlatSum
