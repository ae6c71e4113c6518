import FlatSum.Proofs.Cover
import FlatSum.Proofs.TokenFault
import FlatSum.Report.SourceLine

namespace FlatSum

/-! The place that an evaluation names for its failure. It is the character, the numeral or the
token that the failure is about, and a failure without a place is that of a text without tokens. -/

/-- What each outcome and the place named for it say about the text and its tokens. -/
inductive Located (text : List Char) (nodes : List (Spanned Token)) :
    Except Failure Amount → Option Span → Prop where
  | value {value : Amount} : Located text nodes (.ok value) none
  | blank (blank : ∀ c ∈ text, c = ' ') (empty : nodes = []) :
      Located text nodes (.error (.sum .unexpectedEnd)) none
  | foreign {char : Char} {index : Nat} (found : text[index]? = some char)
      (foreign : ¬ Admitted char) :
      Located text nodes (.error (.scan (.invalidCharacter char index))) (some ⟨index, index + 1⟩)
  | tooLarge {start : Nat} {run : Numeral} (maximal : MaximalRun text start run)
      (beyond : ¬ run.Fits)
      (within :
        Span.holds ⟨start, start + run.length⟩ (Scan.ofText text).stop.position = true) :
      Located text nodes (.error (.scan (.numberOverflow start)))
        (some ⟨start, start + run.length⟩)
  | strayOperator {slot : Nat} {operator : Operator} {span : Span}
      (found : nodes[2 * slot]? = some ⟨.operator operator, span⟩)
      (alone : (Scan.ofText (span.slice text)).result =
        .ok [⟨.operator operator, ⟨0, span.stop - span.start⟩⟩])
      (behind : slot = 0 ∨ ∃ node, nodes[2 * slot - 1]? = some node ∧ node.value.isOperator = true) :
      Located text nodes (.error (.sum (.invalidToken (.operator operator) slot))) (some span)
  | strayNumber {slot : Nat} {value : Amount} {span : Span}
      (found : nodes[2 * slot + 1]? = some ⟨.number value, span⟩)
      (alone : (Scan.ofText (span.slice text)).result =
        .ok [⟨.number value, ⟨0, span.stop - span.start⟩⟩])
      (behind : ∃ node, nodes[2 * slot]? = some node ∧ node.value.isOperator = false) :
      Located text nodes (.error (.sum (.invalidToken (.number value) (slot + 1)))) (some span)
  | overflow {slot : Nat} {value : Amount} {span : Span}
      (found : nodes[2 * slot]? = some ⟨.number value, span⟩)
      (operands : ((nodes.take (2 * slot)).map Spanned.value).countP (!·.isOperator) = slot) :
      Located text nodes (.error (.sum (.overflow slot))) (some span)
  | ended {operator : Operator} {span : Span}
      (last : nodes.getLast? = some ⟨.operator operator, span⟩)
      (behind : ∀ c ∈ text.drop span.stop, c = ' ') :
      Located text nodes (.error (.sum .unexpectedEnd)) (some span)

variable {text : List Char} {nodes : List (Spanned Token)} {span : Span}
  {result : Except Failure Amount} {error : SumError} {token : Token} {place : Nat}

theorem exists_span (found : (nodes.map Spanned.value)[place]? = some token) :
    ∃ span, nodes[place]? = some ⟨token, span⟩ := by
  rw [List.getElem?_map] at found
  obtain ⟨node, present, rfl⟩ := Option.map_eq_some_iff.mp found
  exact ⟨node.span, present⟩

theorem exists_inTurn (inTurn : InTurn (nodes.map Spanned.value) place) {earlier : Nat}
    (before : earlier < place) (bound : earlier < nodes.length) :
    ∃ node, nodes[earlier]? = some node ∧ node.value.isOperator = decide (earlier % 2 = 1) := by
  have found := List.getElem?_eq_getElem bound
  refine ⟨_, found, inTurn earlier before _ ?_⟩
  rw [List.getElem?_map, found]
  rfl

/-- The token taken last is the one at fault. -/
theorem span?_of_fault (fault : TokenFault (nodes.map Spanned.value) place error) :
    error.span? nodes (place + 1) = nodes[place]?.map Spanned.span := by
  cases fault <;> rfl

theorem located_of_fault (tiles : Tiles text 0 nodes)
    (first : FirstTokenFault (nodes.map Spanned.value) place error) :
    Located text nodes (.error (.sum error)) (error.span? nodes (place + 1)) := by
  have inTurn := first.inTurn
  have bound := first.fault.lt_length
  rw [List.length_map] at bound
  rw [span?_of_fault first.fault]
  have alone : ∀ token span, nodes[place]? = some ⟨token, span⟩ →
      (Scan.ofText (span.slice text)).result = .ok [⟨token, ⟨0, span.stop - span.start⟩⟩] :=
    fun token span found => (tiles.covers _ (List.mem_of_getElem? found)).result_slice
  -- Numbers stand at even places and operators at odd ones up to the fault, so that half the
  -- place counts the operands before it.
  cases first.fault with
  | @strayOperator _ operator found even =>
      obtain ⟨slot, rfl⟩ : ∃ slot, place = 2 * slot := ⟨place / 2, by omega⟩
      obtain ⟨span, found⟩ := exists_span found
      rw [found, Nat.mul_div_cancel_left slot Nat.two_pos]
      refine .strayOperator found (alone _ _ found) ?_
      cases slot with
      | zero => exact .inl rfl
      | succ slot =>
          obtain ⟨node, before, turn⟩ := exists_inTurn inTurn (Nat.sub_one_lt (by omega)) (by omega)
          have odd : (2 * (slot + 1) - 1) % 2 = 1 := by omega
          exact .inr ⟨node, before, by simpa [odd] using turn⟩
  | @strayNumber _ value found odd =>
      obtain ⟨slot, rfl⟩ : ∃ slot, place = 2 * slot + 1 := ⟨place / 2, by omega⟩
      obtain ⟨span, found⟩ := exists_span found
      obtain ⟨node, before, turn⟩ := exists_inTurn inTurn (Nat.lt_succ_self _) (by omega)
      rw [found, show (2 * slot + 1 + 1) / 2 = slot + 1 by omega]
      exact .strayNumber found (alone _ _ found) ⟨node, before, by simpa using turn⟩
  | @overflow slot value found behind turns beyond =>
      obtain ⟨span, found⟩ := exists_span found
      have operands := inTurn.operands_before (by rw [List.length_map]; omega)
      rw [← List.map_take] at operands
      rw [found]
      exact .overflow found operands

theorem blank_of_no_nodes (tiles : Tiles text 0 []) : ∀ c ∈ text, c = ' ' := by
  intro c member
  obtain ⟨index, found⟩ := List.getElem?_of_mem member
  apply Decidable.byContradiction
  intro different
  obtain ⟨node, absent, _⟩ := (tiles.visible index c (Nat.zero_le index) found).mp different
  cases absent

/-- Tokens that run out early end with an operator, since numbers and operators take turns. -/
theorem located_of_ended (tiles : Tiles text 0 nodes)
    (clean : ∀ place error, ¬ TokenFault (nodes.map Spanned.value) place error)
    (even : nodes.length % 2 = 0) :
    Located text nodes (.error (.sum .unexpectedEnd)) (nodes.getLast?.map Spanned.span) := by
  cases last : nodes.getLast? with
  | none =>
      rw [List.getLast?_eq_none_iff] at last
      subst last
      exact .blank (blank_of_no_nodes tiles) rfl
  | some node =>
      obtain ⟨token, span⟩ := node
      have found : (nodes.map Spanned.value)[nodes.length - 1]? = some token := by
        rw [List.getElem?_map, ← List.getLast?_eq_getElem?, last]
        rfl
      obtain ⟨bound, _⟩ := List.getElem?_eq_some_iff.mp found
      cases token with
      | number value =>
          rw [List.length_map] at bound
          exact absurd (.strayNumber found (by omega)) (clean _ _)
      | operator operator =>
          refine .ended last ?_
          intro c member
          obtain ⟨index, found⟩ := List.getElem?_of_mem member
          rw [List.getElem?_drop] at found
          obtain ⟨inside, _⟩ := List.getElem?_eq_some_iff.mp found
          rw [tiles.blank_behind last (Nat.le_add_right span.stop index) inside] at found
          cases found
          rfl

theorem located_of_scan {fault : ScanError} (first : FirstTextFault text fault)
    (failed : (Scan.ofText text).error = some fault) :
    Located text nodes (.error (.scan fault)) (some (fault.span text)) := by
  cases first.fault with
  | foreign found foreign => exact .foreign found foreign
  | @tooLarge start run maximal beyond =>
      have length : run.length = ((text.drop start).takeWhile Char.isDigit).length := by
        rw [Numeral.length, maximal.digits_eq]
      obtain ⟨front, numeral, taken, c, back, whole, place, digits, _, _, stop⟩ :=
        (Reads.of_ofText text).stop_of_overflow failed
      -- The digit that no longer fits belongs to the run, and reading stays on it.
      have covered : taken.length < run.length := by
        rw [length, whole, place, Nat.zero_add, List.drop_left,
          List.takeWhile_append_of_pos numeral.decimal, digits]
        simp only [List.length_append, List.length_singleton]
        omega
      rw [ScanError.span, ← length]
      refine .tooLarge maximal beyond (Span.holds_iff.mpr ?_)
      rw [stop]
      exact ⟨Nat.le_add_right _ _, Nat.add_lt_add_left covered start⟩

theorem located_ofSource (source : String) :
    Located source.toList (Evaluation.ofSource source).nodes (Evaluation.ofSource source).result
        (Evaluation.ofSource source).errorSpan ∧
      ∀ node ∈ (Evaluation.ofSource source).nodes, Covers source.toList node := by
  unfold Evaluation.ofSource
  cases read : (Scan.ofText source.toList).result with
  | error fault =>
      have failed := Scan.result_eq_error_iff.mp read
      exact ⟨located_of_scan (error_ofText_eq_some_iff.mp failed) failed, nofun⟩
  | ok nodes =>
      have tiles := tiles_of_result read
      have settled := settled_ofTokens (nodes.map Spanned.value)
      simp only
      generalize (Sum.ofTokens (nodes.map Spanned.value)).result = result,
        (Sum.ofTokens (nodes.map Spanned.value)).stop.position = position at settled ⊢
      cases settled with
      | fault first => exact ⟨located_of_fault tiles first, tiles.covers⟩
      | ended clean even =>
          rw [List.length_map] at even
          exact ⟨located_of_ended tiles clean even, tiles.covers⟩
      | summed => exact ⟨.value, tiles.covers⟩

theorem not_admitted_of_terminator {c : Char} (ends : SourceLine.isTerminator c = true) :
    ¬ Admitted c := by
  simp only [SourceLine.isTerminator, List.mem_cons, List.not_mem_nil, or_false,
    decide_eq_true_eq] at ends
  rcases ends with rfl | rfl | rfl | rfl | rfl | rfl | rfl <;> simp [Admitted]

namespace Located

/-- The characters of a place that is named are no spaces, and belong to tokens unless the failure
is about one of them. -/
theorem marks (located : Located text nodes result (some span))
    (covers : ∀ node ∈ nodes, Covers text node) :
    span.start < span.stop ∧ ∀ index, span.holds index = true →
      ∃ c, text[index]? = some c ∧ c ≠ ' ' ∧
        (Admitted c ∨ result = .error (.scan (.invalidCharacter c index))) := by
  have on_node : ∀ node ∈ nodes, node.span.start < node.span.stop ∧
      ∀ index, node.span.holds index = true → ∃ c, text[index]? = some c ∧ c ≠ ' ' ∧
        (Admitted c ∨ result = .error (.scan (.invalidCharacter c index))) := by
    intro node member
    refine ⟨(covers node member).start_lt_stop, fun index inside => ?_⟩
    obtain ⟨c, found, admitted, visible⟩ := (covers node member).found inside
    exact ⟨c, found, visible, .inl admitted⟩
  cases located with
  | @foreign char place found foreign =>
      refine ⟨Nat.lt_succ_self place, fun index inside => ?_⟩
      obtain rfl : index = place := Span.holds_single_iff.mp inside
      refine ⟨char, found, ?_, .inr rfl⟩
      rintro rfl
      exact foreign (.inr (.inr (.inr rfl)))
  | @tooLarge start run maximal =>
      refine ⟨Nat.lt_add_of_pos_right run.length_pos, fun index inside => ?_⟩
      obtain ⟨c, found, digit⟩ := maximal.digit_inside inside
      exact ⟨c, found, isDigit_ne_space digit, .inl (.inl digit)⟩
  | strayOperator found => exact on_node _ (List.mem_of_getElem? found)
  | strayNumber found => exact on_node _ (List.mem_of_getElem? found)
  | overflow found => exact on_node _ (List.mem_of_getElem? found)
  | ended last => exact on_node _ (List.mem_of_getLast? last)

theorem errorSpan_eq_none_iff {named : Option Span} (located : Located text nodes result named)
    (covers : ∀ node ∈ nodes, Covers text node) :
    named = none ↔ (∃ value, result = .ok value) ∨ ∀ c ∈ text, c = ' ' := by
  cases named with
  | none =>
      refine ⟨fun _ => ?_, fun _ => rfl⟩
      cases located with
      | value => exact .inl ⟨_, rfl⟩
      | blank blank => exact .inr blank
  | some span =>
      obtain ⟨wide, marked⟩ := located.marks covers
      refine ⟨nofun, ?_⟩
      rintro (⟨value, rfl⟩ | blank)
      · cases located
      · obtain ⟨c, found, visible, _⟩ := marked span.start (Span.holds_start wide)
        exact absurd (blank c (List.mem_of_getElem? found)) visible

theorem stop_le_length (located : Located text nodes result (some span))
    (covers : ∀ node ∈ nodes, Covers text node) : span.stop ≤ text.length := by
  obtain ⟨wide, marked⟩ := located.marks covers
  apply Span.stop_le_length wide
  intro index inside
  obtain ⟨c, found, _⟩ := marked index inside
  exact ⟨c, found⟩

theorem start_of_scan {fault : ScanError}
    (located : Located text nodes (.error (.scan fault)) (some span)) :
    fault.position = span.start := by
  cases located <;> rfl

end Located

theorem Evaluation.nodes_ofSource {source : String}
    (read : (Scan.ofText source.toList).result = .ok nodes) :
    (ofSource source).nodes = nodes := by
  rw [nodes_eq, read]

/-- The place named for a failure is where the failure is. Only that of a foreign character may be
the end of a line. -/
theorem errorSpan_located (source : String) :
    (∀ nodes, (Scan.ofText source.toList).result = .ok nodes →
      (Evaluation.ofSource source).nodes = nodes) ∧
    Located source.toList (Evaluation.ofSource source).nodes (Evaluation.ofSource source).result
      (Evaluation.ofSource source).errorSpan ∧
    ((Evaluation.ofSource source).errorSpan = none ↔
      (∃ value, (Evaluation.ofSource source).result = .ok value) ∨
        ∀ c ∈ source.toList, c = ' ') ∧
    ∀ span, (Evaluation.ofSource source).errorSpan = some span →
      span.start < span.stop ∧ span.stop ≤ source.toList.length ∧
      (∀ fault, (Evaluation.ofSource source).result = .error (.scan fault) →
        fault.position = span.start) ∧
      ∀ index c, span.holds index = true → source.toList[index]? = some c →
        SourceLine.isTerminator c = true →
        (Evaluation.ofSource source).result = .error (.scan (.invalidCharacter c index)) := by
  obtain ⟨located, covers⟩ := located_ofSource source
  refine ⟨fun nodes read => Evaluation.nodes_ofSource read, located,
    located.errorSpan_eq_none_iff covers, ?_⟩
  intro span named
  rw [named] at located
  refine ⟨(located.marks covers).1, located.stop_le_length covers, ?_, ?_⟩
  · intro fault failed
    rw [failed] at located
    exact located.start_of_scan
  · intro index c inside found ends
    obtain ⟨d, found', _, reason⟩ := (located.marks covers).2 index inside
    rw [found] at found'
    cases found'
    exact reason.resolve_left (not_admitted_of_terminator ends)

theorem errorSpan_of_line_end :
    (Evaluation.ofSource "1 +\n").errorSpan = some ⟨3, 4⟩ ∧
      (Evaluation.ofSource "1 +\n").result = .error (.scan (.invalidCharacter '\n' 3)) := by
  have named : (Evaluation.ofSource "1 +\n").errorSpan = some ⟨3, 4⟩ := by
    decide +kernel
  obtain ⟨_, _, _, places⟩ := errorSpan_located "1 +\n"
  obtain ⟨_, _, _, breaks⟩ := places ⟨3, 4⟩ named
  exact ⟨named, breaks 3 '\n' (by decide) (by decide) (by decide)⟩

end FlatSum
