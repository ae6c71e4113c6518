import FlatSum.Proofs.TextFault

namespace FlatSum

/-! The characters that tokens cover. Where a text is read without a fault, each of its tokens
covers the symbol of an operator or a maximal run of digits, the tokens stand in order and apart,
and what they leave out are the spaces. -/

/-- The node stands where its token is written. -/
inductive Covers (text : List Char) : Spanned Token → Prop where
  | operator {index : Nat} {operator : Operator} (found : text[index]? = some operator.symbol) :
      Covers text ⟨.operator operator, ⟨index, index + 1⟩⟩
  | number {start : Nat} {run : Numeral} {value : Amount} (maximal : MaximalRun text start run)
      (fits : run.Fits) (exact : value.toInt = run.value) :
      Covers text ⟨.number value, ⟨start, start + run.length⟩⟩

/-- The nodes cover a text from a place on. -/
structure Tiles (text : List Char) (place : Nat) (nodes : List (Spanned Token)) : Prop where
  covers : ∀ node ∈ nodes, Covers text node
  later : ∀ node ∈ nodes, place ≤ node.span.start
  ordered : nodes.Pairwise fun left right => left.span.stop ≤ right.span.start
  visible : ∀ index c, place ≤ index → text[index]? = some c →
    (c ≠ ' ' ↔ ∃ node ∈ nodes, node.span.holds index = true)

variable {text front rest : List Char} {node left right : Spanned Token}
  {nodes : List (Spanned Token)} {place position index : Nat} {scan : Scan} {run : Numeral}
  {c : Char}

theorem isDigit_ne_space (digit : c.isDigit = true) : c ≠ ' ' := by
  rintro rfl
  contradiction

theorem symbol_ne_space (operator : Operator) : operator.symbol ≠ ' ' := by
  cases operator <;> decide

theorem MaximalRun.not_digit_after (maximal : MaximalRun text place run)
    (found : text[place + run.length]? = some c) : c.isDigit = false := by
  obtain ⟨front, back, rfl, rfl, _, ahead⟩ := maximal
  apply ahead c
  rwa [← List.append_assoc, Numeral.length, ← List.length_append, List.getElem?_append_right
    (Nat.le_refl _), Nat.sub_self, ← List.head?_eq_getElem?] at found

theorem MaximalRun.digit_inside (maximal : MaximalRun text place run)
    (inside : Span.holds ⟨place, place + run.length⟩ index = true) :
    ∃ c, text[index]? = some c ∧ c.isDigit = true := by
  obtain ⟨lower, upper⟩ := Span.holds_iff.mp inside
  obtain ⟨offset, rfl⟩ := Nat.exists_eq_add_of_le lower
  exact maximal.digit_at (Nat.lt_of_add_lt_add_left upper)

namespace Covers

theorem start_lt_stop (covers : Covers text node) : node.span.start < node.span.stop := by
  cases covers with
  | operator => exact Nat.lt_succ_self _
  | @number start run => exact Nat.lt_add_of_pos_right run.length_pos

theorem found (covers : Covers text node) (inside : node.span.holds index = true) :
    ∃ c, text[index]? = some c ∧ Admitted c ∧ c ≠ ' ' := by
  cases covers with
  | @operator place operator found =>
      obtain rfl : index = place := Span.holds_single_iff.mp inside
      exact ⟨_, found, admitted_symbol operator, symbol_ne_space operator⟩
  | number maximal =>
      obtain ⟨c, found, digit⟩ := maximal.digit_inside inside
      exact ⟨c, found, .inl digit, isDigit_ne_space digit⟩

theorem stop_le_length (covers : Covers text node) : node.span.stop ≤ text.length := by
  apply Span.stop_le_length covers.start_lt_stop
  intro index inside
  obtain ⟨c, found, _⟩ := covers.found inside
  exact ⟨c, found⟩

/-- What a token covers is read as that token alone. -/
theorem result_slice (covers : Covers text node) :
    (Scan.ofText (node.span.slice text)).result =
      .ok [⟨node.value, ⟨0, node.span.stop - node.span.start⟩⟩] := by
  cases covers with
  | @operator index operator found =>
      obtain ⟨inside, same⟩ := List.getElem?_eq_some_iff.mp found
      have single : Span.slice ⟨index, index + 1⟩ text = [operator.symbol] := by
        rw [Span.slice, List.extract, List.drop_eq_getElem_cons inside, same,
          Nat.add_sub_cancel_left, List.take_succ_cons, List.take_zero]
      have reads : Reads 0 [operator.symbol] _ := .operator operator .finish
      rw [single, reads.ofText_eq, Nat.add_sub_cancel_left]
      rfl
  | @number start run value maximal fits exact =>
      obtain ⟨front, back, rfl, rfl, _, _⟩ := maximal
      have reads : Reads 0 (run.digits ++ []) _ := .number run fits .nil .finish
      have same : run.amount = value := by
        apply Int64.toInt_inj.mp
        rw [Numeral.toInt_amount fits, exact]
      rw [List.append_nil, same] at reads
      rw [Numeral.length, Span.slice_append, reads.ofText_eq, Nat.add_sub_cancel_left,
        Numeral.length, Nat.zero_add]
      rfl

end Covers

namespace Tiles

theorem finish (ended : text.length ≤ place) : Tiles text place [] where
  covers := nofun
  later := nofun
  ordered := .nil
  visible := by
    intro index c later found
    obtain ⟨inside, _⟩ := List.getElem?_eq_some_iff.mp found
    omega

theorem space (blank : text[place]? = some ' ') (next : Tiles text (place + 1) nodes) :
    Tiles text place nodes where
  covers := next.covers
  later := fun node member => Nat.le_of_succ_le (next.later node member)
  ordered := next.ordered
  visible := by
    intro index c later found
    by_cases here : index = place
    · subst here
      rw [blank] at found
      cases found
      refine ⟨fun different => absurd rfl different, ?_⟩
      rintro ⟨node, member, inside⟩
      have beyond := next.later node member
      have lower := (Span.holds_iff.mp inside).1
      omega
    · exact next.visible index c (by omega) found

theorem cons (covers : Covers text node) (next : Tiles text node.span.stop nodes) :
    Tiles text node.span.start (node :: nodes) where
  covers := List.forall_mem_cons.mpr ⟨covers, next.covers⟩
  later := List.forall_mem_cons.mpr ⟨Nat.le_refl _, fun other member =>
    Nat.le_trans (Nat.le_of_lt covers.start_lt_stop) (next.later other member)⟩
  ordered := List.pairwise_cons.mpr ⟨next.later, next.ordered⟩
  visible := by
    intro index c later found
    by_cases before : index < node.span.stop
    · have inside : node.span.holds index = true := Span.holds_iff.mpr ⟨later, before⟩
      obtain ⟨d, found', _, different⟩ := covers.found inside
      rw [found] at found'
      cases found'
      exact ⟨fun _ => ⟨node, List.mem_cons_self, inside⟩, fun _ => different⟩
    · rw [next.visible index c (Nat.le_of_not_lt before) found]
      constructor
      · rintro ⟨other, member, inside⟩
        exact ⟨other, List.mem_cons_of_mem node member, inside⟩
      · rintro ⟨other, member, inside⟩
        rcases List.mem_cons.mp member with rfl | member
        · exact absurd (Span.holds_iff.mp inside).2 before
        · exact ⟨other, member, inside⟩

theorem blank (tiles : Tiles text place nodes) (later : place ≤ index)
    (bound : index < text.length) (outside : ∀ node ∈ nodes, node.span.holds index = false) :
    text[index]? = some ' ' := by
  have found := List.getElem?_eq_getElem bound
  rw [found]
  apply congrArg some
  apply Decidable.byContradiction
  intro different
  obtain ⟨node, member, inside⟩ := (tiles.visible index _ later found).mp different
  rw [outside node member] at inside
  contradiction

/-- Of all the nodes, none reaches in between two neighbours. -/
theorem neighbours_order (tiles : Tiles text place nodes) (neighbours : [left, right] <:+: nodes) :
    left ∈ nodes ∧ right ∈ nodes ∧ left.span.stop ≤ right.span.start ∧
      ∀ node ∈ nodes, node.span.stop ≤ left.span.stop ∨ right.span.start ≤ node.span.start := by
  obtain ⟨before, after, rfl⟩ := neighbours
  have first := (tiles.covers left (by simp)).start_lt_stop
  have second := (tiles.covers right (by simp)).start_lt_stop
  have ordered := tiles.ordered
  simp only [List.append_assoc, List.pairwise_append, List.cons_append, List.nil_append,
    List.pairwise_cons, List.mem_cons] at ordered
  obtain ⟨_, ⟨fromLeft, fromRight, _⟩, across⟩ := ordered
  refine ⟨by simp, by simp, fromLeft right (.inl rfl), ?_⟩
  intro node member
  simp only [List.append_assoc, List.mem_append, List.mem_cons, List.not_mem_nil,
    or_false] at member
  rcases member with early | (rfl | rfl) | late
  · have apart := across node early left (.inl rfl)
    exact .inl (by omega)
  · exact .inl (Nat.le_refl _)
  · exact .inr (Nat.le_refl _)
  · have apart := fromRight node late
    exact .inr (by omega)

theorem blank_between (tiles : Tiles text place nodes) (neighbours : [left, right] <:+: nodes)
    (lower : left.span.stop ≤ index) (upper : index < right.span.start) :
    text[index]? = some ' ' := by
  obtain ⟨leftMember, rightMember, _, others⟩ := tiles.neighbours_order neighbours
  have first := tiles.covers left leftMember
  have second := tiles.covers right rightMember
  have later := tiles.later left leftMember
  have wide := first.start_lt_stop
  have narrow := second.start_lt_stop
  have bound := second.stop_le_length
  apply tiles.blank (by omega) (by omega)
  intro node member
  rcases others node member with early | late
  · exact Span.not_holds_behind (Nat.le_trans early lower)
  · exact Span.not_holds_ahead (Nat.lt_of_lt_of_le upper late)

theorem blank_behind (tiles : Tiles text place nodes) (last : nodes.getLast? = some node)
    (lower : node.span.stop ≤ index) (bound : index < text.length) : text[index]? = some ' ' := by
  obtain ⟨before, rfl⟩ := List.getLast?_eq_some_iff.mp last
  have wide := (tiles.covers node (by simp)).start_lt_stop
  have early := tiles.later node (by simp)
  have across := (List.pairwise_append.mp tiles.ordered).2.2
  apply tiles.blank (by omega) bound
  intro other member
  rcases List.mem_append.mp member with earlier | same
  · have apart := across other earlier node (List.mem_singleton_self node)
    exact Span.not_holds_behind (by omega)
  · rw [List.mem_singleton.mp same]
    exact Span.not_holds_behind lower

/-- Two numbers side by side would be one run of digits. -/
theorem numbers_apart (tiles : Tiles text place nodes) (neighbours : [left, right] <:+: nodes)
    (number : left.value.isOperator = false) (another : right.value.isOperator = false) :
    left.span.stop < right.span.start := by
  obtain ⟨leftMember, rightMember, ordered, _⟩ := tiles.neighbours_order neighbours
  apply Nat.lt_of_le_of_ne ordered
  intro touching
  cases tiles.covers left leftMember with
  | operator => contradiction
  | number maximal =>
      cases tiles.covers right rightMember with
      | operator => contradiction
      | number maximal' =>
          obtain ⟨c, found, digit⟩ := maximal'.head
          simp only at touching
          rw [← touching] at found
          rw [maximal.not_digit_after found] at digit
          contradiction

theorem place_eq {i j : Nat} (tiles : Tiles text place nodes) (first : nodes[i]? = some left)
    (second : nodes[j]? = some right) (inLeft : left.span.holds index = true)
    (inRight : right.span.holds index = true) : i = j := by
  obtain ⟨bound, rfl⟩ := List.getElem?_eq_some_iff.mp first
  obtain ⟨bound', rfl⟩ := List.getElem?_eq_some_iff.mp second
  have ordered := List.pairwise_iff_getElem.mp tiles.ordered
  obtain ⟨lower, upper⟩ := Span.holds_iff.mp inLeft
  obtain ⟨lower', upper'⟩ := Span.holds_iff.mp inRight
  rcases Nat.lt_trichotomy i j with before | same | behind
  · have apart := ordered i j bound bound' before
    omega
  · exact same
  · have apart := ordered j i bound' bound behind
    omega

end Tiles

/-- Reading goes on behind a front part that it has covered, from which no numeral runs on. -/
theorem Reads.tiles (reads : Reads position rest scan) (read : scan.error = none)
    (size : front.length = position) (seam : NoDigitBehind front ∨ NoDigitAhead rest) :
    Tiles (front ++ rest) position scan.nodes := by
  induction reads generalizing front with
  | finish => exact .finish (by simp [size])
  | @space position rest scan next ih =>
      have longer : (front ++ [' ']).length = position + 1 := by simp [size]
      have tiles := ih read longer (.inl (.concat front rfl))
      rw [List.append_assoc] at tiles
      exact .space (by simp [← size]) tiles
  | @operator position rest scan operator next ih =>
      have longer : (front ++ [operator.symbol]).length = position + 1 := by simp [size]
      have tiles := ih read longer (.inl (.concat front (isDigit_symbol operator)))
      rw [List.append_assoc] at tiles
      exact .cons (.operator (by simp [← size])) tiles
  | @number position rest scan numeral fits apart next ih =>
      have longer : (front ++ numeral.digits).length = position + numeral.length := by
        simp [size, Numeral.length]
      have tiles := ih read longer (.inr apart)
      rw [List.append_assoc] at tiles
      -- The numeral begins with a digit, so it can only be the front that keeps the run apart.
      have behind := seam.resolve_right (numeral.not_noDigitAhead rest)
      exact .cons (.number ⟨front, rest, rfl, size, behind, apart⟩ fits (Numeral.toInt_amount fits))
        tiles
  | overflow => contradiction
  | invalid => contradiction

theorem tiles_of_result (read : (Scan.ofText text).result = .ok nodes) : Tiles text 0 nodes := by
  obtain ⟨sound, rfl⟩ := Scan.result_eq_ok_iff.mp read
  exact @Reads.tiles [] text 0 _ (Reads.of_ofText text) sound rfl (.inl .nil)

/-- No character is lost, none is read twice, and no token is longer or shorter than it is
written. -/
theorem tokens_tile_text {source : String} {nodes : List (Spanned Token)}
    (read : (Scan.ofText source.toList).result = .ok nodes) :
    (∀ node ∈ nodes, Covers source.toList node ∧ node.span.start < node.span.stop ∧
      node.span.stop ≤ source.toList.length) ∧
    (nodes.Pairwise fun left right => left.span.stop ≤ right.span.start) ∧
    (∀ index c, source.toList[index]? = some c →
      (c ≠ ' ' ↔ ∃ node ∈ nodes, node.span.holds index = true)) ∧
    (∀ (index i j : Nat) (left right : Spanned Token), nodes[i]? = some left →
      nodes[j]? = some right → left.span.holds index = true → right.span.holds index = true →
      i = j) ∧
    ∀ left right : Spanned Token, [left, right] <:+: nodes → left.value.isOperator = false →
      right.value.isOperator = false → left.span.stop < right.span.start ∧
        ∀ index, left.span.stop ≤ index → index < right.span.start →
          source.toList[index]? = some ' ' := by
  have tiles := tiles_of_result read
  refine ⟨?_, tiles.ordered, ?_, ?_, ?_⟩
  · intro node member
    have covers := tiles.covers node member
    exact ⟨covers, covers.start_lt_stop, covers.stop_le_length⟩
  · intro index c found
    exact tiles.visible index c (Nat.zero_le index) found
  · intro index i j left right first second inLeft inRight
    exact tiles.place_eq first second inLeft inRight
  · intro left right neighbours number another
    exact ⟨tiles.numbers_apart neighbours number another,
      fun index lower upper => tiles.blank_between neighbours lower upper⟩

theorem tiles_leading_zeros :
    (Scan.ofText "007 1+".toList).result =
      .ok [⟨.number 7, ⟨0, 3⟩⟩, ⟨.number 1, ⟨4, 5⟩⟩, ⟨.operator .plus, ⟨5, 6⟩⟩] ∧
    Covers "007 1+".toList ⟨.number 7, ⟨0, 3⟩⟩ ∧ "007 1+".toList[3]? = some ' ' := by
  have read : (Scan.ofText "007 1+".toList).result =
      .ok [⟨.number 7, ⟨0, 3⟩⟩, ⟨.number 1, ⟨4, 5⟩⟩, ⟨.operator .plus, ⟨5, 6⟩⟩] :=
    Scan.result_eq_ok_iff.mpr (by decide +kernel)
  obtain ⟨covers, _, _, _, numbers⟩ := tokens_tile_text read
  have gap := numbers ⟨.number 7, ⟨0, 3⟩⟩ ⟨.number 1, ⟨4, 5⟩⟩ ⟨[], [_], rfl⟩ rfl rfl
  exact ⟨read, (covers _ List.mem_cons_self).1, gap.2 3 (Nat.le_refl 3) (Nat.lt_succ_self 3)⟩

end FlatSum
