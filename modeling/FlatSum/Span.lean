import FlatSum.Misuse

namespace FlatSum

/-! Half-open ranges `[start, stop)` of character positions, and values with the range they were
read from. Positions count characters, never bytes. -/

structure Span where
  start : Nat
  stop : Nat
deriving DecidableEq, Repr, Inhabited

namespace Span

def Ordered (span : Span) : Prop := span.start ≤ span.stop

instance (span : Span) : Decidable span.Ordered :=
  inferInstanceAs (Decidable (span.start ≤ span.stop))

/-- Builds an ordered span and refuses reversed bounds. -/
def ofBounds (start stop : Nat) : Except Misuse Span :=
  if start ≤ stop then .ok ⟨start, stop⟩ else .error (.spanReversed start stop)

def hull (left right : Span) : Span :=
  ⟨min left.start right.start, max left.stop right.stop⟩

/-- The number of characters; a reversed span has none to give. -/
def length (span : Span) : Except Misuse Nat := checkedSub span.stop span.start

def isEmpty (span : Span) : Bool := span.start == span.stop

def holds (span : Span) (position : Nat) : Bool :=
  decide (span.start ≤ position) && decide (position < span.stop)

/-- The span that many characters further on. -/
def shift (span : Span) (offset : Nat) : Span := ⟨span.start + offset, span.stop + offset⟩

/-- The characters of a text that the span marks. -/
def slice (span : Span) (text : List Char) : List Char := text.extract span.start span.stop

theorem slice_append (front middle back : List Char) :
    slice ⟨front.length, front.length + middle.length⟩ (front ++ (middle ++ back)) = middle := by
  simp [slice]

theorem ofBounds_eq_ok_iff {start stop : Nat} {span : Span} :
    ofBounds start stop = .ok span ↔ start ≤ stop ∧ span = ⟨start, stop⟩ := by
  unfold ofBounds
  split <;> rename_i bound <;> simp [bound, eq_comm]

theorem length_eq_ok_iff {span : Span} {count : Nat} :
    span.length = .ok count ↔ span.stop = count + span.start :=
  checkedSub_eq_ok_iff

theorem isEmpty_iff {span : Span} : span.isEmpty = true ↔ span.start = span.stop := by
  simp [isEmpty]

theorem holds_iff {span : Span} {position : Nat} :
    span.holds position = true ↔ span.start ≤ position ∧ position < span.stop := by
  simp [holds]

theorem not_holds_ahead {span : Span} {position : Nat} (ahead : position < span.start) :
    span.holds position = false := by
  rw [← Bool.not_eq_true, holds_iff]
  omega

theorem not_holds_behind {span : Span} {position : Nat} (behind : span.stop ≤ position) :
    span.holds position = false := by
  rw [← Bool.not_eq_true, holds_iff]
  omega

theorem holds_single_iff {place position : Nat} :
    holds ⟨place, place + 1⟩ position = true ↔ position = place := by
  rw [holds_iff]
  constructor
  · rintro ⟨lower, upper⟩
    exact Nat.le_antisymm (Nat.le_of_lt_succ upper) lower
  · rintro rfl
    exact ⟨Nat.le_refl position, Nat.lt_succ_self position⟩

theorem holds_start {span : Span} (wide : span.start < span.stop) :
    span.holds span.start = true :=
  holds_iff.mpr ⟨Nat.le_refl span.start, wide⟩

/-- A span each of whose places is in a text does not reach beyond it. -/
theorem stop_le_length {span : Span} {text : List Char} (wide : span.start < span.stop)
    (found : ∀ position, span.holds position = true → ∃ c, text[position]? = some c) :
    span.stop ≤ text.length := by
  obtain ⟨c, last⟩ := found (span.stop - 1)
    (holds_iff.mpr ⟨Nat.le_sub_one_of_lt wide, Nat.sub_one_lt (Nat.ne_zero_of_lt wide)⟩)
  obtain ⟨inside, _⟩ := List.getElem?_eq_some_iff.mp last
  exact Nat.le_of_pred_lt inside

@[simp] theorem start_hull (left right : Span) :
    (left.hull right).start = min left.start right.start := rfl

@[simp] theorem stop_hull (left right : Span) :
    (left.hull right).stop = max left.stop right.stop := rfl

@[simp] theorem start_shift (span : Span) (offset : Nat) :
    (span.shift offset).start = span.start + offset := rfl

@[simp] theorem stop_shift (span : Span) (offset : Nat) :
    (span.shift offset).stop = span.stop + offset := rfl

end Span

structure Spanned (α : Type) where
  value : α
  span : Span
deriving DecidableEq, Repr

/-- The same value that many characters further on. -/
def Spanned.shift {α : Type} (node : Spanned α) (offset : Nat) : Spanned α :=
  { node with span := node.span.shift offset }

end FlatSum
