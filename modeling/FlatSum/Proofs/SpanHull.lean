import FlatSum.Span

namespace FlatSum

/-! Spans merged into one. However the merging is bracketed and in whatever order the spans come, what
comes out is the least span that has all of them within it, so there is only one it can be. -/

namespace Span

/-- The inner span does not reach beyond the outer one on either side. -/
def Within (inner outer : Span) : Prop := outer.start ≤ inner.start ∧ inner.stop ≤ outer.stop

/-- The least span that has every one of the spans within it. -/
structure IsHull (spans : List Span) (hull : Span) : Prop where
  holds : ∀ span ∈ spans, span.Within hull
  least : ∀ outer, (∀ span ∈ spans, span.Within outer) → hull.Within outer

variable {span other left right outer hull : Span} {spans : List Span}

theorem Within.refl (span : Span) : span.Within span := ⟨Nat.le_refl _, Nat.le_refl _⟩

theorem Within.antisymm (inside : span.Within other) (back : other.Within span) : span = other := by
  obtain ⟨start, stop⟩ := span
  obtain ⟨start', stop'⟩ := other
  rw [Span.mk.injEq]
  exact ⟨Nat.le_antisymm back.1 inside.1, Nat.le_antisymm inside.2 back.2⟩

/-- A span with an ordered one within it is ordered, whatever else it holds. -/
theorem Ordered.of_within (ordered : span.Ordered) (inside : span.Within outer) : outer.Ordered :=
  Nat.le_trans inside.1 (Nat.le_trans ordered inside.2)

theorem hull_within_iff :
    (left.hull right).Within outer ↔ left.Within outer ∧ right.Within outer := by
  unfold Within
  rw [start_hull, stop_hull, Nat.le_min, Nat.max_le]
  exact and_and_and_comm

theorem left_within_hull (left right : Span) : left.Within (left.hull right) :=
  (hull_within_iff.mp (.refl _)).1

theorem right_within_hull (left right : Span) : right.Within (left.hull right) :=
  (hull_within_iff.mp (.refl _)).2

theorem ordered_hull (ordered : span.Ordered) (other : Span) :
    (span.hull other).Ordered ∧ (other.hull span).Ordered :=
  ⟨ordered.of_within (left_within_hull span other),
    ordered.of_within (right_within_hull other span)⟩

theorem length_eq_of_ordered (ordered : span.Ordered) :
    span.length = .ok (span.stop - span.start) :=
  length_eq_ok_iff.mpr (Nat.sub_add_cancel ordered).symm

theorem isEmpty_iff_length : span.isEmpty = true ↔ span.length = .ok 0 := by
  rw [isEmpty_iff, length_eq_ok_iff, Nat.zero_add, eq_comm]

namespace IsHull

theorem of_within_iff
    (bounded : ∀ outer, hull.Within outer ↔ ∀ span ∈ spans, span.Within outer) :
    IsHull spans hull where
  holds := (bounded hull).mp (.refl hull)
  least := fun outer => (bounded outer).mpr

theorem unique (one : IsHull spans left) (another : IsHull spans right) : left = right :=
  (one.least right another.holds).antisymm (another.least left one.holds)

theorem of_perm {others : List Span} (isHull : IsHull spans hull) (same : spans.Perm others) :
    IsHull others hull where
  holds := fun span member => isHull.holds span (same.mem_iff.mpr member)
  least := fun outer bounds =>
    isHull.least outer fun span member => bounds span (same.mem_iff.mp member)

theorem ordered (isHull : IsHull spans hull) (member : span ∈ spans) (ordered : span.Ordered) :
    hull.Ordered :=
  ordered.of_within (isHull.holds span member)

end IsHull

theorem isHull_foldl (first : Span) (rest : List Span) :
    IsHull (first :: rest) (rest.foldl Span.hull first) := by
  apply IsHull.of_within_iff
  intro outer
  induction rest generalizing first with
  | nil => rw [List.foldl_nil, List.forall_mem_singleton]
  | cons next rest ih =>
      rw [List.foldl_cons, ih, List.forall_mem_cons, List.forall_mem_cons, List.forall_mem_cons,
        hull_within_iff, and_assoc]

end Span

/-- A way to merge spans by twos. -/
inductive Bracketing where
  | single (span : Span)
  | merge (left right : Bracketing)

namespace Bracketing

/-- The spans that are merged, from left to right. -/
def spans : Bracketing → List Span
  | single span => [span]
  | merge left right => left.spans ++ right.spans

def hull : Bracketing → Span
  | single span => span
  | merge left right => left.hull.hull right.hull

theorem isHull (bracketing : Bracketing) : Span.IsHull bracketing.spans bracketing.hull := by
  apply Span.IsHull.of_within_iff
  intro outer
  induction bracketing with
  | single span => rw [hull, spans, List.forall_mem_singleton]
  | merge left right leftIH rightIH =>
      rw [hull, spans, Span.hull_within_iff, leftIH, rightIH, List.forall_mem_append]

end Bracketing

namespace Span

/-- Ordered spans merge into one and the same span in any order and bracketing, the least that has all
of them within it. -/
theorem merged_in_any_order {first : Span} {rest : List Span}
    (ordered : ∀ span ∈ first :: rest, span.Ordered) :
    let hull := rest.foldl Span.hull first
    (∀ other more, (other :: more).Perm (first :: rest) → more.foldl Span.hull other = hull) ∧
      (∀ bracketing : Bracketing, bracketing.spans.Perm (first :: rest) →
        bracketing.hull = hull) ∧
      IsHull (first :: rest) hull ∧ hull.Ordered ∧ hull.length = .ok (hull.stop - hull.start) ∧
      (∀ span other : Span, span.Ordered →
        (span.hull other).Ordered ∧ (other.hull span).Ordered) ∧
      ∀ span : Span, span.isEmpty = true ↔ span.length = .ok 0 := by
  intro hull
  have isHull : IsHull (first :: rest) hull := isHull_foldl first rest
  have inOrder := isHull.ordered List.mem_cons_self (ordered first List.mem_cons_self)
  refine ⟨fun other more same => ?_, fun bracketing same => ?_, isHull, inOrder,
    length_eq_of_ordered inOrder, fun span other ordered => ordered_hull ordered other,
    fun span => isEmpty_iff_length⟩
  · exact ((isHull_foldl other more).of_perm same).unique isHull
  · exact (bracketing.isHull.of_perm same).unique isHull

theorem merged_three_spans :
    (∀ span ∈ [⟨7, 9⟩, ⟨2, 4⟩, ⟨3, 3⟩], Ordered span) ∧
      Bracketing.hull (.merge (.single ⟨3, 3⟩) (.merge (.single ⟨7, 9⟩) (.single ⟨2, 4⟩))) =
        ⟨2, 9⟩ ∧
      IsHull [⟨7, 9⟩, ⟨2, 4⟩, ⟨3, 3⟩] ⟨2, 9⟩ := by
  have ordered : ∀ span ∈ [⟨7, 9⟩, ⟨2, 4⟩, ⟨3, 3⟩], Ordered span := by decide
  obtain ⟨-, merged, isHull, -⟩ := merged_in_any_order ordered
  exact ⟨ordered, merged _ (by decide), isHull⟩

end Span

end FlatSum
