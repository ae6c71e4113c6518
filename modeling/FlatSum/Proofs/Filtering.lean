import FlatSum.Log.Event
import FlatSum.Text.Cut

namespace FlatSum

/-! The level that a filter keeps for a target. No stage's name begins another's, so that at most one
of the directives of some settings covers a target, and it decides. -/

namespace Filter

variable {filter : Filter} {directive : Directive} {directives : List Directive} {target : String}

theorem mem_of_longest? (found : longest? directives = some directive) :
    directive ∈ directives := by
  induction directives generalizing directive with
  | nil => contradiction
  | cons first rest ih =>
      simp only [longest?] at found
      split at found
      · rename_i other later
        split at found <;> cases found
        · exact List.mem_cons_of_mem first (ih later)
        · exact List.mem_cons_self
      · cases found
        exact List.mem_cons_self

theorem longest?_eq_none_iff : longest? directives = none ↔ directives = [] := by
  cases directives with
  | nil => simp [longest?]
  | cons first rest =>
      refine ⟨fun found => ?_, nofun⟩
      simp only [longest?] at found
      split at found
      · split at found <;> contradiction
      · contradiction

theorem threshold_eq_level (member : directive ∈ filter.directives)
    (covers : directive.covers target = true)
    (only : ∀ other ∈ filter.directives, other.covers target = true → other = directive) :
    filter.threshold target = directive.level := by
  unfold threshold
  split
  · rename_i other found
    obtain ⟨present, covering⟩ := List.mem_filter.mp (mem_of_longest? found)
    rw [only other present covering]
  · rename_i found
    have present : directive ∈ filter.directives.filter (·.covers target) :=
      List.mem_filter.mpr ⟨member, covers⟩
    rw [longest?_eq_none_iff.mp found] at present
    contradiction

theorem threshold_eq_fallback
    (uncovered : ∀ directive ∈ filter.directives, ¬ directive.covers target = true) :
    filter.threshold target = filter.fallback := by
  have left : filter.directives.filter (·.covers target) = [] :=
    List.filter_eq_nil_iff.mpr uncovered
  rw [threshold, left]
  rfl

/-- Where no two directives cover a target, the order in which they stand decides nothing. -/
theorem threshold_eq_of_perm (same : directives.Perm filter.directives)
    (alone : ∀ left ∈ filter.directives, ∀ right ∈ filter.directives,
      left.covers target = true → right.covers target = true → left = right) :
    threshold { filter with directives } target = filter.threshold target := by
  by_cases covered : ∃ directive ∈ filter.directives, directive.covers target = true
  · obtain ⟨directive, member, covers⟩ := covered
    have only : ∀ other ∈ filter.directives, other.covers target = true → other = directive :=
      fun other present covering => alone other present directive member covering covers
    rw [threshold_eq_level member covers only]
    apply threshold_eq_level (same.mem_iff.mpr member) covers
    exact fun other present => only other (same.mem_iff.mp present)
  · have uncovered : ∀ directive ∈ filter.directives, ¬ directive.covers target = true :=
      fun directive member covers => covered ⟨directive, member, covers⟩
    rw [threshold_eq_fallback uncovered]
    exact threshold_eq_fallback fun directive member =>
      uncovered directive (same.mem_iff.mp member)

end Filter

/-- The name of a stage begins no other's. -/
theorem Stage.eq_of_begins {left right : Stage}
    (start : left.target.toList <+: right.target.toList) : left = right := by
  rw [← List.isPrefixOf_iff_prefix] at start
  cases left <;> cases right <;> first | rfl | exact absurd start (by decide)

/-- What begins with the names of two stages begins with one name. -/
theorem Stage.eq_of_begins_both {left right : Stage} {target : String}
    (first : left.target.toList <+: target.toList)
    (second : right.target.toList <+: target.toList) : left = right :=
  eq_of_openings (fun _ _ => eq_of_begins) first second

namespace Settings

variable {settings : Settings} {stage : Stage} {target : String}

/-- At most one of the directives covers a target. -/
theorem eq_of_covers {left right : Directive} (one : left ∈ settings.filter.directives)
    (another : right ∈ settings.filter.directives) (covers : left.covers target = true)
    (covering : right.covers target = true) : left = right := by
  obtain ⟨stage, _, rfl⟩ := List.mem_map.mp one
  obtain ⟨other, _, rfl⟩ := List.mem_map.mp another
  rw [Stage.eq_of_begins_both (Directive.covers_iff.mp covers) (Directive.covers_iff.mp covering)]

theorem threshold_of_begins (start : stage.target.toList <+: target.toList) :
    settings.filter.threshold target = settings.levelOf stage := by
  let directive : Directive := ⟨stage.target, settings.levelOf stage⟩
  have member : directive ∈ settings.filter.directives :=
    List.mem_map.mpr ⟨stage, stage.mem_all, rfl⟩
  have covers : directive.covers target = true := Directive.covers_iff.mpr start
  exact Filter.threshold_eq_level member covers fun other present covering =>
    eq_of_covers present member covering covers

theorem threshold_of_unnamed (unnamed : ∀ stage : Stage, ¬ stage.target.toList <+: target.toList) :
    settings.filter.threshold target = settings.level := by
  apply Filter.threshold_eq_fallback
  intro directive member covers
  obtain ⟨stage, _, rfl⟩ := List.mem_map.mp member
  exact unnamed stage (Directive.covers_iff.mp covers)

theorem levelFor_target (settings : Settings) (stage : Stage) :
    settings.levelFor stage.target = settings.levelOf stage := by
  have named : Stage.ofTarget? stage.target = some stage := Stage.ofTarget?_eq_some_iff.mpr rfl
  rw [levelFor, named]

/-- Settings keep of a stage what is at most as talkative as the level they give it. -/
theorem keeps_eq (settings : Settings) (stage : Stage) (level : Level) :
    settings.keeps stage level = decide (level ≤ settings.levelFor stage.target) := by
  rw [keeps, Filter.enables, threshold_of_begins (List.prefix_refl _), levelFor_target]

end Settings

end FlatSum
