import FlatSum.Proofs.Filtering

namespace FlatSum

/-! Two ways to look up the level for a target: by the exact name of a stage, or by the filter, whose
directives speak for whatever begins with such a name. They differ on the targets below a stage's
name and nowhere else. -/

/-- The target is the name of the stage with something behind it. -/
def Stage.ExtendedBy (stage : Stage) (target : String) : Prop :=
  ∃ suffix, suffix ≠ "" ∧ target = stage.target ++ suffix

namespace Stage

variable {stage other : Stage} {target : String}

theorem begins_of_extendedBy (extended : stage.ExtendedBy target) :
    stage.target.toList <+: target.toList := by
  obtain ⟨suffix, _, rfl⟩ := extended
  rw [String.toList_append]
  exact List.prefix_append _ _

theorem begins_iff :
    stage.target.toList <+: target.toList ↔ stage.target = target ∨ stage.ExtendedBy target := by
  constructor
  · rintro ⟨suffix, split⟩
    by_cases nothing : suffix = []
    · rw [nothing, List.append_nil] at split
      exact .inl (String.toList_inj.mp split)
    · refine .inr ⟨String.ofList suffix, ?_, String.toList_inj.mp ?_⟩
      · intro empty
        exact nothing (by simpa using congrArg String.toList empty)
      · rw [String.toList_append, String.toList_ofList, split]
  · rintro (rfl | extended)
    · exact List.prefix_refl _
    · exact begins_of_extendedBy extended

/-- No stage's name is another's with something behind it. -/
theorem not_extendedBy_target : ¬ stage.ExtendedBy other.target := by
  intro extended
  obtain rfl := eq_of_begins (begins_of_extendedBy extended)
  obtain ⟨suffix, more, same⟩ := extended
  exact more (String.append_right_inj _ |>.mp (same.symm.trans String.append_empty.symm))

end Stage

namespace Settings

variable {stage : Stage} {target : String}

theorem levelFor_of_unnamed (settings : Settings) (unnamed : ∀ stage : Stage, stage.target ≠ target) :
    settings.levelFor target = settings.level := by
  have unknown : Stage.ofTarget? target = none := by
    rw [Option.eq_none_iff_forall_ne_some]
    exact fun stage found => unnamed stage (Stage.ofTarget?_eq_some_iff.mp found)
  rw [levelFor, unknown]

theorem threshold_eq_levelFor (settings : Settings)
    (proper : ∀ stage : Stage, ¬ stage.ExtendedBy target) :
    settings.filter.threshold target = settings.levelFor target := by
  by_cases named : ∃ stage : Stage, stage.target = target
  · obtain ⟨stage, rfl⟩ := named
    rw [levelFor_target, threshold_of_begins (List.prefix_refl _)]
  · have unnamed := not_exists.mp named
    rw [levelFor_of_unnamed settings unnamed]
    apply threshold_of_unnamed
    intro stage start
    rcases Stage.begins_iff.mp start with same | extended
    · exact unnamed stage same
    · exact proper stage extended

theorem levelFor_of_extended (settings : Settings) (extended : stage.ExtendedBy target) :
    settings.levelFor target = settings.level := by
  apply levelFor_of_unnamed
  rintro other rfl
  exact Stage.not_extendedBy_target extended

/-- The filter keeps for a target what its level asks for, and below the name of a stage what the
level of that stage asks for. No more than one directive speaks for a target, so that they may stand
in any order. -/
theorem filter_against_levelFor (settings : Settings) (target : String) (level : Level) :
    ((∀ stage : Stage, ¬ stage.ExtendedBy target) →
      (settings.filter.enables target level = true ↔ level ≤ settings.levelFor target)) ∧
    (∀ stage : Stage, stage.ExtendedBy target →
      (settings.filter.enables target level = true ↔ level ≤ settings.levelFor stage.target) ∧
        settings.levelFor target = settings.level) ∧
    (∀ left ∈ settings.filter.directives, ∀ right ∈ settings.filter.directives,
      left.covers target = true → right.covers target = true → left = right) ∧
    ∀ directives, directives.Perm settings.filter.directives →
      Filter.enables { settings.filter with directives } target level =
        settings.filter.enables target level := by
  have alone : ∀ left ∈ settings.filter.directives, ∀ right ∈ settings.filter.directives,
      left.covers target = true → right.covers target = true → left = right :=
    fun left one right another => eq_of_covers one another
  refine ⟨fun proper => ?_, fun stage extended => ⟨?_, ?_⟩, alone, fun directives same => ?_⟩
  · rw [Filter.enables, decide_eq_true_iff, threshold_eq_levelFor settings proper]
  · rw [Filter.enables, decide_eq_true_iff,
      threshold_of_begins (Stage.begins_of_extendedBy extended), levelFor_target]
  · exact levelFor_of_extended settings extended
  · rw [Filter.enables, Filter.enables, Filter.threshold_eq_of_perm same alone]

/-- Below the name of a stage that is traced the filter keeps what the settings would not. -/
theorem filter_below_traced_stage :
    let settings : Settings :=
      ⟨.warn, fun stage => if stage = .parser then some .trace else none, .json⟩
    Stage.parser.ExtendedBy "tally::parser::fold" ∧
      settings.filter.enables "tally::parser::fold" .trace = true ∧
      settings.levelFor "tally::parser::fold" = .warn := by
  intro settings
  have extended : Stage.parser.ExtendedBy "tally::parser::fold" := ⟨"::fold", by decide, by decide⟩
  obtain ⟨-, below, -⟩ := filter_against_levelFor settings "tally::parser::fold" .trace
  obtain ⟨kept, fallback⟩ := below .parser extended
  exact ⟨extended, kept.mpr (by decide), fallback⟩

end Settings

end FlatSum
