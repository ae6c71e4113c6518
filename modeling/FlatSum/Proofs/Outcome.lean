import FlatSum.Evaluation
import FlatSum.Proofs.Reading

namespace FlatSum

/-! What an evaluation comes to, from the reading of its source. A fault of the text ends it; without
one the sum of the tokens decides. -/

variable {source : String} {scan : Scan} {error : ScanError} {value : Amount}

theorem Scan.result_eq_error_iff : scan.result = .error error ↔ scan.error = some error := by
  unfold Scan.result
  cases scan.error <;> simp

theorem Scan.result_eq_ok_iff {nodes : List (Spanned Token)} :
    scan.result = .ok nodes ↔ scan.error = none ∧ scan.nodes = nodes := by
  unfold Scan.result
  cases scan.error <;> simp

theorem Scan.exists_result_eq_ok_iff : (∃ nodes, scan.result = .ok nodes) ↔ scan.error = none := by
  unfold Scan.result
  cases scan.error <;> simp

theorem evaluate_eq (reads : Reads 0 source.toList scan) :
    evaluate source =
      match scan.error with
      | some error => .error (.scan error)
      | none => (Sum.ofTokens (scan.nodes.map Spanned.value)).result.mapError Failure.sum := by
  simp only [evaluate, reads.ofText_eq, Scan.result]
  cases scan.error with
  | some error => rfl
  | none =>
      simp only
      cases (Sum.ofTokens (scan.nodes.map Spanned.value)).result with
      | error error => rfl
      | ok value => rfl

theorem evaluate_eq_scan_iff (reads : Reads 0 source.toList scan) :
    evaluate source = .error (.scan error) ↔ scan.error = some error := by
  rw [evaluate_eq reads]
  cases scan.error with
  | some fault => simp
  | none =>
      cases (Sum.ofTokens (scan.nodes.map Spanned.value)).result with
      | error error => exact ⟨nofun, nofun⟩
      | ok value => exact ⟨nofun, nofun⟩

theorem mapError_eq_error_iff {result : Except SumError Amount} {error : SumError} :
    result.mapError Failure.sum = .error (.sum error) ↔ result = .error error := by
  cases result with
  | error found => exact ⟨fun same => by cases same; rfl, fun same => by cases same; rfl⟩
  | ok value => exact ⟨nofun, nofun⟩

theorem mapError_eq_ok_iff {result : Except SumError Amount} :
    result.mapError Failure.sum = .ok value ↔ result = .ok value := by
  cases result with
  | error found => exact ⟨nofun, nofun⟩
  | ok found => exact ⟨fun same => by cases same; rfl, fun same => by cases same; rfl⟩

theorem evaluate_eq_sum_iff {error : SumError} (reads : Reads 0 source.toList scan) :
    evaluate source = .error (.sum error) ↔
      scan.error = none ∧ (Sum.ofTokens (scan.nodes.map Spanned.value)).result = .error error := by
  rw [evaluate_eq reads]
  cases scan.error with
  | some fault => simp
  | none => simp [mapError_eq_error_iff]

theorem evaluate_eq_ok_iff (reads : Reads 0 source.toList scan) :
    evaluate source = .ok value ↔
      scan.error = none ∧ (Sum.ofTokens (scan.nodes.map Spanned.value)).result = .ok value := by
  rw [evaluate_eq reads]
  cases scan.error with
  | some fault => simp
  | none => simp [mapError_eq_ok_iff]

/-- Keeping the stages does not change the outcome. -/
theorem Evaluation.ofSource_eq (source : String) :
    ofSource source =
      ⟨source,
        match (Scan.ofText source.toList).result with
        | .ok nodes => nodes
        | .error _ => [],
        evaluate source, (ofSource source).errorSpan⟩ := by
  unfold ofSource evaluate
  cases (Scan.ofText source.toList).result with
  | error fault => rfl
  | ok nodes =>
      simp only
      cases (Sum.ofTokens (nodes.map Spanned.value)).result <;> rfl

theorem Evaluation.source_ofSource (source : String) : (ofSource source).source = source :=
  congrArg Evaluation.source (ofSource_eq source)

theorem Evaluation.result_ofSource (source : String) :
    (ofSource source).result = evaluate source :=
  congrArg Evaluation.result (ofSource_eq source)

theorem Evaluation.nodes_eq (source : String) :
    (ofSource source).nodes =
      match (Scan.ofText source.toList).result with
      | .ok nodes => nodes
      | .error _ => [] :=
  congrArg Evaluation.nodes (ofSource_eq source)

end FlatSum
