import FlatSum.Proofs.Expression
import FlatSum.Proofs.Outcome
import FlatSum.Proofs.Seam

namespace FlatSum

/-! Reading is local. A text made of two is read as the one and then the other, unless a numeral
runs across the cut; and spaces put in anywhere but inside a numeral change nothing except the
places. -/

/-- The text with spaces put in: so many before the character at each place, and behind the last. -/
def spread : (Nat → Nat) → List Char → List Char
  | gaps, [] => spaces (gaps 0)
  | gaps, c :: rest => spaces (gaps 0) ++ c :: spread (fun place => gaps (place + 1)) rest

/-- The number of spaces put in at or before a place. -/
def inserted (gaps : Nat → Nat) : Nat → Nat
  | 0 => gaps 0
  | place + 1 => inserted gaps place + gaps (place + 1)

/-- No space is put in between two digits. -/
def KeepsRuns (gaps : Nat → Nat) (text : List Char) : Prop :=
  ∀ place c d, text[place]? = some c → text[place + 1]? = some d → c.isDigit = true →
    d.isDigit = true → gaps (place + 1) = 0

/-- The failure as it is reported once the spaces are put in. -/
def Failure.respaced (gaps : Nat → Nat) : Failure → Failure
  | scan error => scan (error.shift (inserted gaps error.position))
  | sum error => sum error

variable {gaps : Nat → Nat} {c : Char} {digits text rest : List Char} {position : Nat} {scan : Scan}

theorem inserted_succ (gaps : Nat → Nat) (place : Nat) :
    inserted gaps (place + 1) = gaps 0 + inserted (fun place => gaps (place + 1)) place := by
  induction place with
  | zero => rfl
  | succ place ih => rw [inserted, ih, inserted, Nat.add_assoc]

theorem KeepsRuns.tail (keeps : KeepsRuns gaps (c :: rest)) :
    KeepsRuns (fun place => gaps (place + 1)) rest :=
  fun place d e first second => keeps (place + 1) d e first second

/-- A run of digits is spread as a whole. -/
theorem exists_spread_digits (rest : List Char) (digit : c.isDigit = true)
    (decimal : ∀ d ∈ digits, d.isDigit = true) (keeps : KeepsRuns gaps (c :: (digits ++ rest))) :
    ∃ behind, spread gaps (c :: (digits ++ rest)) =
        spaces (gaps 0) ++ (c :: (digits ++ spread behind rest)) ∧
      KeepsRuns behind rest ∧
      ∀ place, inserted gaps (digits.length + 1 + place) = gaps 0 + inserted behind place := by
  induction digits generalizing c gaps with
  | nil =>
      refine ⟨fun place => gaps (place + 1), rfl, keeps.tail, fun place => ?_⟩
      rw [List.length_nil, Nat.zero_add, Nat.add_comm 1, inserted_succ]
  | cons d digits ih =>
      obtain ⟨second, decimal⟩ := List.forall_mem_cons.mp decimal
      have closed : gaps 1 = 0 := keeps 0 c d rfl rfl digit second
      obtain ⟨behind, whole, keeps, count⟩ := ih second decimal keeps.tail
      refine ⟨behind, ?_, keeps, fun place => ?_⟩
      · rw [List.cons_append, spread, whole]
        simp [closed, spaces]
      · rw [List.length_cons, Nat.add_right_comm _ 1 place, inserted_succ, count, Nat.zero_add,
          closed, Nat.zero_add]

theorem Numeral.exists_spread (numeral : Numeral) (rest : List Char)
    (keeps : KeepsRuns gaps (numeral.digits ++ rest)) :
    ∃ behind, spread gaps (numeral.digits ++ rest) =
        spaces (gaps 0) ++ (numeral.digits ++ spread behind rest) ∧
      KeepsRuns behind rest ∧
      ∀ place, inserted gaps (numeral.length + place) = gaps 0 + inserted behind place := by
  obtain ⟨c, digits, shape, digit⟩ := numeral.exists_cons
  have decimal := numeral.decimal
  rw [shape, List.forall_mem_cons] at decimal
  rw [shape] at keeps
  rw [Numeral.length, shape]
  exact exists_spread_digits rest digit decimal.2 keeps

theorem noDigitAhead_spread (gaps : Nat → Nat) (apart : NoDigitAhead rest) :
    NoDigitAhead (spread gaps rest) := by
  cases rest with
  | nil => exact noDigitAhead_blank (gaps 0)
  | cons c rest => exact noDigitAhead_spaces (gaps 0) apart

/-- How a reading fares where spaces are put in: the same tokens, and a fault that moves with its
place. Before the text begins, `extra` of them have been put in already. -/
structure Respaced (gaps : Nat → Nat) (position extra : Nat) (scan after : Scan) : Prop where
  tokens : after.nodes.map Spanned.value = scan.nodes.map Spanned.value
  ended : scan.error = none → after.error = none
  fault : ∀ error, scan.error = some error → ∃ place, error.position = position + place ∧
    after.error = some (error.shift (extra + inserted gaps place))

namespace Respaced

variable {behind : Nat → Nat} {after : Scan} {extra width : Nat} {error : ScanError}
  {stop stop' : Cursor} {node other : Spanned Token}

theorem finish : Respaced gaps position extra ⟨[], none, stop⟩ ⟨[], none, stop'⟩ :=
  ⟨rfl, fun _ => rfl, nofun⟩

theorem refused (here : error.position = position) :
    Respaced gaps position extra ⟨[], some error, stop⟩
      ⟨[], some (error.shift (extra + gaps 0)), stop'⟩ where
  tokens := rfl
  ended := nofun
  fault := by
    intro same found
    cases found
    exact ⟨0, here, rfl⟩

theorem token (same : other.value = node.value) (next : Respaced gaps position extra scan after) :
    Respaced gaps position extra (scan.behind [node]) (after.behind [other]) where
  tokens := by simp [Scan.behind, same, next.tokens]
  ended := next.ended
  fault := next.fault

theorem step (next : Respaced behind (position + width) (extra + gaps 0) scan after)
    (count : ∀ place, inserted gaps (width + place) = gaps 0 + inserted behind place) :
    Respaced gaps position extra scan after where
  tokens := next.tokens
  ended := next.ended
  fault := by
    intro error found
    obtain ⟨place, position_eq, moved⟩ := next.fault error found
    refine ⟨width + place, by rw [position_eq, Nat.add_assoc], ?_⟩
    rw [moved, count, Nat.add_assoc]

end Respaced

theorem Reads.respaced (reads : Reads position text scan) (keeps : KeepsRuns gaps text)
    (extra : Nat) : ∃ after, Reads (position + extra) (spread gaps text) after ∧
      Respaced gaps position extra scan after := by
  -- The spaces before the first character join `extra`, and the later gaps are those of the rest.
  induction reads generalizing gaps extra with
  | finish => exact ⟨_, blank _ (gaps 0), .finish⟩
  | @space position rest scan next ih =>
      obtain ⟨after, read, respaced⟩ := ih keeps.tail (extra + gaps 0)
      rw [show position + 1 + (extra + gaps 0) = position + extra + gaps 0 + 1 by omega] at read
      refine ⟨after, skip (gaps 0) (space read), respaced.step fun place => ?_⟩
      rw [Nat.add_comm 1, inserted_succ]
  | @operator position rest scan operator next ih =>
      obtain ⟨after, read, respaced⟩ := ih keeps.tail (extra + gaps 0)
      rw [show position + 1 + (extra + gaps 0) = position + extra + gaps 0 + 1 by omega] at read
      refine ⟨_, skip (gaps 0) (.operator operator read),
        .token rfl (respaced.step fun place => ?_)⟩
      rw [Nat.add_comm 1, inserted_succ]
  | @number position rest scan numeral fits apart next ih =>
      obtain ⟨behind, whole, keeps, count⟩ := numeral.exists_spread rest keeps
      obtain ⟨after, read, respaced⟩ := ih keeps (extra + gaps 0)
      rw [show position + numeral.length + (extra + gaps 0) =
        position + extra + gaps 0 + numeral.length by omega] at read
      rw [whole]
      exact ⟨_, skip (gaps 0) (number numeral fits (noDigitAhead_spread behind apart) read),
        .token rfl (respaced.step count)⟩
  | @overflow position taken rest c numeral digits room beyond =>
      obtain ⟨behind, whole, _, _⟩ := numeral.exists_spread rest keeps
      have read := @Reads.overflow (position + extra + gaps 0) taken (spread behind rest) c numeral
        digits room beyond
      rw [whole]
      refine ⟨_, skip (gaps 0) read, ?_⟩
      rw [Nat.add_assoc position]
      exact .refused rfl
  | @invalid position rest c foreign =>
      have read := @Reads.invalid (position + extra + gaps 0)
        (spread (fun place => gaps (place + 1)) rest) c foreign
      refine ⟨_, skip (gaps 0) read, ?_⟩
      rw [Nat.add_assoc position]
      exact .refused rfl

/-- Reading a whole text once spaces are put in. -/
theorem exists_respaced (keeps : KeepsRuns gaps text) :
    Respaced gaps 0 0 (Scan.ofText text) (Scan.ofText (spread gaps text)) := by
  obtain ⟨after, read, respaced⟩ := (Reads.of_ofText text).respaced keeps 0
  rwa [read.ofText_eq]

theorem Respaced.error_eq {after : Scan} (respaced : Respaced gaps 0 0 scan after) :
    after.error = scan.error.map fun error => error.shift (inserted gaps error.position) := by
  cases found : scan.error with
  | none => exact respaced.ended found
  | some error =>
      obtain ⟨place, position_eq, moved⟩ := respaced.fault error found
      rw [Nat.zero_add] at position_eq
      rw [moved, ← position_eq, Nat.zero_add]
      rfl

theorem ofText_spread (keeps : KeepsRuns gaps text) :
    (Scan.ofText (spread gaps text)).result.map (List.map Spanned.value) =
      ((Scan.ofText text).result.map (List.map Spanned.value)).mapError fun error =>
        error.shift (inserted gaps error.position) := by
  have respaced := exists_respaced keeps
  have errors := respaced.error_eq
  cases found : (Scan.ofText text).error with
  | none =>
      rw [found] at errors
      rw [Scan.result_eq_ok_iff.mpr ⟨found, rfl⟩, Scan.result_eq_ok_iff.mpr ⟨errors, rfl⟩]
      exact congrArg Except.ok respaced.tokens
  | some error =>
      rw [found] at errors
      rw [Scan.result_eq_error_iff.mpr found, Scan.result_eq_error_iff.mpr errors]
      rfl

theorem evaluate_spread {source : String} (keeps : KeepsRuns gaps source.toList) :
    evaluate (String.ofList (spread gaps source.toList)) =
      (evaluate source).mapError (Failure.respaced gaps) := by
  have respaced := exists_respaced keeps
  have errors := respaced.error_eq
  have spaced := Reads.of_ofText (String.ofList (spread gaps source.toList)).toList
  rw [evaluate_eq spaced, evaluate_eq (Reads.of_ofText source.toList), String.toList_ofList,
    errors, respaced.tokens]
  cases (Scan.ofText source.toList).error with
  | some error => rfl
  | none =>
      simp only [Option.map_none]
      cases (Sum.ofTokens _).result with
      | error error => rfl
      | ok value => rfl

theorem ofText_join {front back : List Char} (read : (Scan.ofText front).error = none)
    (seam : NoDigitBehind front ∨ NoDigitAhead back) :
    Scan.ofText (front ++ back) =
      ((Scan.ofText back).shift front.length).behind (Scan.ofText front).nodes :=
  ((Reads.of_ofText front).append read seam ((Reads.of_ofText back).shift front.length)).ofText_eq

/-- A text is read as its front and then its back, and spaces between tokens do not matter. -/
theorem ofText_append_spread (front back : String) :
    (∀ error, (Scan.ofText front.toList).result = .error error →
      (Scan.ofText (front ++ back).toList).result = .error error) ∧
    (NoDigitBehind front.toList ∨ NoDigitAhead back.toList →
      ∀ nodes, (Scan.ofText front.toList).result = .ok nodes →
        (∀ error, (Scan.ofText back.toList).result = .error error →
          (Scan.ofText (front ++ back).toList).result = .error (error.shift front.length)) ∧
        ∀ more, (Scan.ofText back.toList).result = .ok more →
          (Scan.ofText (front ++ back).toList).result =
            .ok (nodes ++ more.map (·.shift front.length))) ∧
    ∀ (source : String) (gaps : Nat → Nat), KeepsRuns gaps source.toList →
      (Scan.ofText (spread gaps source.toList)).result.map (List.map Spanned.value) =
          ((Scan.ofText source.toList).result.map (List.map Spanned.value)).mapError
            (fun error => error.shift (inserted gaps error.position)) ∧
        evaluate (String.ofList (spread gaps source.toList)) =
          (evaluate source).mapError (Failure.respaced gaps) := by
  rw [String.toList_append, ← String.length_toList]
  refine ⟨?_, ?_, ?_⟩
  · intro error failed
    have fault := Scan.result_eq_error_iff.mp failed
    rw [((Reads.of_ofText front.toList).append_of_error fault back.toList).ofText_eq]
    exact Scan.result_eq_error_iff.mpr fault
  · intro seam nodes valued
    obtain ⟨read, rfl⟩ := Scan.result_eq_ok_iff.mp valued
    rw [ofText_join read seam]
    refine ⟨?_, ?_⟩
    · intro error failed
      have fault := Scan.result_eq_error_iff.mp failed
      apply Scan.result_eq_error_iff.mpr
      simp [Scan.behind, Scan.shift, fault]
    · intro more valued
      obtain ⟨read, rfl⟩ := Scan.result_eq_ok_iff.mp valued
      apply Scan.result_eq_ok_iff.mpr
      simp [Scan.behind, Scan.shift, read]
  · intro source gaps keeps
    exact ⟨ofText_spread keeps, evaluate_spread keeps⟩

theorem append_spread_accent :
    (Scan.ofText "12 ".toList).result = .ok [⟨.number 12, ⟨0, 2⟩⟩] ∧
    (Scan.ofText "3é".toList).result = .error (.invalidCharacter 'é' 1) ∧
    (Scan.ofText ("12 " ++ "3é").toList).result = .error (.invalidCharacter 'é' 4) ∧
    KeepsRuns (fun place => if place = 3 then 2 else 0) "12 3é".toList ∧
    evaluate (String.ofList (spread (fun place => if place = 3 then 2 else 0) "12 3é".toList)) =
      .error (.scan (.invalidCharacter 'é' 6)) := by
  obtain ⟨_, joined, spaced⟩ := ofText_append_spread "12 " "3é"
  have apart : NoDigitBehind "12 ".toList := by
    intro c last
    cases last
    rfl
  have front : (Scan.ofText "12 ".toList).result = .ok [⟨.number 12, ⟨0, 2⟩⟩] :=
    Scan.result_eq_ok_iff.mpr (by decide +kernel)
  have back : (Scan.ofText "3é".toList).result = .error (.invalidCharacter 'é' 1) :=
    Scan.result_eq_error_iff.mpr (by decide +kernel)
  have keeps : KeepsRuns (fun place => if place = 3 then 2 else 0) "12 3é".toList := by
    intro place c d first second digit _
    by_cases here : place = 2
    · subst here
      cases first
      contradiction
    · have other : place + 1 ≠ 3 := by omega
      simp only [other, if_false]
  have whole : evaluate "12 3é" = .error (.scan (.invalidCharacter 'é' 4)) :=
    (evaluate_eq_scan_iff (Reads.of_ofText "12 3é".toList)).mpr (by decide +kernel)
  obtain ⟨_, evaluated⟩ := spaced "12 3é" _ keeps
  rw [whole] at evaluated
  exact ⟨front, back, (joined (.inl apart) _ front).1 _ back, keeps, evaluated⟩

end FlatSum
