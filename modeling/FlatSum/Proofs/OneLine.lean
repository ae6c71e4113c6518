import FlatSum.Proofs.TextFault

namespace FlatSum

/-! Texts that stay on one line when printed with a line feed behind them. Numbers, tokens and
quoted characters always do, so whatever is built of them does. The description of a foreign
character shows it as it is, and is broken where that character is a line feed. -/

/-- How many line feeds a text holds. -/
def lineFeeds (text : String) : Nat := text.toList.count '\n'

def OneLine (text : String) : Prop := '\n' ∉ text.toList

instance (text : String) : Decidable (OneLine text) := inferInstanceAs (Decidable (_ ∉ _))

theorem lineFeeds_eq_zero_iff {text : String} : lineFeeds text = 0 ↔ OneLine text :=
  List.count_eq_zero

@[simp] theorem lineFeeds_append (front back : String) :
    lineFeeds (front ++ back) = lineFeeds front + lineFeeds back := by
  rw [lineFeeds, String.toList_append, List.count_append]
  rfl

@[simp] theorem lineFeeds_feed : lineFeeds "\n" = 1 := by decide

namespace OneLine

@[simp] theorem append_iff {front back : String} :
    OneLine (front ++ back) ↔ OneLine front ∧ OneLine back := by
  simp [OneLine]

theorem singleton_iff {c : Char} : OneLine (String.singleton c) ↔ c ≠ '\n' := by
  simp [OneLine, eq_comm]

@[simp] theorem ofNat (n : Nat) : OneLine (Decimal.ofNat n) := Decimal.not_mem_ofNat (by decide)

@[simp] theorem ofInt (value : Int) : OneLine (Decimal.ofInt value) :=
  Decimal.not_mem_ofInt (by decide) (by decide)

@[simp] theorem amount (value : Amount) : OneLine value.text := ofInt value.toInt

@[simp] theorem quotedChar (c : Char) : OneLine (Quoted.char c) := Quoted.lineFeed_not_mem_char c

@[simp] theorem quotedText (text : String) : OneLine (Quoted.text text) :=
  Quoted.lineFeed_not_mem_text text

@[simp] theorem token (token : Token) : OneLine token.text := by
  cases token with
  | number value => exact amount value
  | operator operator => cases operator <;> decide

@[simp] theorem tokenForm (token : Token) : OneLine token.form := by
  cases token with
  | number value =>
      simp only [Token.form, append_iff, amount, and_true]
      decide
  | operator operator => cases operator <;> decide

@[simp] theorem scanErrorForm (error : ScanError) : OneLine error.form := by
  cases error <;> unfold ScanError.form <;> simp only [append_iff, quotedChar, ofNat, and_true] <;>
    decide +kernel

@[simp] theorem sumErrorForm (error : SumError) : OneLine error.form := by
  cases error <;> unfold SumError.form <;> simp only [append_iff, tokenForm, ofNat, and_true] <;>
    decide +kernel

@[simp] theorem failureForm (failure : Failure) : OneLine failure.form := by
  cases failure <;>
    simp only [Failure.form, append_iff, scanErrorForm, sumErrorForm, and_true] <;> decide

@[simp] theorem outcomeForm (result : Except Failure Amount) :
    OneLine (FlatSum.outcomeForm result) := by
  cases result <;>
    simp only [FlatSum.outcomeForm, append_iff, failureForm, amount, and_true] <;> decide

/-- A text printed with a line feed behind it takes one line exactly if it holds none itself. -/
theorem iff_printed {text : String} : lineFeeds (text ++ "\n") = 1 ↔ OneLine text := by
  rw [lineFeeds_append, lineFeeds_feed, ← lineFeeds_eq_zero_iff, Nat.add_eq_right]

end OneLine

/-- Of all failures, a foreign line feed is the only one with a description that it breaks. -/
theorem Failure.oneLine_description_iff {failure : Failure} :
    OneLine failure.description ↔ ∀ index, failure ≠ .scan (.invalidCharacter '\n' index) := by
  cases failure with
  | scan error =>
      cases error with
      | invalidCharacter char index =>
          have heading : OneLine
              ("Input contained an invalid character at index " ++ Decimal.ofNat index ++ ": ") := by
            simp only [OneLine.append_iff, OneLine.ofNat, and_true]
            decide +kernel
          unfold description
          rw [OneLine.append_iff, OneLine.singleton_iff]
          constructor
          · rintro ⟨_, other⟩ index' same
            cases same
            exact other rfl
          · intro never
            exact ⟨heading, fun same => never index (by rw [same])⟩
      | numberOverflow start =>
          refine ⟨nofun, fun _ => ?_⟩
          unfold description
          simp only [OneLine.append_iff, OneLine.ofNat, and_true]
          decide +kernel
  | sum error =>
      refine ⟨nofun, fun _ => ?_⟩
      cases error <;> unfold description <;>
        simp only [OneLine.append_iff, OneLine.ofNat, OneLine.token, and_true] <;> decide +kernel

/-- Where an expression fails, its failure is described on one line, unless the first fault of the
text is a line feed. -/
theorem description_on_one_line_iff {source : String} {failure : Failure}
    (failed : evaluate source = .error failure) :
    (OneLine failure.description ↔
      ¬ ∃ index, FirstTextFault source.toList (.invalidCharacter '\n' index)) ∧
    (lineFeeds (failure.description ++ "\n") = 1 ↔
      ¬ ∃ index, FirstTextFault source.toList (.invalidCharacter '\n' index)) := by
  have faulty : ∀ error, failure = .scan error ↔ FirstTextFault source.toList error := by
    intro error
    rw [← error_ofText_eq_some_iff, ← evaluate_eq_scan_iff (Reads.of_ofText source.toList), failed,
      Except.error.injEq]
  have broken : OneLine failure.description ↔
      ¬ ∃ index, FirstTextFault source.toList (.invalidCharacter '\n' index) := by
    rw [Failure.oneLine_description_iff, not_exists]
    exact forall_congr' fun index => not_congr (faulty _)
  exact ⟨broken, OneLine.iff_printed.trans broken⟩

theorem description_one_line_before_feed :
    evaluate "1\t\n" = .error (.scan (.invalidCharacter '\t' 1)) ∧
      lineFeeds ((Failure.scan (.invalidCharacter '\t' 1)).description ++ "\n") = 1 := by
  have fault : (Scan.ofText "1\t\n".toList).error = some (.invalidCharacter '\t' 1) := by
    decide +kernel
  have failed := (evaluate_eq_scan_iff (Reads.of_ofText _)).mpr fault
  refine ⟨failed, (description_on_one_line_iff failed).2.mpr ?_⟩
  rintro ⟨index, first⟩
  rw [error_ofText_eq_some_iff.mpr first] at fault
  cases fault

/-- A line feed is foreign to expressions, and the description shows the character that is. -/
theorem description_broken_by_feed :
    ¬ ∀ source failure, evaluate source = .error failure → OneLine failure.description := by
  intro always
  have fault : (Scan.ofText "1\n".toList).error = some (.invalidCharacter '\n' 1) := by
    decide +kernel
  have whole := always "1\n" _ ((evaluate_eq_scan_iff (Reads.of_ofText _)).mpr fault)
  revert whole
  decide +kernel

end FlatSum
