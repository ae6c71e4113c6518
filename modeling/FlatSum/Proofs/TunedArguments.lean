import FlatSum.Command.Arguments

namespace FlatSum

/-! Options of the log and of colour may stand wherever flags may, and leaving one out leaves a
command line that is accepted, for the same task. -/

/-- An option of the log or of colour, with its value attached or apart. -/
inductive LogOption where
  | level (attached : Bool) (level : Level)
  | format (attached : Bool) (format : LogFormat)
  | noColor
deriving DecidableEq, Repr

namespace LogOption

def spelled (attached : Bool) (flag : Flag) (value : String) : List String :=
  if attached then ["--" ++ flag.long ++ "=" ++ value] else ["--" ++ flag.long, value]

def arguments : LogOption → List String
  | level attached asked => spelled attached .logLevel asked.name
  | format attached asked => spelled attached .logFormat asked.name
  | noColor => ["--" ++ Flag.noColor.long]

end LogOption

namespace Reading

/-- The left reading is the right one, but for options that only the right one was given. -/
structure Eases (left right : Reading) : Prop where
  scope : left.scope = right.scope
  given : left.given ⊆ right.given
  awaiting : left.awaiting = right.awaiting
  literal : left.literal = right.literal
  expression? : left.expression? = right.expression?
  file? : left.file? = right.file?
  verbose : left.verbose = right.verbose
  positions : left.positions = right.positions

/-- Where the right side is accepted so is the left, and the readings still go together. -/
def Follows (left right : Except Ending Reading) : Prop :=
  ∀ after, right = .ok after → ∃ eased, left = .ok eased ∧ Eases eased after

variable {left right : Reading}

theorem Eases.follows (eases : Eases left right) : Follows (.ok left) (.ok right) := by
  rintro _ ⟨⟩
  exact ⟨left, rfl, eases⟩

theorem follows_error {accepted : Except Ending Reading} (ending : Ending) :
    Follows accepted (.error ending) := by
  rintro _ ⟨⟩

namespace Eases

theorem takeValue (eases : Eases left right) (flag : Flag) (value : String) :
    Follows (left.takeValue flag value) (right.takeValue flag value) := by
  obtain ⟨scope, given, _, literal, expression, file, verbose, positions⟩ := eases
  cases flag with
  | logLevel =>
      simp only [Reading.takeValue]
      cases Level.ofName? value with
      | none => exact follows_error _
      | some level =>
          exact follows ⟨scope, given, rfl, literal, expression, file, verbose, positions⟩
  | logFormat =>
      simp only [Reading.takeValue]
      cases LogFormat.ofName? false value with
      | none => exact follows_error _
      | some format =>
          exact follows ⟨scope, given, rfl, literal, expression, file, verbose, positions⟩
  | file =>
      simp only [Reading.takeValue]
      split
      · exact follows_error _
      · exact follows ⟨scope, given, rfl, literal, expression, rfl, verbose, positions⟩
  | noColor | verbose | positions | help | version => exact follows_error _

theorem takeBare (eases : Eases left right) (flag : Flag) :
    Follows (left.takeBare flag) (right.takeBare flag) := by
  cases flag with
  | noColor => exact follows { eases with }
  | verbose => exact follows { eases with verbose := rfl }
  | positions => exact follows { eases with positions := rfl }
  | help | version => exact follows_error _
  | logLevel | logFormat | file => exact follows { eases with awaiting := rfl }

theorem takeFlag (eases : Eases left right) (flag : Flag) (attached : Option String) :
    Follows (left.takeFlag flag attached) (right.takeFlag flag attached) := by
  simp only [Reading.takeFlag, eases.awaiting]
  cases right.awaiting with
  | some other => exact follows_error _
  | none =>
      by_cases repeated : flag ∈ right.given
      · simp only [repeated, if_true]
        exact follows_error _
      · have fresh : flag ∉ left.given := fun given => repeated (eases.given given)
        simp only [repeated, fresh, if_false]
        have noted : Eases { left with given := flag :: left.given, awaiting := none }
            { right with given := flag :: right.given, awaiting := none } :=
          { eases with given := List.cons_subset_cons flag eases.given, awaiting := rfl }
        cases attached with
        | some value => exact noted.takeValue flag value
        | none => exact noted.takeBare flag

theorem takeWord (eases : Eases left right) (word : String) :
    Follows (left.takeWord word) (right.takeWord word) := by
  simp only [Reading.takeWord, eases.awaiting, eases.literal, eases.scope, eases.expression?]
  cases right.awaiting with
  | some flag =>
      simp only
      split
      · exact follows_error _
      · exact eases.takeValue flag word
  | none =>
      cases right.scope with
      | top =>
          simp only
          split
          · exact follows_error _
          · cases Scope.ofCommand? word with
            | some scope =>
                exact follows { eases with
                  scope := rfl, given := List.Subset.refl _, awaiting := rfl, literal := rfl,
                  expression? := rfl }
            | none =>
                simp only
                split <;> exact follows_error _
      | demo => exact follows_error _
      | eval | lex =>
          cases right.expression? with
          | none =>
              exact follows { eases with
                scope := rfl, awaiting := rfl, literal := rfl, expression? := rfl }
          | some _ => exact follows_error _

theorem takeLetters (eases : Eases left right) (argument : String) (letters : List Char) :
    Follows (left.takeLetters argument letters) (right.takeLetters argument letters) := by
  induction letters generalizing left right with
  | nil => exact follows eases
  | cons letter rest ih =>
      simp only [Reading.takeLetters, eases.scope]
      cases right.scope.ofShort? letter with
      | none => exact follows_error _
      | some flag =>
          simp only
          split
          · exact eases.takeFlag flag _
          · intro after taken
            cases found : right.takeFlag flag none with
            | error ending => rw [found] at taken; cases taken
            | ok next =>
                obtain ⟨eased, reached, eases⟩ := eases.takeFlag flag none next found
                rw [found] at taken
                rw [reached]
                exact ih eases after taken

theorem admitsHyphen (eases : Eases left right) : left.admitsHyphen = right.admitsHyphen := by
  rw [Reading.admitsHyphen, eases.scope, eases.expression?]
  rfl

theorem take (eases : Eases left right) (argument : String) :
    Follows (left.take argument) (right.take argument) := by
  simp only [Reading.take, eases.literal]
  split
  · exact eases.takeWord argument
  · split
    · exact follows { eases with literal := rfl }
    · simp only [Reading.takeLong, eases.scope, eases.admitsHyphen]
      cases right.scope.ofLong? _ with
      | some flag => exact eases.takeFlag flag _
      | none =>
          simp only
          split
          · exact eases.takeWord argument
          · exact follows_error _
    · simp only [Reading.takeShort, eases.scope, eases.admitsHyphen]
      split
      · exact eases.takeWord argument
      · exact eases.takeLetters argument _
    · exact eases.takeWord argument

theorem foldlM_take (eases : Eases left right) (arguments : List String) :
    Follows (arguments.foldlM Reading.take left) (arguments.foldlM Reading.take right) := by
  induction arguments generalizing left right with
  | nil => exact follows eases
  | cons argument rest ih =>
      intro after taken
      rw [List.foldlM_cons] at taken ⊢
      cases found : right.take argument with
      | error ending => rw [found] at taken; cases taken
      | ok next =>
          obtain ⟨eased, reached, eases⟩ := eases.take argument next found
          rw [found] at taken
          rw [reached]
          exact ih eases after taken

end Eases

theorem ofLong?_long {scope : Scope} {flag : Flag} (known : flag ∈ scope.flags) :
    scope.ofLong? flag.long = some flag := by
  cases scope <;> cases flag <;> first | rfl | exact absurd known (by decide)

variable {reading after : Reading} {flag : Flag}

theorem take_attached (flags : reading.literal = false) (known : flag ∈ reading.scope.flags)
    (value : String) :
    reading.take ("--" ++ flag.long ++ "=" ++ value) = reading.takeFlag flag (some value) := by
  have letters : ("--" ++ flag.long ++ "=" ++ value).toList =
      '-' :: '-' :: (flag.long.toList ++ '=' :: value.toList) := by simp
  have whole : flag.long.toList.all (· ≠ '=') = true := by
    cases flag <;> decide
  have name := List.all_eq_true.mp whole
  have nonempty : flag.long.toList ++ '=' :: value.toList ≠ [] := by simp
  rw [Reading.take, flags, letters]
  simp only [Bool.false_eq_true, if_false, Reading.takeLong,
    List.takeWhile_append_of_pos name, List.dropWhile_append_of_pos name]
  simp [ofLong?_long known]

theorem take_apart (flags : reading.literal = false) (known : flag ∈ reading.scope.flags) :
    reading.take ("--" ++ flag.long) = reading.takeFlag flag none := by
  have letters : ("--" ++ flag.long).toList = '-' :: '-' :: flag.long.toList := by simp
  have filled : flag.long.toList ≠ [] := by
    cases flag <;> decide
  rw [Reading.take, flags, letters]
  simp only [Bool.false_eq_true, if_false, Reading.takeLong]
  have whole : flag.long.toList.takeWhile (· ≠ '=') = flag.long.toList ∧
      flag.long.toList.dropWhile (· ≠ '=') = [] := by
    cases flag <;> decide
  rw [whole.1, whole.2, String.ofList_toList, ofLong?_long known]

theorem take_word (flags : reading.literal = false) {word : String}
    (plain : word.toList.head? ≠ some '-') : reading.take word = reading.takeWord word := by
  rw [Reading.take, flags]
  simp only [Bool.false_eq_true, if_false]
  split
  · rename_i spelled
    simp [spelled] at plain
  · rename_i spelled
    simp [spelled] at plain
  · rename_i spelled
    simp [spelled] at plain
  · rfl

theorem takeFlag_eq_ok {attached : Option String}
    (taken : reading.takeFlag flag attached = .ok after) :
    reading.awaiting = none ∧
      attached.elim ({ reading with given := flag :: reading.given }.takeBare flag)
        ({ reading with given := flag :: reading.given }.takeValue flag) = .ok after := by
  rw [Reading.takeFlag] at taken
  cases awaited : reading.awaiting with
  | some other => rw [awaited] at taken; cases taken
  | none =>
      simp only [awaited] at taken
      split at taken
      · cases taken
      · refine ⟨rfl, ?_⟩
        cases attached <;> exact taken

theorem Eases.refl (reading : Reading) : Eases reading reading :=
  ⟨rfl, List.Subset.refl _, rfl, rfl, rfl, rfl, rfl, rfl⟩

theorem Eases.of_noted (unawaited : reading.awaiting = none)
    (eases : Eases { reading with given := flag :: reading.given, awaiting := none } after) :
    Eases reading after :=
  { eases with
    given := List.Subset.trans (List.subset_cons_self ..) eases.given
    awaiting := unawaited.trans eases.awaiting }

theorem eases_takeValue (asks : flag = .logLevel ∨ flag = .logFormat) {value : String}
    (taken : reading.takeValue flag value = .ok after) :
    Eases { reading with awaiting := none } after := by
  rcases asks with rfl | rfl
  · simp only [Reading.takeValue] at taken
    split at taken
    · cases taken
      exact { Eases.refl _ with }
    · cases taken
  · simp only [Reading.takeValue] at taken
    split at taken
    · cases taken
      exact { Eases.refl _ with }
    · cases taken

theorem eases_spelled (flags : reading.literal = false)
    (asks : flag = .logLevel ∨ flag = .logFormat) (attached : Bool) {value : String}
    (plain : value.toList.head? ≠ some '-')
    (taken : (LogOption.spelled attached flag value).foldlM Reading.take reading = .ok after) :
    Eases reading after := by
  have known : flag ∈ reading.scope.flags := by
    rcases asks with rfl | rfl <;> cases reading.scope <;> decide
  cases attached with
  | true =>
      simp only [LogOption.spelled, if_true, List.foldlM_cons, List.foldlM_nil, bind_pure,
        take_attached flags known] at taken
      obtain ⟨unawaited, valued⟩ := takeFlag_eq_ok taken
      exact Eases.of_noted unawaited (eases_takeValue asks valued)
  | false =>
      simp only [LogOption.spelled, Bool.false_eq_true, if_false, List.foldlM_cons,
        List.foldlM_nil, bind_pure, take_apart flags known] at taken
      cases noted : reading.takeFlag flag none with
      | error ending => rw [noted] at taken; cases taken
      | ok middle =>
          rw [noted] at taken
          obtain ⟨unawaited, awaited⟩ := takeFlag_eq_ok noted
          -- The flag is noted and waits; the value, which has no dash in front, is taken as a word.
          have middle_eq : middle =
              { reading with given := flag :: reading.given, awaiting := some flag } := by
            rcases asks with rfl | rfl <;> cases awaited <;> rfl
          have literal : middle.literal = false := by
            rw [middle_eq]
            exact flags
          change middle.take value = .ok after at taken
          rw [take_word literal plain, Reading.takeWord, literal, middle_eq] at taken
          exact Eases.of_noted unawaited (eases_takeValue asks taken)

/-- An option changes nothing but what it asks for, wherever flags may stand. -/
theorem eases_option (flags : reading.literal = false) (option : LogOption)
    (taken : option.arguments.foldlM take reading = .ok after) : Eases reading after := by
  cases option with
  | level attached asked =>
      refine eases_spelled flags (.inl rfl) attached ?_ taken
      cases asked <;> decide
  | format attached asked =>
      refine eases_spelled flags (.inr rfl) attached ?_ taken
      cases asked <;> decide
  | noColor =>
      have known : Flag.noColor ∈ reading.scope.flags := by
        cases reading.scope <;> decide
      simp only [LogOption.arguments, List.foldlM_cons, List.foldlM_nil, bind_pure,
        take_apart flags known] at taken
      obtain ⟨_, noted⟩ := takeFlag_eq_ok taken
      cases noted
      exact { Eases.refl _ with given := List.subset_cons_self .. }

/-- What is left without the options makes the same task. -/
theorem Eases.finish {request : Request} (eases : Eases left right)
    (finished : right.finish = .ok request) :
    ∃ plain, left.finish = .ok plain ∧ plain.task = request.task := by
  have task : left.task = right.task := by
    simp only [Reading.task, Reading.input, eases.scope, eases.expression?, eases.file?,
      eases.verbose, eases.positions]
  simp only [Reading.finish, eases.awaiting, task] at finished ⊢
  cases awaited : right.awaiting with
  | some flag => rw [awaited] at finished; cases finished
  | none =>
      simp only [awaited] at finished ⊢
      cases made : right.task with
      | error ending => rw [made] at finished; cases finished
      | ok task =>
          rw [made] at finished
          cases finished
          exact ⟨_, rfl, rfl⟩

end Reading

theorem Request.ofArguments_eq_ok_iff {arguments : List String} {request : Request} :
    Request.ofArguments arguments = .ok request ↔
      ∃ reading, arguments.foldlM Reading.take .fresh = .ok reading ∧
        reading.finish = .ok request := by
  rw [Request.ofArguments]
  cases arguments.foldlM Reading.take .fresh <;> simp

theorem Request.ofArguments_without_option {front back : List String} {reading : Reading}
    {request : Request} (option : LogOption) (read : front.foldlM Reading.take .fresh = .ok reading)
    (flags : reading.literal = false)
    (accepted : Request.ofArguments (front ++ (option.arguments ++ back)) = .ok request) :
    ∃ plain, Request.ofArguments (front ++ back) = .ok plain ∧ plain.task = request.task := by
  have resume : ∀ rest, (front ++ rest).foldlM Reading.take .fresh =
      rest.foldlM Reading.take reading := by
    intro rest
    rw [List.foldlM_append, read]
    rfl
  obtain ⟨last, finished, accepted⟩ := Request.ofArguments_eq_ok_iff.mp accepted
  rw [resume, List.foldlM_append] at finished
  cases taken : option.arguments.foldlM Reading.take reading with
  | error ending => rw [taken] at finished; cases finished
  | ok middle =>
      rw [taken] at finished
      obtain ⟨eased, reached, eases⟩ :=
        (Reading.eases_option flags option taken).foldlM_take back last finished
      obtain ⟨plain, made, same⟩ := eases.finish accepted
      refine ⟨plain, Request.ofArguments_eq_ok_iff.mpr ⟨eased, ?_, made⟩, same⟩
      rw [resume, reached]

/-- The right arguments are the left ones with options of the log and of colour put in, each where
flags may stand. -/
inductive Tuned (plain : List String) : List String → Prop where
  | refl : Tuned plain plain
  | insert {front back : List String} {reading : Reading} (option : LogOption)
      (tuned : Tuned plain (front ++ back))
      (read : front.foldlM Reading.take .fresh = .ok reading) (flags : reading.literal = false) :
      Tuned plain (front ++ (option.arguments ++ back))

namespace Tuned

variable {plain arguments variant : List String} {request other : Request}

/-- Without the options the arguments are accepted as well, and the task is the same. -/
theorem accepted_plain (tuned : Tuned plain arguments)
    (accepted : Request.ofArguments arguments = .ok request) :
    ∃ bare, Request.ofArguments plain = .ok bare ∧ bare.task = request.task := by
  induction tuned generalizing request with
  | refl => exact ⟨request, accepted, rfl⟩
  | insert option _ read flags ih =>
      obtain ⟨fewer, accepted, same⟩ :=
        Request.ofArguments_without_option option read flags accepted
      obtain ⟨bare, accepted, same'⟩ := ih accepted
      exact ⟨bare, accepted, same'.trans same⟩

/-- Arguments that differ in such options alone ask for one task. -/
theorem task_eq (tuned : Tuned plain arguments) (tuned' : Tuned plain variant)
    (accepted : Request.ofArguments arguments = .ok request)
    (accepted' : Request.ofArguments variant = .ok other) : other.task = request.task := by
  obtain ⟨bare, read, same⟩ := tuned.accepted_plain accepted
  obtain ⟨bare', read', same'⟩ := tuned'.accepted_plain accepted'
  rw [read] at read'
  cases read'
  exact same'.symm.trans same

end Tuned

end FlatSum
