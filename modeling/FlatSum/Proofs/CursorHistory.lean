import FlatSum.Proofs.CheckedReading
import FlatSum.Proofs.Cover
import FlatSum.Proofs.Resumption

namespace FlatSum

/-! A cursor through any calls, with every check that they make. A call that is trapped does not end
the run: the trap is caught, and the next call finds the cursor as it was left. -/

namespace Cursor

/-- What a call gives back. -/
inductive Answer where
  | char (found : Option Char)
  | position (place : Nat)
  | moved
  | number (result : Except ScanError Amount)
  | tokens (result : Except ScanError (List Token))
  | nodes (result : Except ScanError (List (Spanned Token)))

/-- The places named by the error or the spans of an answer. -/
def Answer.places : Answer → List Nat
  | .number (.error error) | .tokens (.error error) | .nodes (.error error) => [error.position]
  | .nodes (.ok read) => read.flatMap fun node => [node.span.start, node.span.stop]
  | _ => []

/-- One call of a run: the cursor that it found, what came of it, and the cursor that it left. -/
structure Step where
  before : Cursor
  call : Call
  outcome : Except Trap Answer
  after : Cursor

/-- What comes of a call. Only an advance is ever trapped, at the end of the text. -/
def outcome (cursor : Cursor) : Call → Except Trap Answer
  | .peek => .ok (.char cursor.peek)
  | .position => .ok (.position cursor.position)
  | .advance =>
      match cursor.advance with
      | .ok _ => .ok .moved
      | .error misuse => .error (.misuse misuse)
  | .number => .ok (.number cursor.number.1)
  | .tokens => .ok (.tokens (cursor.tokenize.result.map (List.map Spanned.value)))
  | .tokenize => .ok (.nodes cursor.tokenize.result)

def step (cursor : Cursor) (call : Call) : Step :=
  ⟨cursor, call, cursor.outcome call, cursor.after call⟩

def steps (cursor : Cursor) : List Call → List Step
  | [] => []
  | call :: calls => cursor.step call :: (cursor.after call).steps calls

end Cursor

namespace Checked

/-- A run on a cursor that is kept, also past a trap. -/
abbrev OnCursor (α : Type) := ExceptT Trap (StateT Cursor Option) α

section Moves

variable {α : Type} {read : Cursor → Checked (α × Cursor)} {cursor next : Cursor} {answer : α}

def onCursor (checked : Checked α) : OnCursor α := ExceptT.mk (StateT.lift checked.run)

/-- Only what is not trapped gives back a cursor to keep. -/
def move (read : Cursor → Checked (α × Cursor)) : OnCursor α := do
  let (answer, next) ← onCursor (read (← get))
  set next
  return answer

theorem run_move (passed : read cursor = pure (answer, next)) :
    (move read).run.run cursor = some (.ok answer, next) := by
  show ((read cursor).run.bind fun outcome => some (outcome, cursor)).bind _ = _
  rw [passed]
  rfl

end Moves

def nodes (limit : Nat) : OnCursor (Except ScanError (List (Spanned Token))) :=
  move fun cursor => do
    let scan ← tokenize limit cursor
    return (scan.result, scan.stop)

def ask (limit : Nat) : Cursor.Call → OnCursor Cursor.Answer
  | .peek => return .char (← get).peek
  | .position => return .position (← get).position
  | .advance => do
      set (← onCursor (advance limit (← get)))
      return .moved
  | .number => return .number (← move (number limit))
  | .tokens => return .tokens ((← nodes limit).map (List.map Spanned.value))
  | .tokenize => return .nodes (← nodes limit)

/-- A call whose trap is caught. -/
def step (limit : Nat) (call : Cursor.Call) : StateT Cursor Option Cursor.Step := do
  let before ← get
  let outcome ← (ask limit call).run
  return ⟨before, call, outcome, ← get⟩

def steps (limit : Nat) (calls : List Cursor.Call) : StateT Cursor Option (List Cursor.Step) :=
  calls.mapM (step limit)

variable {limit : Nat} {text : List Char} {cursor : Cursor}

theorem run_advance_cons {position : Nat} {c : Char} {rest : List Char}
    (fits : position + 1 ≤ limit) :
    (ask limit .advance).run.run ⟨position, c :: rest⟩ =
      some (.ok .moved, ⟨position + 1, rest⟩) := by
  show ((advance limit ⟨position, c :: rest⟩).run.bind fun outcome => some (outcome, _)).bind _ = _
  rw [advance_cons fits]
  rfl

theorem run_nodes (fits : cursor.position + cursor.rest.length ≤ limit) :
    (nodes limit).run.run cursor = some (.ok cursor.tokenize.result, cursor.tokenize.stop) :=
  run_move (by rw [tokenize_eq cursor fits]; rfl)

theorem run_ask (on : cursor.On text) (fits : text.length ≤ limit) (call : Cursor.Call) :
    (ask limit call).run.run cursor = some (cursor.outcome call, cursor.after call) := by
  have room : cursor.position + cursor.rest.length ≤ limit := on.length_rest ▸ fits
  obtain ⟨position, rest⟩ := cursor
  cases call with
  | peek => rfl
  | position => rfl
  | advance =>
      cases rest with
      | nil => rfl
      | cons c rest =>
          have next : position + 1 ≤ limit := Nat.le_trans (Nat.le_add_right _ rest.length)
            (by simpa [Nat.add_assoc, Nat.add_comm 1] using room)
          exact run_advance_cons next
  | number =>
      show ((move (number limit)).run.run _).bind _ = _
      rw [run_move (number_eq room)]
      rfl
  | tokens =>
      show ((nodes limit).run.run _).bind _ = _
      rw [run_nodes room]
      rfl
  | tokenize =>
      show ((nodes limit).run.run _).bind _ = _
      rw [run_nodes room]
      rfl

theorem run_step (on : cursor.On text) (fits : text.length ≤ limit) (call : Cursor.Call) :
    (step limit call).run cursor = some (cursor.step call, cursor.after call) := by
  show ((ask limit call).run.run cursor).bind _ = _
  rw [run_ask on fits]
  rfl

theorem run_steps (on : cursor.On text) (fits : text.length ≤ limit) (calls : List Cursor.Call) :
    (steps limit calls).run cursor = some (cursor.steps calls, cursor.afterAll calls) := by
  induction calls generalizing cursor with
  | nil => rfl
  | cons call calls ih =>
      rw [steps, List.mapM_cons, StateT.run_bind, run_step on fits]
      show ((steps limit calls).run (cursor.after call)).bind _ = _
      rw [ih (Cursor.on_after on call)]
      rfl

theorem run'_steps (on : cursor.On text) (fits : text.length ≤ limit) (calls : List Cursor.Call) :
    (steps limit calls).run' cursor = some (cursor.steps calls) := by
  rw [StateT.run'_eq, run_steps on fits]
  rfl

end Checked

namespace Cursor

variable {limit : Nat} {text : List Char} {cursor : Cursor}

/-- What a call does to a cursor on a text. -/
structure Step.Kept (text : List Char) (step : Step) : Prop where
  found : step.before.On text
  left : step.after.On text
  forward : step.before.position ≤ step.after.position
  asked : step.call = .peek ∨ step.call = .position → step.after = step.before
  offDigit : step.call = .number → (∀ c, step.before.peek = some c → c.isDigit = false) →
    step.outcome = .ok (.number (.ok 0)) ∧ step.after = step.before
  trapped_iff : (∃ trap, step.outcome = .error trap) ↔
    step.call = .advance ∧ step.before.position = text.length
  trapped : ∀ trap, step.outcome = .error trap →
    trap = .misuse .advancedAtEnd ∧ step.after = step.before
  places : ∀ answer, step.outcome = .ok answer → ∀ place ∈ answer.places,
    step.before.position ≤ place ∧ place ≤ text.length

theorem On.rest_eq_nil_iff (on : cursor.On text) :
    cursor.rest = [] ↔ cursor.position = text.length := by
  rw [← on.length_rest, Nat.left_eq_add, List.length_eq_zero_iff]

theorem number_of_not_digit (boundary : ∀ c, cursor.peek = some c → c.isDigit = false) :
    cursor.number = (.ok 0, cursor) := by
  rw [number, digitsOnto_of_not_digit boundary]

theorem position_of_number_error {error : ScanError} (failed : cursor.number.1 = .error error) :
    error.position = cursor.position := by
  unfold number at failed
  split at failed
  · contradiction
  · cases failed
    rfl

theorem position_shift (error : ScanError) (offset : Nat) :
    (error.shift offset).position = error.position + offset := by
  cases error <;> rfl

/-- A fault stands in what was left of the text. -/
theorem position_of_tokenize_error (on : cursor.On text) {error : ScanError}
    (failed : cursor.tokenize.result = .error error) :
    cursor.position ≤ error.position ∧ error.position ≤ text.length := by
  rw [tokenize_eq_shift on, Scan.result_shift] at failed
  cases fresh : (Scan.ofText (text.drop cursor.position)).result with
  | ok nodes =>
      rw [fresh] at failed
      contradiction
  | error earlier =>
      rw [fresh] at failed
      cases failed
      have first := error_ofText_eq_some_iff.mp (Scan.result_eq_error_iff.mp fresh)
      have inside := first.fault.lt_length
      rw [List.length_drop] at inside
      rw [position_shift]
      omega

/-- So do the tokens. -/
theorem spans_of_tokenize_ok (on : cursor.On text) {nodes : List (Spanned Token)}
    (read : cursor.tokenize.result = .ok nodes) {node : Spanned Token} (member : node ∈ nodes) :
    cursor.position ≤ node.span.start ∧ node.span.start ≤ node.span.stop ∧
      node.span.stop ≤ text.length := by
  rw [tokenize_eq_shift on, Scan.result_shift] at read
  cases fresh : (Scan.ofText (text.drop cursor.position)).result with
  | error error =>
      rw [fresh] at read
      contradiction
  | ok earlier =>
      rw [fresh] at read
      cases read
      obtain ⟨node, present, rfl⟩ := List.mem_map.mp member
      have covers := (tiles_of_result fresh).covers node present
      have ordered := covers.start_lt_stop
      have inside := covers.stop_le_length
      rw [List.length_drop] at inside
      have within := on.within
      simp only [Spanned.shift, Span.start_shift, Span.stop_shift]
      omega

/-- A refused numeral is named by its first place, where the cursor stood. -/
theorem places_of_outcome (on : cursor.On text) {call : Call} {answer : Answer} {place : Nat}
    (came : cursor.outcome call = .ok answer) (named : place ∈ answer.places) :
    cursor.position ≤ place ∧ place ≤ text.length := by
  cases call with
  | peek =>
      cases came
      contradiction
  | position =>
      cases came
      contradiction
  | advance =>
      cases moved : cursor.advance with
      | ok next =>
          simp only [outcome, moved] at came
          cases came
          contradiction
      | error misuse =>
          simp only [outcome, moved] at came
          contradiction
  | number =>
      cases came
      cases failed : cursor.number.1 with
      | ok value =>
          rw [failed] at named
          contradiction
      | error error =>
          rw [failed] at named
          obtain rfl := List.mem_singleton.mp named
          rw [position_of_number_error failed]
          exact ⟨Nat.le_refl _, on.within⟩
  | tokens =>
      cases came
      cases failed : cursor.tokenize.result with
      | ok nodes =>
          rw [failed] at named
          contradiction
      | error error =>
          rw [failed] at named
          obtain rfl := List.mem_singleton.mp named
          exact position_of_tokenize_error on failed
  | tokenize =>
      cases came
      cases result : cursor.tokenize.result with
      | ok nodes =>
          rw [result] at named
          obtain ⟨node, member, bound⟩ := List.mem_flatMap.mp named
          obtain ⟨lower, ordered, upper⟩ := spans_of_tokenize_ok on result member
          rcases List.mem_cons.mp bound with rfl | bound
          · exact ⟨lower, Nat.le_trans ordered upper⟩
          · obtain rfl := List.mem_singleton.mp bound
            exact ⟨Nat.le_trans lower ordered, upper⟩
      | error error =>
          rw [result] at named
          obtain rfl := List.mem_singleton.mp named
          exact position_of_tokenize_error on result

theorem trapped_iff (on : cursor.On text) {call : Call} :
    (∃ trap, cursor.outcome call = .error trap) ↔
      call = .advance ∧ cursor.position = text.length := by
  rw [← on.rest_eq_nil_iff]
  obtain ⟨position, rest⟩ := cursor
  cases call with
  | advance => cases rest <;> simp [outcome, advance]
  | _ => simp [outcome]

theorem after_of_trapped {call : Call} {trap : Trap} (trapped : cursor.outcome call = .error trap) :
    trap = .misuse .advancedAtEnd ∧ cursor.after call = cursor := by
  obtain ⟨position, rest⟩ := cursor
  cases call with
  | advance =>
      cases rest with
      | nil =>
          cases trapped
          exact ⟨rfl, rfl⟩
      | cons c rest => cases trapped
  | _ => cases trapped

theorem step_kept (on : cursor.On text) (call : Call) : (cursor.step call).Kept text where
  found := on
  left := on_after on call
  forward := (follows_after cursor call).position_le
  asked := by
    rintro (rfl | rfl) <;> rfl
  offDigit := by
    rintro rfl boundary
    have nothing : cursor.number = (.ok 0, cursor) := number_of_not_digit boundary
    exact ⟨by rw [step, outcome, nothing], congrArg Prod.snd nothing⟩
  trapped_iff := trapped_iff on
  trapped := fun trap => after_of_trapped
  places := fun answer came place named => places_of_outcome on came named

theorem steps_kept (on : cursor.On text) (calls : List Call) :
    ∀ step ∈ cursor.steps calls, step.Kept text := by
  induction calls generalizing cursor with
  | nil => exact fun _ member => absurd member List.not_mem_nil
  | cons call calls ih => exact List.forall_mem_cons.mpr ⟨step_kept on call, ih (on_after on call)⟩

theorem position_le_of_mem_steps {calls : List Call} {step : Step}
    (member : step ∈ cursor.steps calls) : cursor.position ≤ step.before.position := by
  induction calls generalizing cursor with
  | nil => contradiction
  | cons call calls ih =>
      rcases List.mem_cons.mp member with rfl | later
      · exact Nat.le_refl _
      · exact Nat.le_trans (follows_after cursor call).position_le (ih later)

theorem steps_forward (cursor : Cursor) (calls : List Call) :
    (cursor.steps calls).Pairwise fun earlier later =>
      earlier.after.position ≤ later.before.position := by
  induction calls generalizing cursor with
  | nil => exact .nil
  | cons call calls ih =>
      exact List.pairwise_cons.mpr ⟨fun _ member => position_le_of_mem_steps member, ih _⟩

theorem map_call_steps (cursor : Cursor) (calls : List Call) :
    (cursor.steps calls).map Step.call = calls := by
  induction calls generalizing cursor with
  | nil => rfl
  | cons call calls ih => exact congrArg (call :: ·) (ih _)

/-- Whatever is called of a cursor, and whatever came of earlier calls, it stays on its text and never
goes back, no call but an advance at the end is trapped, and the places that are named in answers
lie between the cursor and the end of the text. -/
theorem kept_through_calls {limit : Nat} {text : List Char} (fits : text.length ≤ limit)
    (calls : List Call) :
    ∃ steps, (Checked.steps limit calls).run' (start text) = some steps ∧
      steps.map Step.call = calls ∧
      (∀ step ∈ steps, step.Kept text) ∧
      steps.Pairwise fun earlier later => earlier.after.position ≤ later.before.position :=
  ⟨(start text).steps calls, Checked.run'_steps (on_start text) fits calls,
    map_call_steps (start text) calls, steps_kept (on_start text) calls,
    steps_forward (start text) calls⟩

/-- A numeral, a numeral asked for off a digit, one too large, its last digits, and a trap. -/
theorem kept_past_large_number :
    let text := "7 99999999999999999999".toList
    text.length ≤ 18446744073709551615 ∧
      ∃ steps, (Checked.steps 18446744073709551615
          [.number, .number, .tokenize, .tokens, .advance]).run' (start text) = some steps ∧
        steps.map (·.after.position) = [1, 1, 20, 22, 22] ∧ ∀ step ∈ steps, step.Kept text := by
  intro text
  have fits : text.length ≤ 18446744073709551615 := by decide
  obtain ⟨steps, ran, -, kept, -⟩ :=
    kept_through_calls fits [.number, .number, .tokenize, .tokens, .advance]
  have same := ran.symm.trans (Checked.run'_steps (on_start text) fits _)
  refine ⟨fits, steps, ran, ?_, kept⟩
  rw [Option.some.inj same]
  decide +kernel

end Cursor

end FlatSum
