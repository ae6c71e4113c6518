import FlatSum.Proofs.Reading

namespace FlatSum

/-! A cursor on its text, and the calls that may be made of it. Whatever is called, the cursor stays on
the text, so the place it has reached is all that a later call depends on. -/

/-- What was read and what is left make up the text. -/
theorem Reads.stop_split {position : Nat} {text : List Char} {scan : Scan}
    (reads : Reads position text scan) :
    ∃ front, text = front ++ scan.stop.rest ∧ scan.stop.position = position + front.length := by
  induction reads with
  | finish => exact ⟨[], rfl, rfl⟩
  | space next ih =>
      obtain ⟨front, rfl, place⟩ := ih
      exact ⟨' ' :: front, rfl, by rw [place, List.length_cons]; omega⟩
  | operator operator next ih =>
      obtain ⟨front, split, place⟩ := ih
      refine ⟨operator.symbol :: front, by rw [split]; rfl, ?_⟩
      simp only [Scan.behind, place, List.length_cons]
      omega
  | number numeral fits apart next ih =>
      obtain ⟨front, split, place⟩ := ih
      refine ⟨numeral.digits ++ front, ?_, ?_⟩
      · rw [List.append_assoc]
        exact congrArg (numeral.digits ++ ·) split
      · simp only [Scan.behind, place, List.length_append, Numeral.length]
        omega
  | @overflow position taken rest c numeral digits room beyond =>
      exact ⟨taken, by rw [digits, List.append_assoc]; rfl, rfl⟩
  | invalid foreign => exact ⟨[], rfl, rfl⟩

namespace Cursor

/-- The cursor stands at a place of the text or at its end, with all of the text behind that left. -/
structure On (text : List Char) (cursor : Cursor) : Prop where
  within : cursor.position ≤ text.length
  ahead : cursor.rest = text.drop cursor.position

/-- What may be asked of a cursor. The tokens can be asked for with their places or without. -/
inductive Call where
  | peek
  | position
  | advance
  | number
  | tokens
  | tokenize
deriving DecidableEq, Repr

/-- The cursor that a call leaves. An advance that is refused leaves it where it is. -/
def after (cursor : Cursor) : Call → Cursor
  | .peek | .position => cursor
  | .advance =>
      match cursor.advance with
      | .ok next => next
      | .error _ => cursor
  | .number => cursor.number.2
  | .tokens | .tokenize => cursor.tokenize.stop

def afterAll (cursor : Cursor) (calls : List Call) : Cursor := calls.foldl after cursor

variable {text : List Char} {cursor next : Cursor}

theorem on_start (text : List Char) : (start text).On text := ⟨Nat.zero_le _, rfl⟩

theorem On.length_rest (on : cursor.On text) :
    cursor.position + cursor.rest.length = text.length := by
  rw [on.ahead, List.length_drop]
  exact Nat.add_sub_of_le on.within

/-- The later cursor has taken some of the characters that were left. -/
def Follows (cursor later : Cursor) : Prop :=
  ∃ taken, cursor.rest = taken ++ later.rest ∧ later.position = cursor.position + taken.length

theorem Follows.refl (cursor : Cursor) : Follows cursor cursor := ⟨[], rfl, rfl⟩

theorem Follows.position_le (follows : Follows cursor next) : cursor.position ≤ next.position := by
  obtain ⟨taken, _, place⟩ := follows
  rw [place]
  exact Nat.le_add_right _ _

theorem follows_advance (moved : cursor.advance = .ok next) : Follows cursor next := by
  unfold advance at moved
  split at moved
  · contradiction
  · rename_i c rest left
    cases moved
    exact ⟨[c], left, rfl⟩

theorem follows_number (cursor : Cursor) : Follows cursor cursor.number.2 := by
  obtain ⟨digits, split, _, place⟩ := digitsOnto_split 0 cursor.position cursor.rest
  unfold number
  split <;> rename_i read <;> rw [read] at split place <;> exact ⟨digits, split, place⟩

theorem follows_tokenize (cursor : Cursor) : Follows cursor cursor.tokenize.stop :=
  Reads.stop_split (Reads.iff_tokenize.mpr (rfl : tokenize ⟨cursor.position, cursor.rest⟩ = _))

theorem follows_after (cursor : Cursor) (call : Call) : Follows cursor (cursor.after call) := by
  cases call with
  | peek => exact .refl cursor
  | position => exact .refl cursor
  | advance =>
      unfold after
      cases moved : cursor.advance with
      | ok next => exact follows_advance moved
      | error misuse => exact .refl cursor
  | number => exact follows_number cursor
  | tokens => exact follows_tokenize cursor
  | tokenize => exact follows_tokenize cursor

/-- A cursor that has taken part of what was left is still on the text. -/
theorem On.of_follows (on : cursor.On text) (follows : Follows cursor next) : next.On text := by
  obtain ⟨taken, split, place⟩ := follows
  have size := on.length_rest
  rw [split, List.length_append] at size
  refine ⟨by omega, ?_⟩
  rw [place, ← List.drop_drop, ← on.ahead, split, List.drop_left]

theorem on_tokenize (on : cursor.On text) : cursor.tokenize.stop.On text :=
  on.of_follows (follows_tokenize cursor)

theorem on_after (on : cursor.On text) (call : Call) : (cursor.after call).On text :=
  on.of_follows (follows_after cursor call)

theorem on_afterAll (on : cursor.On text) (calls : List Call) : (cursor.afterAll calls).On text := by
  induction calls generalizing cursor with
  | nil => exact on
  | cons call calls ih => exact ih (on_after on call)

end Cursor

end FlatSum
