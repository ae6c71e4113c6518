import FlatSum.Proofs.Expression
import FlatSum.Proofs.Outcome

namespace FlatSum

/-! Tokens as they may be written, in any order: with leading zeros and with spaces around them. A
text so written is read back as the tokens it was written from, each at the place where it
stands. -/

/-- A token with its spelling: a number may have any count of zeros before its digits. -/
inductive Word where
  | number (zeros : Nat) (value : Amount)
  | operator (operator : Operator)

namespace Word

def token : Word → Token
  | number _ value => .number value
  | operator op => .operator op

def text : Word → List Char
  | number zeros value => List.replicate zeros '0' ++ (Token.number value).text.toList
  | operator op => (Token.operator op).text.toList

theorem text_operator (op : Operator) : (Word.operator op).text = [op.symbol] :=
  String.toList_singleton op.symbol

end Word

/-- A word with the spaces before it. -/
structure Mark where
  gap : Nat
  word : Word

namespace Mark

def text (mark : Mark) : List Char := spaces mark.gap ++ mark.word.text

def token (mark : Mark) : Token := mark.word.token

/-- The characters of the word, without the spaces, in a text where the mark begins at `start`. -/
def span (start : Nat) (mark : Mark) : Span :=
  ⟨start + mark.gap, start + mark.gap + mark.word.text.length⟩

end Mark

structure Writing where
  marks : List Mark
  trailing : Nat

/-- The tokens of marks that are written one behind the other from `start` on. -/
def placed (start : Nat) : List Mark → List (Spanned Token)
  | [] => []
  | mark :: rest => ⟨mark.token, mark.span start⟩ :: placed (mark.span start).stop rest

namespace Writing

def text (writing : Writing) : List Char :=
  writing.marks.flatMap Mark.text ++ spaces writing.trailing

def tokens (writing : Writing) : List Token := writing.marks.map Mark.token

def nodes (writing : Writing) : List (Spanned Token) := placed 0 writing.marks

/-- What a text can show: no number is negative, and a space stands between two numbers in a row. -/
structure Legible (writing : Writing) : Prop where
  unsigned : ∀ value, .number value ∈ writing.tokens → 0 ≤ value.toInt
  apart : ∀ left right, [left, right] <:+: writing.marks → left.token.isOperator = false →
    right.token.isOperator = false → 0 < right.gap

end Writing

variable {value : Amount} {marks : List Mark} {position trailing : Nat}

def Numeral.padded (zeros n : Nat) : Numeral where
  digits := List.replicate zeros '0' ++ (Decimal.ofNat n).toList
  nonempty := List.append_ne_nil_of_right_ne_nil _ (Decimal.ofNat_ne_empty n)
  decimal := by
    intro c member
    rcases List.mem_append.mp member with zero | digit
    · rw [List.eq_of_mem_replicate zero]
      rfl
    · exact Decimal.isDigit_of_mem_ofNat digit

theorem Numeral.value_padded (zeros n : Nat) : (padded zeros n).value = n := by
  rw [value, padded, Decimal.value_replicate_zero_append, Decimal.value_ofNat]

/-- A number that is not negative is spelled by a numeral that denotes it, however many zeros stand
before its digits. -/
theorem Word.exists_numeral (zeros : Nat) (unsigned : 0 ≤ value.toInt) :
    ∃ numeral : Numeral, (Word.number zeros value).text = numeral.digits ∧ numeral.Fits ∧
      numeral.amount = value := by
  obtain ⟨n, exact⟩ := Int.eq_ofNat_of_zero_le unsigned
  have denotes : (Numeral.padded zeros n).value = n := Numeral.value_padded zeros n
  have fits : (Numeral.padded zeros n).Fits := by
    have range := value.inRange_toInt
    unfold Amount.InRange at range
    rw [Numeral.Fits, denotes]
    omega
  refine ⟨.padded zeros n, ?_, fits, ?_⟩
  · rw [Word.text, Token.text, Amount.text, exact]
    rfl
  · apply Int64.toInt_inj.mp
    rw [Numeral.toInt_amount fits, denotes, exact]

/-- A word is read as its token, unless a digit behind it would lengthen a number. -/
theorem Reads.word {rest : List Char} {scan : Scan} (word : Word)
    (unsigned : ∀ value, word.token = .number value → 0 ≤ value.toInt)
    (apart : word.token.isOperator = false → NoDigitAhead rest)
    (next : Reads (position + word.text.length) rest scan) :
    Reads position (word.text ++ rest)
      (scan.behind [⟨word.token, ⟨position, position + word.text.length⟩⟩]) := by
  cases word with
  | operator op =>
      rw [Word.text_operator] at next ⊢
      exact .operator op next
  | number zeros value =>
      obtain ⟨numeral, spelling, fits, denotes⟩ := Word.exists_numeral zeros (unsigned value rfl)
      rw [spelling] at next ⊢
      have read := Reads.number numeral fits (apart rfl) next
      rwa [denotes] at read

/-- What follows a number does not lengthen it. -/
theorem noDigitAhead_marks
    (apart : ∀ next, marks.head? = some next → next.token.isOperator = false → 0 < next.gap) :
    NoDigitAhead (marks.flatMap Mark.text ++ spaces trailing) := by
  cases marks with
  | nil => exact noDigitAhead_blank trailing
  | cons next rest =>
      obtain ⟨gap, word⟩ := next
      rw [List.flatMap_cons, Mark.text, List.append_assoc, List.append_assoc]
      cases gap with
      | succ gap =>
          intro c first
          cases first
          rfl
      | zero =>
          cases word with
          | number zeros value => exact absurd (apart _ rfl rfl) (Nat.lt_irrefl 0)
          | operator op =>
              rw [Word.text_operator]
              exact noDigitAhead_symbol op _

theorem exists_reads_marks
    (unsigned : ∀ value, .number value ∈ marks.map Mark.token → 0 ≤ value.toInt)
    (apart : ∀ left right, [left, right] <:+: marks → left.token.isOperator = false →
      right.token.isOperator = false → 0 < right.gap) (trailing position : Nat) :
    ∃ stop, Reads position (marks.flatMap Mark.text ++ spaces trailing)
      ⟨placed position marks, none, stop⟩ := by
  induction marks generalizing position with
  | nil => exact ⟨_, .blank position trailing⟩
  | cons mark rest ih =>
      rw [List.map_cons] at unsigned
      obtain ⟨stop, next⟩ := ih (fun value member => unsigned value (List.mem_cons_of_mem _ member))
        (fun left right neighbours => apart left right (List.infix_cons neighbours))
        (mark.span position).stop
      rw [List.flatMap_cons, Mark.text, List.append_assoc, List.append_assoc]
      refine ⟨stop, .skip mark.gap (.word mark.word ?_ ?_ next)⟩
      · intro value number
        apply unsigned value
        rw [Mark.token, number]
        exact List.mem_cons_self
      · intro number
        apply noDigitAhead_marks
        intro second first another
        obtain ⟨others, rfl⟩ := List.head?_eq_some_iff.mp first
        exact apart mark second ⟨[], others, rfl⟩ number another

/-- Each token stands where its word was written. -/
theorem map_slice_placed (front back : List Char) (marks : List Mark) :
    (placed front.length marks).map
        (fun node => node.span.slice (front ++ (marks.flatMap Mark.text ++ back))) =
      marks.map fun mark => mark.word.text := by
  induction marks generalizing front with
  | nil => rfl
  | cons mark rest ih =>
      have indented : (front ++ spaces mark.gap).length = front.length + mark.gap := by
        simp [spaces]
      have whole : front ++ (mark.text ++ rest.flatMap Mark.text ++ back) =
          front ++ spaces mark.gap ++ (mark.word.text ++ (rest.flatMap Mark.text ++ back)) := by
        simp [Mark.text]
      rw [List.flatMap_cons, placed, List.map_cons, List.map_cons, whole]
      congr 1
      · rw [Mark.span, ← indented]
        exact Span.slice_append _ _ _
      · have later := ih (front ++ spaces mark.gap ++ mark.word.text)
        rwa [List.length_append, indented, List.append_assoc _ mark.word.text] at later

theorem map_value_placed (marks : List Mark) (start : Nat) :
    (placed start marks).map Spanned.value = marks.map Mark.token := by
  induction marks generalizing start with
  | nil => rfl
  | cons mark rest ih => rw [placed, List.map_cons, List.map_cons, ih]

/-- Reading undoes writing, whether or not the tokens make an expression. -/
theorem Writing.ofText_written (writing : Writing) (legible : writing.Legible) :
    (Scan.ofText writing.text).result = .ok writing.nodes ∧
      writing.nodes.map Spanned.value = writing.tokens ∧
      writing.nodes.map (fun node => node.span.slice writing.text) =
        writing.marks.map fun mark => mark.word.text := by
  refine ⟨?_, map_value_placed writing.marks 0, ?_⟩
  · obtain ⟨stop, reads⟩ := exists_reads_marks legible.unsigned legible.apart writing.trailing 0
    rw [Writing.text, reads.ofText_eq]
    rfl
  · exact map_slice_placed [] (spaces writing.trailing) writing.marks

/-- The greatest amount behind zeros and right behind a sign, then a second number. -/
def crowded : Writing where
  marks := [⟨0, .operator .minus⟩, ⟨0, .number 2 9223372036854775807⟩, ⟨1, .number 0 0⟩]
  trailing := 2

theorem ofText_crowded :
    crowded.text = "-009223372036854775807 0  ".toList ∧
      (Scan.ofText crowded.text).result =
        .ok [⟨.operator .minus, ⟨0, 1⟩⟩, ⟨.number 9223372036854775807, ⟨1, 22⟩⟩,
          ⟨.number 0, ⟨23, 24⟩⟩] := by
  have legible : crowded.Legible := by
    refine ⟨?_, ?_⟩
    · intro value member
      simp only [Writing.tokens, crowded, Mark.token, Word.token, List.map_cons, List.map_nil,
        List.mem_cons, List.not_mem_nil, reduceCtorEq, Token.number.injEq, false_or,
        or_false] at member
      rcases member with rfl | rfl <;> decide
    · intro left right neighbours number another
      simp only [crowded, List.infix_cons_iff, List.cons_prefix_cons, List.infix_nil,
        List.prefix_nil, List.nil_prefix, List.cons_ne_nil, and_true, and_false,
        or_false] at neighbours
      rcases neighbours with ⟨rfl, rfl⟩ | ⟨rfl, rfl⟩
      · contradiction
      · exact Nat.lt_succ_self 0
  exact ⟨by decide +kernel, (crowded.ofText_written legible).1⟩

end FlatSum
