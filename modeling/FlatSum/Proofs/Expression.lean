import FlatSum.Proofs.Reading

namespace FlatSum

/-! Expressions as they may be written: a numeral, any number of operators with a numeral behind each,
and spaces between, before and behind them. A numeral is a maximal run of digits, since a space, an
operator or the end of the text stands on either side of it. -/

def spaces (count : Nat) : List Char := List.replicate count ' '

/-- An operator and its operand, with the spaces before each of them. -/
structure Term where
  gap : Nat
  operator : Operator
  margin : Nat
  operand : Numeral

namespace Term

def text (term : Term) : List Char :=
  spaces term.gap ++ term.operator.symbol :: (spaces term.margin ++ term.operand.digits)

def tokens (term : Term) : List Token := [.operator term.operator, .number term.operand.amount]

/-- The sum with the term taken in, in unbounded integers. -/
def exact (sum : Int) (term : Term) : Int := term.operator.exact sum term.operand.value

theorem text_append (term : Term) (rest : List Char) :
    term.text ++ rest = spaces term.gap ++
      term.operator.symbol :: (spaces term.margin ++ (term.operand.digits ++ rest)) := by
  simp [text]

end Term

structure Expression where
  indent : Nat
  first : Numeral
  terms : List Term
  trailing : Nat

namespace Expression

def text (expression : Expression) : List Char :=
  spaces expression.indent ++
    (expression.first.digits ++ (expression.terms.flatMap Term.text ++ spaces expression.trailing))

def tokens (expression : Expression) : List Token :=
  .number expression.first.amount :: expression.terms.flatMap Term.tokens

def numerals (expression : Expression) : List Numeral :=
  expression.first :: expression.terms.map Term.operand

/-- The sums of the first operand, of the first two, and so on to the sum of all. -/
def partialSums (expression : Expression) : List Int :=
  expression.terms.scanl Term.exact expression.first.value

def total (expression : Expression) : Int :=
  expression.terms.foldl Term.exact expression.first.value

structure Fits (expression : Expression) : Prop where
  numerals : ∀ numeral ∈ expression.numerals, numeral.Fits
  sums : ∀ sum ∈ expression.partialSums, Amount.InRange sum

end Expression

variable {position : Nat} {rest : List Char} {scan : Scan}

theorem Reads.skip (count : Nat) (next : Reads (position + count) rest scan) :
    Reads position (spaces count ++ rest) scan := by
  induction count generalizing position with
  | zero => exact next
  | succ count ih =>
      apply Reads.space
      apply ih
      rw [Nat.add_assoc, Nat.add_comm 1]
      exact next

theorem Reads.blank (position count : Nat) :
    Reads position (spaces count) ⟨[], none, ⟨position + count, []⟩⟩ := by
  simpa using Reads.skip count .finish

theorem noDigitAhead_spaces (count : Nat) (apart : NoDigitAhead rest) :
    NoDigitAhead (spaces count ++ rest) := by
  cases count with
  | zero => exact apart
  | succ count =>
      intro c first
      cases first
      decide

theorem noDigitAhead_blank (count : Nat) : NoDigitAhead (spaces count) := by
  simpa using noDigitAhead_spaces count .nil

theorem noDigitAhead_symbol (operator : Operator) (rest : List Char) :
    NoDigitAhead (operator.symbol :: rest) := by
  intro c first
  cases first
  exact isDigit_symbol operator

theorem noDigitAhead_terms (terms : List Term) (trailing : Nat) :
    NoDigitAhead (terms.flatMap Term.text ++ spaces trailing) := by
  cases terms with
  | nil => exact noDigitAhead_blank trailing
  | cons term terms =>
      rw [List.flatMap_cons, List.append_assoc, Term.text_append]
      exact noDigitAhead_spaces term.gap (noDigitAhead_symbol term.operator _)

theorem exists_reads_terms (terms : List Term) (trailing position : Nat) :
    ∃ scan, Reads position (terms.flatMap Term.text ++ spaces trailing) scan ∧
      (scan.error = none ↔ ∀ term ∈ terms, term.operand.Fits) ∧
      (scan.error = none → scan.nodes.map Spanned.value = terms.flatMap Term.tokens) := by
  induction terms generalizing position with
  | nil => exact ⟨_, .blank position trailing, by simp, fun _ => rfl⟩
  | cons term terms ih =>
      obtain ⟨scan, reads, outcome, tokens⟩ :=
        ih (position + term.gap + 1 + term.margin + term.operand.length)
      obtain ⟨after, read, outcome', tokens'⟩ :=
        reads.exists_numeral term.operand (noDigitAhead_terms terms trailing)
      refine ⟨after.behind
        [⟨.operator term.operator, ⟨position + term.gap, position + term.gap + 1⟩⟩], ?_, ?_, ?_⟩
      · rw [List.flatMap_cons, List.append_assoc, Term.text_append]
        exact .skip term.gap (.operator term.operator (.skip term.margin read))
      · rw [List.forall_mem_cons, ← outcome, ← outcome']
        rfl
      · intro ended
        obtain ⟨fits, earlier⟩ := outcome'.mp ended
        rw [Scan.behind, List.map_append, tokens' fits, tokens earlier]
        rfl

theorem Expression.exists_reads (expression : Expression) :
    ∃ scan, Reads 0 expression.text scan ∧
      (scan.error = none ↔ ∀ numeral ∈ expression.numerals, numeral.Fits) ∧
      (scan.error = none → scan.nodes.map Spanned.value = expression.tokens) := by
  obtain ⟨scan, reads, outcome, tokens⟩ := exists_reads_terms expression.terms expression.trailing
    (0 + expression.indent + expression.first.length)
  obtain ⟨after, read, outcome', tokens'⟩ := reads.exists_numeral expression.first
    (noDigitAhead_terms expression.terms expression.trailing)
  refine ⟨after, .skip expression.indent read, ?_, ?_⟩
  · rw [numerals, List.forall_mem_cons, List.forall_mem_map, ← outcome, ← outcome']
  · intro ended
    obtain ⟨fits, earlier⟩ := outcome'.mp ended
    rw [tokens' fits, tokens earlier, Expression.tokens]

/-! What is read without a fault can be taken apart again, token by token. -/

variable {text : List Char} {tokens : List Token}

theorem Reads.text_of_finished (reads : Reads position text scan) (read : scan.error = none)
    (finished : scan.nodes.map Spanned.value = []) : ∃ count, text = spaces count := by
  induction reads with
  | finish => exact ⟨0, rfl⟩
  | space next ih =>
      obtain ⟨count, rfl⟩ := ih read finished
      exact ⟨count + 1, rfl⟩
  | operator => cases finished
  | number => cases finished
  | overflow => contradiction
  | invalid => contradiction

theorem Reads.text_of_operator {operator : Operator} (reads : Reads position text scan)
    (read : scan.error = none)
    (found : scan.nodes.map Spanned.value = .operator operator :: tokens) :
    ∃ gap back place after, text = spaces gap ++ operator.symbol :: back ∧
      Reads place back after ∧ after.error = none ∧ after.nodes.map Spanned.value = tokens := by
  induction reads with
  | finish => contradiction
  | space next ih =>
      obtain ⟨gap, back, place, after, rfl, behind⟩ := ih read found
      exact ⟨gap + 1, back, place, after, rfl, behind⟩
  | operator operator next =>
      cases found
      exact ⟨0, _, _, _, rfl, next, read, rfl⟩
  | number => cases found
  | overflow => contradiction
  | invalid => contradiction

theorem Reads.text_of_number {value : Amount} (reads : Reads position text scan)
    (read : scan.error = none) (found : scan.nodes.map Spanned.value = .number value :: tokens) :
    ∃ margin numeral back place after, text = spaces margin ++ (Numeral.digits numeral ++ back) ∧
      Reads place back after ∧ after.error = none ∧ after.nodes.map Spanned.value = tokens := by
  induction reads with
  | finish => contradiction
  | space next ih =>
      obtain ⟨margin, numeral, back, place, after, rfl, behind⟩ := ih read found
      exact ⟨margin + 1, numeral, back, place, after, rfl, behind⟩
  | operator => cases found
  | number numeral fits apart next =>
      cases found
      exact ⟨0, numeral, _, _, _, rfl, next, read, rfl⟩
  | overflow => contradiction
  | invalid => contradiction

end FlatSum
