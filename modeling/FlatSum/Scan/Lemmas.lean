import FlatSum.Scan

namespace FlatSum

/-! Reading a text from some place on, case by case. The tokens already read stay in front of those
that follow and decide nothing. -/

/-- The same reading behind tokens read earlier. -/
def Scan.behind (earlier : List (Spanned Token)) (scan : Scan) : Scan :=
  { scan with nodes := earlier ++ scan.nodes }

namespace Cursor

variable {position : Nat} {c : Char} {rest : List Char}

theorem scanOnto_append (nodes earlier : List (Spanned Token)) (position : Nat)
    (text : List Char) :
    scanOnto (nodes ++ earlier) position text =
      (scanOnto nodes position text).behind earlier.reverse := by
  fun_induction scanOnto nodes position text with
  | case1 => simp [scanOnto, Scan.behind]
  | case2 nodes position c rest digit numeral value read ih =>
      rw [scanOnto]
      simp only [digit, if_true]
      rw [show (number ⟨position, c :: rest⟩).1 = .ok value from read]
      exact ih
  | case3 nodes position c rest digit numeral error read =>
      rw [scanOnto]
      simp only [digit, if_true]
      rw [show (number ⟨position, c :: rest⟩).1 = .error error from read]
      simp [Scan.behind, numeral]
  | case4 nodes position c rest digit operator found ih =>
      rw [scanOnto]
      simpa [digit, found] using ih
  | case5 nodes position rest digit found ih =>
      rw [scanOnto]
      simpa [digit, found] using ih
  | case6 nodes position c rest digit found space =>
      rw [scanOnto]
      simp [digit, found, space, Scan.behind]

theorem scanOnto_eq_behind (node : Spanned Token) (cursor : Cursor) :
    scanOnto [node] cursor.position cursor.rest = cursor.tokenize.behind [node] :=
  scanOnto_append [] [node] cursor.position cursor.rest

theorem tokenize_nil : tokenize ⟨position, []⟩ = ⟨[], none, ⟨position, []⟩⟩ := by
  simp [tokenize, scanOnto]

theorem tokenize_number {value : Amount} {next : Cursor} (digit : c.isDigit = true)
    (numeral : number ⟨position, c :: rest⟩ = (.ok value, next)) :
    tokenize ⟨position, c :: rest⟩ =
      next.tokenize.behind [⟨.number value, ⟨position, next.position⟩⟩] := by
  simp only [tokenize]
  rw [scanOnto]
  simp only [digit, if_true, numeral]
  exact scanOnto_eq_behind _ ⟨_, _⟩

theorem tokenize_overflow {error : ScanError} {stop : Cursor} (digit : c.isDigit = true)
    (numeral : number ⟨position, c :: rest⟩ = (.error error, stop)) :
    tokenize ⟨position, c :: rest⟩ = ⟨[], some error, stop⟩ := by
  simp only [tokenize]
  rw [scanOnto]
  simp [digit, numeral]

theorem tokenize_operator {operator : Operator} (digit : c.isDigit = false)
    (found : Operator.ofChar? c = some operator) :
    tokenize ⟨position, c :: rest⟩ =
      (tokenize ⟨position + 1, rest⟩).behind
        [⟨.operator operator, ⟨position, position + 1⟩⟩] := by
  simp only [tokenize]
  rw [scanOnto]
  simp only [digit, if_false, Bool.false_eq_true, found]
  exact scanOnto_eq_behind _ ⟨_, _⟩

theorem tokenize_space :
    tokenize ⟨position, ' ' :: rest⟩ = tokenize ⟨position + 1, rest⟩ := by
  simp only [tokenize]
  rw [scanOnto]
  simp [Operator.ofChar?]

theorem tokenize_invalid (digit : c.isDigit = false) (none : Operator.ofChar? c = none)
    (space : c ≠ ' ') :
    tokenize ⟨position, c :: rest⟩ =
      ⟨[], some (.invalidCharacter c position), ⟨position, c :: rest⟩⟩ := by
  simp only [tokenize]
  rw [scanOnto]
  simp [digit, none, space]

end Cursor

end FlatSum
