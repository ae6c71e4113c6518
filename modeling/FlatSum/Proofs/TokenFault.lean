import FlatSum.Proofs.Summation

namespace FlatSum

/-! Faults of a list of tokens, each with its place. Numbers belong at even places and operators at odd
ones, and the exact sum up to each operand has to fit. Summing reports the first fault there is and
has then taken the tokens up to it; without one it takes them all. -/

def InTurn (tokens : List Token) (count : Nat) : Prop :=
  ∀ place < count, ∀ token, tokens[place]? = some token →
    token.isOperator = decide (place % 2 = 1)

def operandAt (tokens : List Token) (slot : Nat) : Int :=
  match tokens[2 * slot]? with
  | some (.number value) => value.toInt
  | _ => 0

/-- The sum of the operands up to a slot, each behind its operator, in unbounded integers. -/
def exactSum (tokens : List Token) : Nat → Int
  | 0 => operandAt tokens 0
  | slot + 1 =>
      match tokens[2 * slot + 1]? with
      | some (.operator operator) =>
          operator.exact (exactSum tokens slot) (operandAt tokens (slot + 1))
      | _ => exactSum tokens slot

inductive TokenFault (tokens : List Token) : Nat → SumError → Prop where
  | strayOperator {place : Nat} {operator : Operator}
      (found : tokens[place]? = some (.operator operator)) (even : place % 2 = 0) :
      TokenFault tokens place (.invalidToken (.operator operator) (place / 2))
  | strayNumber {place : Nat} {value : Amount}
      (found : tokens[place]? = some (.number value)) (odd : place % 2 = 1) :
      TokenFault tokens place (.invalidToken (.number value) ((place + 1) / 2))
  | overflow {slot : Nat} {value : Amount} (found : tokens[2 * slot]? = some (.number value))
      (behind : 1 ≤ slot) (inTurn : InTurn tokens (2 * slot))
      (beyond : ¬ Amount.InRange (exactSum tokens slot)) :
      TokenFault tokens (2 * slot) (.overflow slot)

structure FirstTokenFault (tokens : List Token) (place : Nat) (error : SumError) : Prop where
  fault : TokenFault tokens place error
  least : ∀ earlier other, TokenFault tokens earlier other → place ≤ earlier

/-- What a sum may come to, and the number of tokens it takes. -/
inductive Settled (tokens : List Token) : Except SumError Amount → Nat → Prop where
  | fault {place : Nat} {error : SumError} (first : FirstTokenFault tokens place error) :
      Settled tokens (.error error) (place + 1)
  | ended (clean : ∀ place error, ¬ TokenFault tokens place error)
      (even : tokens.length % 2 = 0) :
      Settled tokens (.error .unexpectedEnd) tokens.length
  | summed {value : Amount} (clean : ∀ place error, ¬ TokenFault tokens place error)
      (odd : tokens.length % 2 = 1)
      (exact : value.toInt = exactSum tokens (tokens.length / 2)) :
      Settled tokens (.ok value) tokens.length

section Faults

variable {tokens : List Token} {place slot : Nat} {error other : SumError}

theorem TokenFault.lt_length (fault : TokenFault tokens place error) : place < tokens.length := by
  cases fault with
  | strayOperator found => exact (List.getElem?_eq_some_iff.mp found).1
  | strayNumber found => exact (List.getElem?_eq_some_iff.mp found).1
  | overflow found => exact (List.getElem?_eq_some_iff.mp found).1

theorem TokenFault.not_of_operator {operator : Operator}
    (found : tokens[place]? = some (.operator operator)) (odd : place % 2 = 1) :
    ¬ TokenFault tokens place error := by
  intro fault
  cases fault with
  | strayOperator _ even => omega
  | strayNumber number =>
      rw [found] at number
      cases number
  | overflow => omega

/-- What a token is blamed for if it is faulty at its place. -/
def Token.blame (place : Nat) : Token → SumError
  | .operator sign => .invalidToken (.operator sign) (place / 2)
  | .number value =>
      if place % 2 = 1 then .invalidToken (.number value) ((place + 1) / 2)
      else .overflow (place / 2)

theorem TokenFault.eq_blame (fault : TokenFault tokens place error) :
    ∃ token, tokens[place]? = some token ∧ error = token.blame place := by
  cases fault with
  | strayOperator found => exact ⟨_, found, rfl⟩
  | strayNumber found odd => exact ⟨_, found, (if_pos odd).symm⟩
  | overflow found => exact ⟨_, found, by simp [Token.blame]⟩

theorem TokenFault.unique (fault : TokenFault tokens place error)
    (another : TokenFault tokens place other) : error = other := by
  obtain ⟨token, found, rfl⟩ := fault.eq_blame
  obtain ⟨same, found', rfl⟩ := another.eq_blame
  rw [found] at found'
  cases found'
  rfl

theorem FirstTokenFault.unique (first : FirstTokenFault tokens place error) {another : Nat}
    (second : FirstTokenFault tokens another other) : place = another ∧ error = other := by
  have same : place = another :=
    Nat.le_antisymm (first.least another other second.fault) (second.least place error first.fault)
  subst same
  exact ⟨rfl, first.fault.unique second.fault⟩

/-- Before the first fault numbers and operators take turns. -/
theorem FirstTokenFault.inTurn (first : FirstTokenFault tokens place error) :
    InTurn tokens place := by
  intro earlier before token found
  have none_before : ∀ other, ¬ TokenFault tokens earlier other :=
    fun other fault => absurd (first.least earlier other fault) (Nat.not_le.mpr before)
  cases token with
  | number value =>
      by_cases odd : earlier % 2 = 1
      · exact absurd (.strayNumber found odd) (none_before _)
      · simp [Token.isOperator, odd]
  | operator sign =>
      by_cases odd : earlier % 2 = 1
      · simp [Token.isOperator, odd]
      · exact absurd (.strayOperator found (by omega)) (none_before _)

/-- Of the tokens that take turns, each second one is an operand. -/
theorem InTurn.operands_before (inTurn : InTurn tokens (2 * slot))
    (bound : 2 * slot ≤ tokens.length) :
    (tokens.take (2 * slot)).countP (fun token => !token.isOperator) = slot := by
  induction slot with
  | zero => rfl
  | succ slot ih =>
      have earlier : InTurn tokens (2 * slot) :=
        fun place before => inTurn place (Nat.lt_trans before (by omega))
      have number := List.getElem?_eq_getElem (show 2 * slot < tokens.length by omega)
      have sign := List.getElem?_eq_getElem (show 2 * slot + 1 < tokens.length by omega)
      have even := inTurn (2 * slot) (by omega) _ number
      have odd := inTurn (2 * slot + 1) (by omega) _ sign
      rw [Nat.mul_succ, List.take_add_one, List.take_add_one, number, sign, List.countP_append,
        List.countP_append, ih earlier (by omega)]
      simp [even, odd]

theorem exactSum_succ {operator : Operator} {operand : Amount}
    (sign : tokens[2 * slot + 1]? = some (.operator operator))
    (number : tokens[2 * slot + 2]? = some (.number operand)) :
    exactSum tokens (slot + 1) = operator.exact (exactSum tokens slot) operand.toInt := by
  have taken : operandAt tokens (slot + 1) = operand.toInt := by
    simp only [operandAt, Nat.mul_succ, number]
  simp only [exactSum, sign, taken]

end Faults

/-- What summing has made sure of when it has taken in the operand of a slot. -/
structure Reached (tokens : List Token) (slot : Nat) (value : Amount) : Prop where
  bound : 2 * slot < tokens.length
  inTurn : InTurn tokens (2 * slot + 1)
  sums : ∀ earlier ≤ slot, Amount.InRange (exactSum tokens earlier)
  exact : value.toInt = exactSum tokens slot

namespace Reached

variable {tokens rest : List Token} {slot place : Nat} {value operand next : Amount}
  {operator : Operator} {error : SumError}

theorem first (value : Amount) (rest : List Token) : Reached (.number value :: rest) 0 value where
  bound := Nat.succ_pos _
  inTurn := by
    intro place bound token found
    have start : place = 0 := by omega
    subst start
    cases found
    rfl
  sums := by
    intro earlier bound
    have start : earlier = 0 := Nat.le_zero.mp bound
    subst start
    exact value.inRange_toInt
  exact := rfl

theorem inTurn_operator (reached : Reached tokens slot value)
    (sign : tokens[2 * slot + 1]? = some (.operator operator)) : InTurn tokens (2 * slot + 2) := by
  intro place bound token found
  by_cases before : place < 2 * slot + 1
  · exact reached.inTurn place before token found
  · have last : place = 2 * slot + 1 := by omega
    subst last
    rw [sign] at found
    cases found
    have odd : (2 * slot + 1) % 2 = 1 := by omega
    simp [Token.isOperator, odd]

theorem step (reached : Reached tokens slot value)
    (sign : tokens[2 * slot + 1]? = some (.operator operator))
    (number : tokens[2 * slot + 2]? = some (.number operand))
    (combined : operator.combine? value operand = some next) : Reached tokens (slot + 1) next := by
  have exact : next.toInt = exactSum tokens (slot + 1) := by
    rw [exactSum_succ sign number, ← reached.exact]
    exact Operator.combine?_eq_some_iff.mp combined
  refine ⟨(List.getElem?_eq_some_iff.mp number).1, ?_, ?_, exact⟩
  · intro place bound token found
    by_cases before : place < 2 * slot + 2
    · exact reached.inTurn_operator sign place before token found
    · have last : place = 2 * slot + 2 := by omega
      subst last
      rw [number] at found
      cases found
      have even : (2 * slot + 2) % 2 = 0 := by omega
      simp [Token.isOperator, even]
  · intro earlier bound
    by_cases before : earlier ≤ slot
    · exact reached.sums earlier before
    · have last : earlier = slot + 1 := by omega
      rw [last, ← exact]
      exact next.inRange_toInt

theorem lt_of_fault (reached : Reached tokens slot value) (fault : TokenFault tokens place error) :
    2 * slot < place := by
  apply Nat.lt_of_not_le
  intro before
  cases fault with
  | strayOperator found even =>
      have turn := reached.inTurn place (Nat.lt_succ_of_le before) _ found
      simp [Token.isOperator, even] at turn
  | strayNumber found odd =>
      have turn := reached.inTurn place (Nat.lt_succ_of_le before) _ found
      simp [Token.isOperator, odd] at turn
  | @overflow earlier _ _ _ _ beyond =>
      exact beyond (reached.sums earlier (by omega))

/-- An operator in its turn is no fault, so the next can only lie behind it. -/
theorem lt_of_fault_operator (reached : Reached tokens slot value)
    (sign : tokens[2 * slot + 1]? = some (.operator operator))
    (fault : TokenFault tokens place error) : 2 * slot + 1 < place := by
  have later := reached.lt_of_fault fault
  apply Nat.lt_of_le_of_ne later
  intro same
  rw [← same] at fault
  exact TokenFault.not_of_operator sign (by omega) fault

theorem length_eq (reached : Reached tokens slot value)
    (ahead : tokens.drop (2 * slot + 1) = rest) : tokens.length = 2 * slot + 1 + rest.length := by
  have bound := reached.bound
  rw [← ahead, List.length_drop]
  omega

theorem settles (reached : Reached tokens slot value) (ahead : tokens.drop (2 * slot + 1) = rest) :
    Settled tokens (TokenStream.resume ⟨2 * slot + 1, slot + 1, rest⟩ value).result
      (TokenStream.resume ⟨2 * slot + 1, slot + 1, rest⟩ value).stop.position := by
  have lookup : ∀ offset, tokens[2 * slot + 1 + offset]? = rest[offset]? := by
    intro offset
    rw [← ahead, List.getElem?_drop]
  have size := reached.length_eq ahead
  have slotted : (2 * slot + 1 + 1) / 2 = slot + 1 := by omega
  clear ahead
  induction rest using TokenStream.shapes generalizing slot value with
  | finished =>
      rw [TokenStream.resume_nil]
      rw [List.length_nil, Nat.add_zero] at size
      have clean : ∀ place error, ¬ TokenFault tokens place error := by
        intro place error fault
        have inside := fault.lt_length
        have later := reached.lt_of_fault fault
        omega
      have half : tokens.length / 2 = slot := by omega
      have settled : Settled tokens (.ok value) tokens.length :=
        .summed clean (by omega) (by rw [half, reached.exact])
      rwa [size] at settled
  | surplus surplus rest =>
      rw [TokenStream.resume_number]
      have stray := TokenFault.strayNumber (lookup 0) (by omega)
      rw [Nat.add_zero, slotted] at stray
      exact .fault ⟨stray, fun earlier other fault => reached.lt_of_fault fault⟩
  | hanging operator =>
      rw [TokenStream.resume_end]
      rw [List.length_singleton] at size
      have clean : ∀ place error, ¬ TokenFault tokens place error := by
        intro place error fault
        have inside := fault.lt_length
        have later := reached.lt_of_fault_operator (lookup 0) fault
        omega
      have settled : Settled tokens (.error .unexpectedEnd) tokens.length :=
        .ended clean (by omega)
      rwa [size] at settled
  | doubled operator second rest =>
      rw [TokenStream.resume_operator]
      have stray := TokenFault.strayOperator (lookup 1) (by omega)
      rw [slotted] at stray
      exact .fault ⟨stray, fun earlier other fault => reached.lt_of_fault_operator (lookup 0) fault⟩
  | pair operator operand rest ih =>
      have sign : tokens[2 * slot + 1]? = some (.operator operator) := lookup 0
      have number : tokens[2 * slot + 2]? = some (.number operand) := lookup 1
      cases combined : operator.combine? value operand with
      | some next =>
          rw [TokenStream.resume_fold combined]
          apply ih (reached.step sign number combined)
          · intro offset
            have found := lookup (offset + 2)
            rwa [show 2 * slot + 1 + (offset + 2) = 2 * (slot + 1) + 1 + offset by omega] at found
          · simp only [List.length_cons] at size
            omega
          · omega
      | none =>
          rw [TokenStream.resume_overflow combined]
          have beyond := Operator.combine?_eq_none_iff.mp combined
          rw [reached.exact, ← exactSum_succ sign number] at beyond
          exact .fault ⟨.overflow number (Nat.le_add_left 1 slot) (reached.inTurn_operator sign) beyond,
            fun earlier other fault => reached.lt_of_fault_operator sign fault⟩

end Reached

theorem settled_ofTokens (tokens : List Token) :
    Settled tokens (Sum.ofTokens tokens).result (Sum.ofTokens tokens).stop.position := by
  cases tokens with
  | nil => exact .ended (fun place error fault => absurd fault.lt_length (Nat.not_lt_zero place)) rfl
  | cons token rest =>
      cases token with
      | operator operator =>
          have stray : TokenFault (.operator operator :: rest) 0 _ := .strayOperator rfl rfl
          exact .fault ⟨stray, fun earlier other fault => Nat.zero_le earlier⟩
      | number value => exact (Reached.first value rest).settles rfl

/-- The first fault is the one reported, whatever stands behind it, and it is taken with it. -/
theorem ofTokens_first_fault (tokens : List Token) :
    (∀ place error, FirstTokenFault tokens place error →
      (Sum.ofTokens tokens).result = .error error ∧
        (Sum.ofTokens tokens).stop.position = place + 1) ∧
    ((∀ place error, ¬ TokenFault tokens place error) →
      (Sum.ofTokens tokens).stop.position = tokens.length ∧
      (tokens.length % 2 = 0 → (Sum.ofTokens tokens).result = .error .unexpectedEnd) ∧
      (tokens.length % 2 = 1 → ∃ value, (Sum.ofTokens tokens).result = .ok value ∧
        value.toInt = exactSum tokens (tokens.length / 2))) := by
  have settled := settled_ofTokens tokens
  generalize (Sum.ofTokens tokens).result = result, (Sum.ofTokens tokens).stop.position = position
    at settled ⊢
  refine ⟨?_, ?_⟩
  · intro place error first
    cases settled with
    | fault reported =>
        obtain ⟨rfl, rfl⟩ := reported.unique first
        exact ⟨rfl, rfl⟩
    | ended clean => exact absurd first.fault (clean place error)
    | summed clean => exact absurd first.fault (clean place error)
  · intro clean
    cases settled with
    | fault reported => exact absurd reported.fault (clean _ _)
    | ended _ even => exact ⟨rfl, fun _ => rfl, fun odd => by omega⟩
    | summed _ odd exact => exact ⟨rfl, fun even => by omega, fun _ => ⟨_, rfl, exact⟩⟩

theorem ofTokens_two_numbers :
    FirstTokenFault [.number 3, .number 4] 1 (.invalidToken (.number 4) 1) ∧
      (Sum.ofTokens [.number 3, .number 4]).result = .error (.invalidToken (.number 4) 1) ∧
      (Sum.ofTokens [.number 3, .number 4]).stop.position = 2 := by
  have first : FirstTokenFault [.number 3, .number 4] 1 (.invalidToken (.number 4) 1) :=
    ⟨.strayNumber rfl rfl, fun earlier other fault => (Reached.first 3 _).lt_of_fault fault⟩
  exact ⟨first, (ofTokens_first_fault [.number 3, .number 4]).1 1 _ first⟩

end FlatSum
