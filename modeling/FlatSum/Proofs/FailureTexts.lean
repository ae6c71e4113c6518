import FlatSum.Failure
import FlatSum.Text.Cut

namespace FlatSum

/-! The texts of a failure lose nothing of it. Each kind of failure opens its texts in a way of its own,
and behind the opening a number, a single character or a token can be read off again. -/

theorem Token.quote_not_mem_text (token : Token) : '\'' ∉ token.text.toList := by
  cases token with
  | number value => exact Decimal.not_mem_ofInt (by decide) (by decide)
  | operator operator => cases operator <;> decide

namespace Failure

/-- A failure without the place, the character and the token that it names. -/
inductive Kind where
  | invalidCharacter
  | numberOverflow
  | unexpectedEnd
  | invalidToken
  | overflow
deriving DecidableEq

def kind : Failure → Kind
  | scan (.invalidCharacter ..) => .invalidCharacter
  | scan (.numberOverflow _) => .numberOverflow
  | sum .unexpectedEnd => .unexpectedEnd
  | sum (.invalidToken ..) => .invalidToken
  | sum (.overflow _) => .overflow

namespace Kind

/-- What every description of the kind begins with. -/
def descriptionOpening : Kind → String
  | invalidCharacter => "Input contained an invalid character at index "
  | numberOverflow => "Number starting at index "
  | unexpectedEnd => "Unexpected end of input during parsing"
  | invalidToken => "Invalid token during parsing at index "
  | overflow => "Arithmetic overflow during parsing at index "

/-- What every message of the kind begins with. -/
def messageOpening : Kind → String
  | invalidCharacter => "invalid character '"
  | numberOverflow => "number starting at index "
  | unexpectedEnd => "unexpected end of input"
  | invalidToken => "invalid token '"
  | overflow => "arithmetic overflow at operand "

theorem descriptionOpenings_apart (kind other : Kind) :
    kind.descriptionOpening.toList <+: other.descriptionOpening.toList → kind = other := by
  cases kind <;> cases other <;> simp [descriptionOpening]

theorem messageOpenings_apart (kind other : Kind) :
    kind.messageOpening.toList <+: other.messageOpening.toList → kind = other := by
  cases kind <;> cases other <;> simp [messageOpening]

end Kind

/-- What a description says behind its opening. -/
def descriptionDetail : Failure → String
  | scan (.invalidCharacter char index) =>
      Decimal.ofNat index ++ (": " ++ String.singleton char)
  | scan (.numberOverflow start) => Decimal.ofNat start ++ " does not fit in a 64-bit integer"
  | sum .unexpectedEnd => ""
  | sum (.invalidToken token slot) => Decimal.ofNat slot ++ (": " ++ token.text)
  | sum (.overflow slot) => Decimal.ofNat slot

/-- What a message says behind its opening. -/
def messageDetail : Failure → String
  | scan (.invalidCharacter char index) =>
      String.singleton char ++ ("' at index " ++ Decimal.ofNat index)
  | scan (.numberOverflow start) => Decimal.ofNat start ++ " is too large"
  | sum .unexpectedEnd => ""
  | sum (.invalidToken token slot) => token.text ++ ("' at operand " ++ Decimal.ofNat slot)
  | sum (.overflow slot) => Decimal.ofNat slot

theorem description_eq (failure : Failure) :
    failure.description = failure.kind.descriptionOpening ++ failure.descriptionDetail := by
  cases failure with
  | scan error =>
      cases error <;> unfold description kind Kind.descriptionOpening descriptionDetail <;>
        simp only [String.append_assoc]
  | sum error =>
      cases error <;> unfold description kind Kind.descriptionOpening descriptionDetail <;>
        simp only [String.append_assoc, String.append_empty]

theorem message_eq (failure : Failure) :
    failure.message = failure.kind.messageOpening ++ failure.messageDetail := by
  cases failure with
  | scan error =>
      cases error <;> unfold message ScanError.message kind Kind.messageOpening messageDetail <;>
        simp only [String.append_assoc]
  | sum error =>
      cases error <;> unfold message SumError.message kind Kind.messageOpening messageDetail <;>
        simp only [String.append_assoc, String.append_empty]

/-- Where the openings tell the kinds apart and the details tell failures of one kind apart, a text
loses nothing. -/
theorem injective_of_parts {text detail : Failure → String} {opening : Kind → String}
    (parts : ∀ failure, text failure = opening failure.kind ++ detail failure)
    (apart : ∀ kind other, (opening kind).toList <+: (opening other).toList → kind = other)
    (told : ∀ failure other : Failure, failure.kind = other.kind →
      detail failure = detail other → failure = other) : Function.Injective text := by
  intro failure other same
  have begins : ∀ failure, (opening failure.kind).toList <+: (text failure).toList := by
    intro failure
    rw [parts, String.toList_append]
    exact List.prefix_append _ _
  have kinds : failure.kind = other.kind :=
    eq_of_openings apart (begins failure) (same ▸ begins other)
  rw [parts, parts, kinds] at same
  exact told failure other kinds ((String.append_right_inj _).mp same)

theorem eq_of_descriptionDetail (failure other : Failure) (kinds : failure.kind = other.kind)
    (same : failure.descriptionDetail = other.descriptionDetail) : failure = other := by
  have detail := congrArg String.toList same
  match failure, other, kinds with
  | scan (.invalidCharacter char index), scan (.invalidCharacter char' index'), _ =>
      have cut : (Decimal.ofNat index).toList ++ ':' :: [' ', char] =
          (Decimal.ofNat index').toList ++ ':' :: [' ', char'] := by
        simpa [descriptionDetail] using detail
      obtain ⟨rfl, behind⟩ := Decimal.eq_of_cut (by decide) cut
      obtain rfl : char = char' := by simpa using behind
      rfl
  | scan (.numberOverflow start), scan (.numberOverflow start'), _ =>
      have digits : (Decimal.ofNat start).toList = (Decimal.ofNat start').toList := by
        simpa [descriptionDetail] using detail
      rw [Decimal.ofNat_injective (String.toList_inj.mp digits)]
  | sum .unexpectedEnd, sum .unexpectedEnd, _ => rfl
  | sum (.invalidToken token slot), sum (.invalidToken token' slot'), _ =>
      have cut : (Decimal.ofNat slot).toList ++ ':' :: ' ' :: token.text.toList =
          (Decimal.ofNat slot').toList ++ ':' :: ' ' :: token'.text.toList := by
        simpa [descriptionDetail] using detail
      obtain ⟨rfl, behind⟩ := Decimal.eq_of_cut (by decide) cut
      rw [Token.text_injective (String.toList_inj.mp (List.cons.inj behind).2)]
  | sum (.overflow slot), sum (.overflow slot'), _ => rw [Decimal.ofNat_injective same]

theorem eq_of_messageDetail (failure other : Failure) (kinds : failure.kind = other.kind)
    (same : failure.messageDetail = other.messageDetail) : failure = other := by
  have detail := congrArg String.toList same
  match failure, other, kinds with
  | scan (.invalidCharacter char index), scan (.invalidCharacter char' index'), _ =>
      -- The character may be a quote itself, so what cuts it off is that it is only one.
      obtain ⟨rfl, digits⟩ :
          char = char' ∧ (Decimal.ofNat index).toList = (Decimal.ofNat index').toList := by
        simpa [messageDetail] using detail
      rw [Decimal.ofNat_injective (String.toList_inj.mp digits)]
  | scan (.numberOverflow start), scan (.numberOverflow start'), _ =>
      have digits : (Decimal.ofNat start).toList = (Decimal.ofNat start').toList := by
        simpa [messageDetail] using detail
      rw [Decimal.ofNat_injective (String.toList_inj.mp digits)]
  | sum .unexpectedEnd, sum .unexpectedEnd, _ => rfl
  | sum (.invalidToken token slot), sum (.invalidToken token' slot'), _ =>
      have cut : token.text.toList ++
            '\'' :: (" at operand ".toList ++ (Decimal.ofNat slot).toList) =
          token'.text.toList ++
            '\'' :: (" at operand ".toList ++ (Decimal.ofNat slot').toList) := by
        simpa [messageDetail] using detail
      obtain ⟨text, behind⟩ := eq_of_cut token.quote_not_mem_text token'.quote_not_mem_text cut
      have digits := String.toList_inj.mp (List.append_cancel_left behind)
      rw [Token.text_injective (String.toList_inj.mp text), Decimal.ofNat_injective digits]
  | sum (.overflow slot), sum (.overflow slot'), _ => rw [Decimal.ofNat_injective same]

theorem description_injective : Function.Injective description :=
  injective_of_parts description_eq Kind.descriptionOpenings_apart eq_of_descriptionDetail

theorem message_injective : Function.Injective message :=
  injective_of_parts message_eq Kind.messageOpenings_apart eq_of_messageDetail

/-- Neither text of a failure is that of another one. A misplaced minus sign does not read like a
misplaced negative number, nor a fault of the text like a fault of the sum. -/
theorem texts_lose_nothing :
    ∀ text ∈ [description, message], Function.Injective text ∧
      (∀ value slot slot', text (.sum (.invalidToken (.operator .minus) slot)) ≠
        text (.sum (.invalidToken (.number value) slot'))) ∧
      ∀ scanError sumError, text (.scan scanError) ≠ text (.sum sumError) := by
  intro text member
  have told : Function.Injective text := by
    simp only [List.mem_cons, List.not_mem_nil, or_false] at member
    rcases member with rfl | rfl
    · exact description_injective
    · exact message_injective
  refine ⟨told, fun value slot slot' same => ?_, fun scanError sumError same => ?_⟩
  · cases told same
  · cases told same

/-- A quote that is foreign to expressions, and a minus sign against a negative number. -/
theorem texts_of_quote_and_minus :
    message ∈ [description, message] ∧
      (∀ failure : Failure, failure.message = "invalid character ''' at index 3" →
        failure = .scan (.invalidCharacter '\'' 3)) ∧
      "invalid token '-' at operand 1" ≠ message (.sum (.invalidToken (.number (-5)) 1)) := by
  have member : message ∈ [description, message] := List.mem_cons_of_mem _ List.mem_cons_self
  obtain ⟨told, apart, -⟩ := texts_lose_nothing message member
  have quoted : message (.scan (.invalidCharacter '\'' 3)) =
      "invalid character ''' at index 3" := by
    decide +kernel
  have minus : message (.sum (.invalidToken (.operator .minus) 1)) =
      "invalid token '-' at operand 1" := by
    decide +kernel
  exact ⟨member, fun failure same => told (same.trans quoted.symm), minus ▸ apart (-5) 1 1⟩

end Failure

end FlatSum
