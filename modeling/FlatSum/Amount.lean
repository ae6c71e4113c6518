import FlatSum.Text.Decimal

namespace FlatSum

/-! The values of the language: whole numbers of 64 bits. Arithmetic is exact or refused; it never
wraps around. -/

abbrev Amount := Int64

namespace Amount

def InRange (value : Int) : Prop :=
  -9223372036854775808 ≤ value ∧ value < 9223372036854775808

instance (value : Int) : Decidable (InRange value) :=
  inferInstanceAs (Decidable (_ ∧ _))

def ofInt? (value : Int) : Option Amount :=
  if InRange value then some (Int64.ofInt value) else none

def add? (left right : Amount) : Option Amount := ofInt? (left.toInt + right.toInt)

def sub? (left right : Amount) : Option Amount := ofInt? (left.toInt - right.toInt)

def mul? (left right : Amount) : Option Amount := ofInt? (left.toInt * right.toInt)

def text (amount : Amount) : String := Decimal.ofInt amount.toInt

theorem inRange_toInt (amount : Amount) : InRange amount.toInt :=
  ⟨amount.le_toInt, amount.toInt_lt⟩

theorem text_injective {amount other : Amount} (same : amount.text = other.text) :
    amount = other :=
  Int64.toInt_inj.mp (Decimal.ofInt_injective same)

theorem exists_toInt_eq {value : Int} (fits : InRange value) :
    ∃ amount : Amount, amount.toInt = value :=
  ⟨Int64.ofInt value, Int64.toInt_ofInt_of_le fits.1 fits.2⟩

theorem ofInt?_eq_some_iff {value : Int} {amount : Amount} :
    ofInt? value = some amount ↔ amount.toInt = value := by
  unfold ofInt?
  constructor
  · intro found
    split at found
    · rename_i fits
      cases found
      exact Int64.toInt_ofInt_of_le fits.1 fits.2
    · contradiction
  · rintro rfl
    simp [inRange_toInt]

theorem ofInt?_eq_none_iff {value : Int} : ofInt? value = none ↔ ¬ InRange value := by
  simp [ofInt?]

theorem add?_eq_some_iff {left right sum : Amount} :
    add? left right = some sum ↔ sum.toInt = left.toInt + right.toInt :=
  ofInt?_eq_some_iff

theorem sub?_eq_some_iff {left right difference : Amount} :
    sub? left right = some difference ↔ difference.toInt = left.toInt - right.toInt :=
  ofInt?_eq_some_iff

theorem mul?_eq_some_iff {left right product : Amount} :
    mul? left right = some product ↔ product.toInt = left.toInt * right.toInt :=
  ofInt?_eq_some_iff

end Amount

end FlatSum
