import FlatSum.Text.GraphemeExtend
import FlatSum.Text.Ignorable
import FlatSum.Text.Printable

namespace FlatSum.Quoted

/-! Characters and texts in quotes, with everything that a reader could not see or could mistake
written as an escape. A quoted text therefore stays on one line whatever it quotes. -/

def hexadecimal (n : Nat) : List Char := Nat.toDigits 16 n

def shortEscape? : Char → Option Char
  | '\x00' => some '0'
  | '\t' => some 't'
  | '\n' => some 'n'
  | '\r' => some 'r'
  | '\\' => some '\\'
  | _ => none

/-- The code point in braces: the escape of a character that has no short one. -/
def codePointEscape (c : Char) : List Char :=
  ['\\', 'u', '\x7b'] ++ hexadecimal c.toNat ++ ['\x7d']

/-- The halfwidth katakana sound marks extend graphemes, but are letters with a cell of their own. -/
def isKatakanaSoundMark (c : Char) : Bool := c = '\uff9e' || c = '\uff9f'

/-- Whether a reader can see a character, and see it apart from the one before it. -/
def isDistinct (c : Char) : Bool :=
  isPrintable c && !isIgnorable c && (!isGraphemeExtend c || isKatakanaSoundMark c)

/-- One character inside quotes; of the two quotation marks only the delimiter is escaped. -/
def escape (delimiter c : Char) : List Char :=
  match shortEscape? c with
  | some letter => ['\\', letter]
  | none =>
      if c = delimiter then ['\\', c]
      else if isDistinct c then [c]
      else codePointEscape c

def char (c : Char) : String :=
  String.ofList ('\x27' :: escape '\x27' c ++ ['\x27'])

def text (text : String) : String :=
  String.ofList ('\x22' :: text.toList.flatMap (escape '\x22') ++ ['\x22'])

theorem lineFeed_not_mem_hexadecimal (n : Nat) : '\n' ∉ hexadecimal n := by
  intro member
  have shape : ∀ m, '\n' ∉ Nat.toDigits 16 m := by
    intro m
    induction m using Nat.strongRecOn with
    | _ m smaller =>
        rw [Nat.toDigits_eq_if (by decide)]
        split
        · simp only [List.mem_singleton]
          have bound : ∀ d : Fin 16, '\n' ≠ Nat.digitChar d := by decide
          exact bound ⟨m, by assumption⟩
        · simp only [List.mem_append, List.mem_singleton, not_or]
          have bound : ∀ d : Fin 16, '\n' ≠ Nat.digitChar d := by decide
          exact ⟨smaller _ (by omega), bound ⟨m % 16, by omega⟩⟩
  exact shape n member

theorem lineFeed_not_mem_escape (delimiter c : Char) : '\n' ∉ escape delimiter c := by
  unfold escape
  split
  · rename_i letter short
    unfold shortEscape? at short
    split at short <;> simp_all <;> subst short <;> decide
  · rename_i long
    have plain : c ≠ '\n' := by
      rintro rfl
      simp [shortEscape?] at long
    have printed : '\n' ≠ c := fun same => plain same.symm
    split
    · simp [printed]
    · split
      · simp [printed]
      · simp [codePointEscape, lineFeed_not_mem_hexadecimal]

theorem lineFeed_not_mem_char (c : Char) : '\n' ∉ (char c).toList := by
  simp [char, lineFeed_not_mem_escape]

theorem lineFeed_not_mem_text (source : String) : '\n' ∉ (text source).toList := by
  simp [text, lineFeed_not_mem_escape]

end FlatSum.Quoted
