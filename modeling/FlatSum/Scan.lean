import FlatSum.Cursor
import FlatSum.Span

namespace FlatSum

/-! What reading a text from some place on leaves: the tokens read, what ended the reading, and where.
The tokens before a fault are kept, since the log shows them although the result does not. -/

structure Scan where
  nodes : List (Spanned Token)
  error : Option ScanError
  stop : Cursor
deriving DecidableEq, Repr

namespace Scan

def result (scan : Scan) : Except ScanError (List (Spanned Token)) :=
  match scan.error with
  | none => .ok scan.nodes
  | some error => .error error

end Scan

namespace Cursor

/-- Reads on behind the tokens already read, which stand in reverse. Ends before the first character
that begins no token and is no space, and where a numeral does not fit. -/
def scanOnto (nodes : List (Spanned Token)) (position : Nat) : List Char → Scan
  | [] => ⟨nodes.reverse, none, ⟨position, []⟩⟩
  | c :: rest =>
      if c.isDigit then
        let numeral := number ⟨position, c :: rest⟩
        match numeral.1 with
        | .ok value =>
            scanOnto (⟨.number value, ⟨position, numeral.2.position⟩⟩ :: nodes)
              numeral.2.position numeral.2.rest
        | .error error => ⟨nodes.reverse, some error, numeral.2⟩
      else
        match Operator.ofChar? c with
        | some operator =>
            scanOnto (⟨.operator operator, ⟨position, position + 1⟩⟩ :: nodes)
              (position + 1) rest
        | none =>
            if c = ' ' then scanOnto nodes (position + 1) rest
            else ⟨nodes.reverse, some (.invalidCharacter c position), ⟨position, c :: rest⟩⟩
termination_by text => text.length
decreasing_by
  · exact rest_number_length_lt rfl (by assumption)
  · simp
  · simp

def tokenize (cursor : Cursor) : Scan := scanOnto [] cursor.position cursor.rest

end Cursor

def Scan.ofText (text : List Char) : Scan := (Cursor.start text).tokenize

end FlatSum
