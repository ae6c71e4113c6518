import FlatSum.Text.Lines

namespace FlatSum

/-! Lines of a source as a diagnostic counts them. -/

/-- A line with its number, counted from one, the offset of its first character, and its characters
up to and with the one that ends it. -/
structure SourceLine where
  number : Nat
  start : Nat
  text : List Char
deriving DecidableEq, Repr

namespace SourceLine

/-- Line feed, vertical tab, form feed, carriage return, next line, and the line and paragraph
separators. -/
def isTerminator (c : Char) : Bool :=
  c ∈ ['\n', '\x0b', '\x0c', '\r', '\u0085', '\u2028', '\u2029']

/-- A carriage return before a line feed leaves the end of the line to it. -/
def ends (c : Char) (next : Option Char) : Bool :=
  isTerminator c && !(c == '\r' && next == some '\n')

/-- The offset behind the last character. -/
def stop (line : SourceLine) : Nat := line.start + line.text.length

/-- Numbers lines on from `number` and places them on from `start`. -/
def placed (number start : Nat) : List (List Char) → List SourceLine
  | [] => []
  | text :: rest => ⟨number, start, text⟩ :: placed (number + 1) (start + text.length) rest

/-- The lines of a source. One without characters has a single empty line. -/
def ofSource (source : List Char) : List SourceLine :=
  match splitAfter ends source with
  | [] => [⟨1, 0, []⟩]
  | lines => placed 1 0 lines

/-- The last line that begins at or before the offset. -/
def at? (source : List Char) (offset : Nat) : Option SourceLine :=
  if offset ≤ source.length then
    (ofSource source).reverse.find? fun line => decide (line.start ≤ offset)
  else none

end SourceLine

end FlatSum
