namespace FlatSum

/-! Pieces of text with the ink they are drawn in. Layout is decided without regard to colour; a
report drawn without it is the same text with the escape sequences left out. -/

inductive Ink where
  | alert
  | margin
  | skipped
  | plain
  | bare
deriving DecidableEq, Repr

/-- The parameters of the escape sequence; bare text has none. -/
def Ink.code? : Ink → Option String
  | .alert => some "31"
  | .margin => some "38;5;246"
  | .skipped => some "38;5;240"
  | .plain => some "38;5;249"
  | .bare => none

structure Piece where
  ink : Ink
  text : String
deriving DecidableEq, Repr

def Piece.render (colored : Bool) (piece : Piece) : String :=
  match piece.ink.code? with
  | some code =>
      if colored then "\x1b[" ++ code ++ "m" ++ piece.text ++ "\x1b[0m" else piece.text
  | none => piece.text

abbrev Row := List Piece

/-- The row as a line of its own. -/
def Row.render (colored : Bool) (row : Row) : String :=
  String.join (row.map (Piece.render colored)) ++ "\n"

end FlatSum
