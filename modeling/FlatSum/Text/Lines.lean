namespace FlatSum

/-! Cutting a text into lines that keep their terminators. -/

/-- Cuts a text behind every character that ends a line; `ends` sees the character and the one after
it. A text without characters has no line. -/
def splitAfter (ends : Char → Option Char → Bool) (text : List Char) : List (List Char) :=
  text.foldr
    (fun c lines =>
      match lines with
      | [] => [[c]]
      | line :: more => if ends c line.head? then [c] :: line :: more else (c :: line) :: more)
    []

/-- Lines end at a line feed alone. -/
def linesOf (text : List Char) : List (List Char) :=
  splitAfter (fun c _ => c == '\n') text

/-- The line without its line feed, and without one carriage return that stands right before it. -/
def withoutLineEnd (line : List Char) : List Char :=
  match line.reverse with
  | '\n' :: '\r' :: rest => rest.reverse
  | '\n' :: rest => rest.reverse
  | _ => line

end FlatSum
