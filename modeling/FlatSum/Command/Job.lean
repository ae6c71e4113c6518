import FlatSum.Text.Blank
import FlatSum.Text.Decimal
import FlatSum.Text.Lines

namespace FlatSum

/-! Expressions to work on, each with the name that diagnostics give it. -/

structure Job where
  name : String
  source : String
deriving DecidableEq, Repr

namespace Job

def ofExpression (source : String) : Job := ⟨"<input>", source⟩

/-- One job for each line of a file that is not blank. It is named after the file and the number of
the line, in which blank lines count. -/
def ofContents (path contents : String) : List Job :=
  let numbered := ((linesOf contents.toList).map withoutLineEnd).zipIdx 1
  (numbered.filter fun line => !isBlankText line.1).map fun line =>
    ⟨path ++ ":" ++ Decimal.ofNat line.2, String.ofList line.1⟩

end Job

end FlatSum
