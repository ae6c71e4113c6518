import FlatSum.Evaluation
import FlatSum.Report.Ink
import FlatSum.Report.SourceLine
import FlatSum.Text.Blank
import FlatSum.Text.Width

namespace FlatSum

/-! A diagnostic: a headline and, where the failure has a place, the source line with the place
marked under it. -/

structure Report where
  failure : Failure
  span : Option Span
  name : String
  source : String
deriving DecidableEq, Repr

/-- A marked line: the span lies in it, or at least begins there. -/
structure Marking where
  name : String
  line : SourceLine
  span : Span
  label : String
deriving DecidableEq, Repr

namespace Marking

def blanks (count : Nat) : String := String.ofList (List.replicate count ' ')

/-- A run of equal pieces, each drawn by itself. -/
def run (count : Nat) (ink : Ink) (text : String) : Row := List.replicate count ⟨ink, text⟩

def numberText (marking : Marking) : String := Decimal.ofNat marking.line.number

def column (marking : Marking) : Nat := marking.span.start - marking.line.start + 1

/-- The characters drawn: the line without the blanks at its end. -/
def drawn (marking : Marking) : List Char := trimEnd marking.line.text

/-- Where in the line the label is attached: the middle of the span. -/
def anchor (marking : Marking) : Nat :=
  (marking.span.start + marking.span.stop) / 2 - marking.line.start

/-- Whether the character at that index of the line is marked. -/
def marks (marking : Marking) (index : Nat) : Bool :=
  marking.span.holds (marking.line.start + index)

/-- Columns from a tab to the next multiple of four, counted in characters. -/
def tabWidth (index : Nat) : Nat := 4 - index % 4

def cellWidth (index : Nat) (c : Char) : Nat :=
  if c = '\t' then tabWidth index else if isBlank c then 1 else columnWidth c

/-- The cells under the line: one for each character up to the second behind the span. Behind the
drawn characters a cell takes one column. -/
def cells (marking : Marking) : List (Nat × Nat) :=
  let count := marking.span.stop - marking.line.start + 2
  let widths := (marking.drawn.zipIdx.map fun cell => cellWidth cell.2 cell.1).take count
  (widths ++ List.replicate (count - widths.length) 1).zipIdx

def opening (marking : Marking) : Row :=
  let place := marking.name ++ ":" ++ marking.numberText ++ ":" ++ Decimal.ofNat marking.column
  [⟨.bare, blanks (marking.numberText.length + 2)⟩, ⟨.margin, "╭"⟩, ⟨.margin, "─"⟩, ⟨.margin, "["⟩,
    ⟨.bare, " " ++ place ++ " "⟩, ⟨.margin, "]"⟩]

def spacer (marking : Marking) : Row :=
  [⟨.bare, blanks (marking.numberText.length + 2)⟩, ⟨.margin, "│"⟩]

/-- What stands before the text of a row that shows no source line. -/
def skippedMargin (marking : Marking) : Row :=
  [⟨.bare, " "⟩, ⟨.skipped, blanks (marking.numberText.length + 1) ++ "│"⟩, ⟨.bare, " "⟩]

def drawnChar (marking : Marking) (c : Char) (index : Nat) : Row :=
  let ink := if marking.marks index then Ink.alert else Ink.plain
  if c = '\t' then run (tabWidth index) ink " "
  else if isBlank c then [⟨ink, " "⟩]
  else [⟨ink, String.singleton c⟩]

def sourceRow (marking : Marking) : Row :=
  [⟨.bare, " "⟩, ⟨.margin, marking.numberText ++ " │"⟩, ⟨.bare, " "⟩] ++
    marking.drawn.zipIdx.flatMap fun cell => marking.drawnChar cell.1 cell.2

def underlineCell (marking : Marking) (width index : Nat) : Row :=
  if width = 0 then []
  else if index = marking.anchor then
    if marking.span.isEmpty then ⟨.alert, "│"⟩ :: run (width - 1) .alert " "
    else ⟨.alert, "┬"⟩ :: run (width - 1) .alert "─"
  else if marking.marks index then run width .alert "─"
  else run width .bare " "

def underlineRow (marking : Marking) : Row :=
  marking.skippedMargin ++
    marking.cells.flatMap fun cell => marking.underlineCell cell.1 cell.2

def pointerCell (marking : Marking) (width index : Nat) : Row :=
  if width = 0 then []
  else if index < marking.anchor then run width .bare " "
  else if index = marking.anchor then ⟨.alert, "╰"⟩ :: run (width - 1) .alert "─"
  else run width .alert "─"

def pointerRow (marking : Marking) : Row :=
  marking.skippedMargin ++
    (marking.cells.flatMap fun cell => marking.pointerCell cell.1 cell.2) ++
    [⟨.bare, " " ++ marking.label⟩]

def closing (marking : Marking) : Row :=
  [⟨.margin, String.ofList (List.replicate (marking.numberText.length + 2) '─') ++ "╯"⟩]

/-- A span that runs past the end of its line leaves a gap where the line would be drawn. -/
def rows (marking : Marking) : List Row :=
  let body :=
    if marking.span.stop ≤ marking.line.stop then
      [marking.sourceRow, marking.underlineRow, marking.pointerRow]
    else [marking.skippedMargin]
  [marking.opening, marking.spacer] ++ body ++ [marking.closing]

end Marking

namespace Report

def headline (report : Report) : Row :=
  [⟨.alert, "[" ++ report.failure.code ++ "] Error:"⟩,
    ⟨.bare, " " ++
      match report.span with
      | some _ => report.failure.title
      | none => report.failure.description⟩]

/-- The line to mark. There is none if a bound of the span lies outside the source. -/
def marking? (report : Report) : Option Marking :=
  report.span.bind fun span =>
    let source := report.source.toList
    if span.isEmpty || decide (span.stop - 1 ≤ source.length) then
      (SourceLine.at? source span.start).map fun line =>
        ⟨report.name, line, span, report.failure.label⟩
    else none

def rows (report : Report) : List Row :=
  report.headline ::
    match report.marking? with
    | some marking => marking.rows
    | none => []

def render (report : Report) (colored : Bool) : String :=
  String.join (report.rows.map (Row.render colored))

end Report

/-- The diagnostic of an evaluation that failed. -/
def Evaluation.report? (evaluation : Evaluation) (name : String) : Option Report :=
  match evaluation.result with
  | .ok _ => none
  | .error failure => some ⟨failure, evaluation.errorSpan, name, evaluation.source⟩

end FlatSum
