import FlatSum.Main
import FlatSum.Proofs.Expression.Value
import FlatSum.Proofs.Extension
import FlatSum.Proofs.TextFault
import FlatSum.Proofs.TokenFault
import FlatSum.Proofs.Cover
import FlatSum.Proofs.Spacing
import FlatSum.Proofs.Writing
import FlatSum.Proofs.ErrorSpan
import FlatSum.Proofs.EventTrace
import FlatSum.Proofs.StagesKept
import FlatSum.Proofs.Batch
import FlatSum.Proofs.LogOptions
import FlatSum.Proofs.TunedArguments
import FlatSum.Proofs.FileLines
import FlatSum.Proofs.Resumption
import FlatSum.Proofs.StreamHistory
import FlatSum.Proofs.CheckedEvaluation
import FlatSum.Proofs.NumeralRun
import FlatSum.Proofs.OneLine
import FlatSum.Proofs.TokenRows
import FlatSum.Proofs.Listing
import FlatSum.Proofs.LogLines
import FlatSum.Proofs.FailureTexts
import FlatSum.Proofs.CursorHistory
import FlatSum.Proofs.TargetLevels
import FlatSum.Proofs.SpanHull
