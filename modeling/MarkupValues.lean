import MarkupValues.Describe
import MarkupValues.Error
import MarkupValues.Expr.Json
import MarkupValues.Options.Json
import MarkupValues.Proofs.Code.WellFormed
import MarkupValues.Proofs.Binary.Rounding
import MarkupValues.Proofs.Binary.Text
import MarkupValues.Proofs.Code.StringLiteral
import MarkupValues.Proofs.Numeric.Decimal
import MarkupValues.Proofs.Code.Characters
import MarkupValues.Proofs.Code.Forms
import MarkupValues.Proofs.Code.Unambiguous
import MarkupValues.Proofs.Numeric.Tokens
import MarkupValues.Proofs.Numeric.Layout
import MarkupValues.Proofs.Numeric.Greedy
import MarkupValues.Proofs.Reading.Results
import MarkupValues.Proofs.Reading.Parts
import MarkupValues.Proofs.Code.Scanner
import MarkupValues.Proofs.Session.Closed
import MarkupValues.Proofs.Code.VerbatimString
import MarkupValues.Proofs.Reading.Failures
import MarkupValues.Proofs.Registry.Failures
import MarkupValues.Proofs.Registry.Names
import MarkupValues.Proofs.Registry.Runs
import MarkupValues.Proofs.Expr.Renaming
import MarkupValues.Proofs.Code.Qualification
import MarkupValues.Proofs.Session.Companions
import MarkupValues.Proofs.Text.Spelling
import MarkupValues.Proofs.Registry.Spellings
import MarkupValues.Proofs.Session.Fallback
import MarkupValues.Proofs.Session.Dispatch
import MarkupValues.Proofs.Session.Log
import MarkupValues.Proofs.Reading.Companions
import MarkupValues.Proofs.Registry.Auxiliary
import MarkupValues.Proofs.Json.Strings
import MarkupValues.Proofs.Json.Numbers
import MarkupValues.Proofs.Json.RoundTrip
import MarkupValues.Proofs.Json.Fields
import MarkupValues.Proofs.Options.Json
import MarkupValues.Proofs.Text.Caseless
import MarkupValues.Proofs.TimeSpan.Written
import MarkupValues.Proofs.TimeSpan.Words
import MarkupValues.Proofs.TimeSpan.ConstantForm
import MarkupValues.Proofs.Reading.Timing
import MarkupValues.Proofs.Json.Nesting
import MarkupValues.Proofs.Expr.Json
import MarkupValues.Proofs.Color.Hex
import MarkupValues.Proofs.Reading.Color
import MarkupValues.Proofs.Reading.Coordinates
import MarkupValues.Proofs.Reading.Keyword
import MarkupValues.Proofs.Reading.Points
import MarkupValues.Proofs.Reading.GridLength
import MarkupValues.Proofs.Color.Linear
import MarkupValues.Proofs.Reading.FontWeight
