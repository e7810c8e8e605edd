import VestingTable.Main
import VestingTable.Proofs.Assembly.Reading
import VestingTable.Proofs.Assembly.Holding
import VestingTable.Proofs.Assembly.Soundness
import VestingTable.Proofs.Assembly.Offence
import VestingTable.Proofs.Assembly.Calls
import VestingTable.Proofs.Json.Numeral
import VestingTable.Proofs.Json.Scanning
import VestingTable.Proofs.Json.Nesting
import VestingTable.Proofs.Schedule.RoundTrip
import VestingTable.Proofs.Assembly.Sentinel
import VestingTable.Proofs.Numeral
import VestingTable.Proofs.Binary64.Whole
import VestingTable.Proofs.Binary64.WholeText
import VestingTable.Proofs.Decimal
import VestingTable.Proofs.Agreement
import VestingTable.Proofs.Cell.Whole
import VestingTable.Proofs.Table.Agreement
import VestingTable.Proofs.Workbook.Grid
import VestingTable.Proofs.Workbook.Stored
import VestingTable.Proofs.Workbook.Agreement
import VestingTable.Proofs.Cell.Size
import VestingTable.Proofs.Files.Folder
import VestingTable.Proofs.Session
import VestingTable.Proofs.Table.Rows
import VestingTable.Proofs.Assembly.Counting
import VestingTable.Proofs.Conversion.Keeping
import VestingTable.Proofs.Conversion.EndToEnd
import VestingTable.Proofs.Cell.Spelling
import VestingTable.Proofs.Cell.Failing
import VestingTable.Proofs.Cell.Rounding
import VestingTable.Proofs.Table.Numbering
import VestingTable.Proofs.Assembly.Order
import VestingTable.Proofs.Conversion.Order
import VestingTable.Proofs.Assembly.Frame
import VestingTable.Proofs.Assembly.Stale
import VestingTable.Proofs.Assembly.Aside
import VestingTable.Proofs.Json.Grammar
import VestingTable.Proofs.Json.Squeezing
import VestingTable.Proofs.DecimalText
import VestingTable.Proofs.Schedule.Shape
import VestingTable.Proofs.Cell.Normal
import VestingTable.Proofs.Cell.Rewriting
import VestingTable.Proofs.Table.Rewriting
import VestingTable.Proofs.Assembly.Relevance
import VestingTable.Proofs.Table.Precedence
import VestingTable.Proofs.Csv
import VestingTable.Proofs.Table.Written
import VestingTable.Proofs.Binary64.Order
import VestingTable.Proofs.Calendar.Succession
import VestingTable.Proofs.Cell.Timestamp
import VestingTable.Proofs.Table.Rearrangement
import VestingTable.Proofs.Layout
import VestingTable.Proofs.Settings
