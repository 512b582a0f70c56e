import PodTable.Settings.File
import PodTable.Table.Paint
import PodTable.Table.Written
import PodTable.Proofs.Pod.Failure
import PodTable.Proofs.Pod.Status
import PodTable.Proofs.Table.Batch
import PodTable.Proofs.Number.Decimal
import PodTable.Proofs.Number.Rounding
import PodTable.Proofs.Number.Precision
import PodTable.Proofs.Quantity.Spelling
import PodTable.Proofs.Quantity.Amount
import PodTable.Proofs.Number.Shortest
import PodTable.Proofs.Quantity.Numeral
import PodTable.Proofs.Number.Nearest
import PodTable.Proofs.Quantity.Grammar
import PodTable.Proofs.Outcome
import PodTable.Proofs.Table.Cells
import PodTable.Proofs.Table.Usage
import PodTable.Proofs.Table.Paint
import PodTable.Proofs.Table.Columns
import PodTable.Proofs.Settings.Loading
import PodTable.Proofs.Files.Growth
import PodTable.Proofs.Yaml.Written
import PodTable.Proofs.Settings.Record
import PodTable.Proofs.Settings.Saving
import PodTable.Proofs.Settings.Register
import PodTable.Proofs.Checked.Faults
import PodTable.Proofs.Pod.Sections
import PodTable.Proofs.Pod.Findings
import PodTable.Proofs.Pod.Totals
import PodTable.Proofs.Pod.Accumulator
import PodTable.Proofs.Number.Binary64
import PodTable.Proofs.Time.Seconds
import PodTable.Proofs.Time.Duration
import PodTable.Proofs.Time.Calendar
import PodTable.Proofs.Time.Moment
import PodTable.Proofs.Time.Denotation
import PodTable.Proofs.Agreement
import PodTable.Proofs.Document.Alike
import PodTable.Proofs.Pod.Alike
import PodTable.Proofs.Document.Rearranged
import PodTable.Proofs.Pod.Rearranged
import PodTable.Proofs.Table.Rearranged
import PodTable.Proofs.Document.Edited
import PodTable.Proofs.Pod.Edited
import PodTable.Proofs.Table.Written
import PodTable.Proofs.Table.Flags
import PodTable.Proofs.Pod.Mistyped
import PodTable.Proofs.Table.Verdict
import PodTable.Proofs.Table.Aged
import PodTable.Proofs.Color.Spelling
import PodTable.Proofs.Checked.Record
import PodTable.Proofs.Table.Palette
import PodTable.Proofs.Settings.Entries
import PodTable.Proofs.Time.Written
import PodTable.Proofs.Pod.Record
import PodTable.Proofs.Table.Labels
