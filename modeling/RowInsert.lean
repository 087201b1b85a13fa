import RowInsert.Record
import RowInsert.Report
import RowInsert.Session.Member
import RowInsert.Value.Checked
import RowInsert.Proofs.Columns
import RowInsert.Proofs.Rows
import RowInsert.Proofs.Rule
import RowInsert.Proofs.Quoting
import RowInsert.Proofs.ReadBack
import RowInsert.Proofs.Precedence
import RowInsert.Proofs.Observation
import RowInsert.Proofs.Attempt
import RowInsert.Proofs.Events
import RowInsert.Proofs.Metrics
import RowInsert.Proofs.Accounting
import RowInsert.Proofs.Calls
import RowInsert.Proofs.Reporting
import RowInsert.Proofs.Independence
import RowInsert.Proofs.Identifiers
import RowInsert.Proofs.Progress
import RowInsert.Proofs.Kinds
import RowInsert.Proofs.Ceiling
import RowInsert.Proofs.Representation
import RowInsert.Proofs.Placeholders
import RowInsert.Proofs.Validation
import RowInsert.Proofs.Series
import RowInsert.Proofs.JsonReader
import RowInsert.Proofs.Sorting
import RowInsert.Proofs.Numerals
import RowInsert.Proofs.JsonValues
import RowInsert.Proofs.LogLines
import RowInsert.Proofs.Classification
import RowInsert.Proofs.Composition
import RowInsert.Proofs.Origins
import RowInsert.Proofs.Sessions
