import RowSelection.Declaration.Grammar
import RowSelection.Declaration.ListForm
import RowSelection.Declaration.RoundTrip
import RowSelection.Journal
import RowSelection.Predicate.Condition
import RowSelection.Proofs.Admission
import RowSelection.Proofs.ColumnNames
import RowSelection.Proofs.Commuting
import RowSelection.Proofs.DeclarationFormat
import RowSelection.Proofs.DeclaredAgain
import RowSelection.Proofs.DeclaredKey
import RowSelection.Proofs.FirstFault
import RowSelection.Proofs.Fitting
import RowSelection.Proofs.HandedOut
import RowSelection.Proofs.HeldForms
import RowSelection.Proofs.Indistinguishable
import RowSelection.Proofs.KeyCount
import RowSelection.Proofs.Lookup
import RowSelection.Proofs.Rebinding
import RowSelection.Proofs.Replay
import RowSelection.Proofs.RowEquality
import RowSelection.Proofs.SessionRecord
import RowSelection.Proofs.Simulation
import RowSelection.Proofs.SingleColumn
import RowSelection.Proofs.StoredPredicate
import RowSelection.Proofs.StoredRow
import RowSelection.Proofs.StoredSchema
import RowSelection.Proofs.StrictRange
import RowSelection.Proofs.TagAndHost
import RowSelection.Proofs.TestOrder
