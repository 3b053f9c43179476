import ForeignGlue.Call.Model
import ForeignGlue.Json.Decimal
import ForeignGlue.Options.Format
import ForeignGlue.Session
import ForeignGlue.Proofs.Call.Acceptance
import ForeignGlue.Proofs.Descriptor.Runs
import ForeignGlue.Proofs.Generation.MoreExternals
import ForeignGlue.Proofs.Generation.Resolution
import ForeignGlue.Proofs.Host.ShapeDecisions
import ForeignGlue.Proofs.Host.ShapeDispatch
import ForeignGlue.Proofs.Host.SlotTypes
import ForeignGlue.Proofs.HostForm.Meaning
import ForeignGlue.Proofs.Linkage.GroupPartition
import ForeignGlue.Proofs.ScalarIndex.Saving
import ForeignGlue.Proofs.Session.Artifacts
import ForeignGlue.Proofs.Source.ForeignText
import ForeignGlue.Proofs.Expression.Grammar
import ForeignGlue.Proofs.Expression.Exact
import ForeignGlue.Proofs.Linkage.SymbolNames
import ForeignGlue.Proofs.ScalarIndex.WellFormed
import ForeignGlue.Proofs.Host.FileScope
import ForeignGlue.Proofs.Call.EmptyArrays
import ForeignGlue.Proofs.Source.TokenCuts
import ForeignGlue.Proofs.Source.FewestLines
import ForeignGlue.Proofs.CSource.StringLiteral
import ForeignGlue.Proofs.CSource.Escaping
import ForeignGlue.Proofs.Expression.Mentions
import ForeignGlue.Proofs.Call.Influence
import ForeignGlue.Proofs.Call.ArgumentOrder
import ForeignGlue.Proofs.Host.Messages
import ForeignGlue.Proofs.Host.AxisOrder
import ForeignGlue.Proofs.Host.FaultNumber
import ForeignGlue.Proofs.Host.SizingLocals
import ForeignGlue.Proofs.Host.StringPassing
import ForeignGlue.Proofs.Interface.ShapeEntries
import ForeignGlue.Proofs.HostForm.LetterCase
import ForeignGlue.Proofs.Inventory.Timers
import ForeignGlue.Proofs.Linkage.InitialValues
import ForeignGlue.Proofs.Linkage.HeadLines
import ForeignGlue.Proofs.Inventory.TimedWrappers
import ForeignGlue.Proofs.Linkage.ShapeScope
import ForeignGlue.Proofs.Linkage.DeclaredAxes
import ForeignGlue.Proofs.ScalarIndex.Agreement
import ForeignGlue.Proofs.Expression.Readable
import ForeignGlue.Proofs.Expression.MaximalMunch
