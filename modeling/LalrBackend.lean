import LalrBackend.Main
import LalrBackend.Calculator
import LalrBackend.Parser
import LalrBackend.Json.Edit
import LalrBackend.Proofs.Packed.Spelling
import LalrBackend.Proofs.Packed.Canonical
import LalrBackend.Proofs.Packed.Lines
import LalrBackend.Proofs.Emission.EmbeddedTables
import LalrBackend.Proofs.Table.Row
import LalrBackend.Proofs.Table.Run
import LalrBackend.Proofs.Table.Layout
import LalrBackend.Proofs.Table.Compaction
import LalrBackend.Proofs.Grammar.Calls
import LalrBackend.Proofs.Reduction.Environment
import LalrBackend.Proofs.Reduction.Labels
import LalrBackend.Proofs.Reduction.Meaning
import LalrBackend.Proofs.Reduction.Dispatch
import LalrBackend.Proofs.Text.Mark
import LalrBackend.Proofs.Reduction.Order
import LalrBackend.Proofs.Reduction.Lines
import LalrBackend.Proofs.Reduction.LabelScope
import LalrBackend.Proofs.Cache.Name
import LalrBackend.Proofs.Json.Reading
import LalrBackend.Proofs.Cache.Key
import LalrBackend.Proofs.Cache.Entry
import LalrBackend.Proofs.Cache.Store
import LalrBackend.Proofs.Emission.CachedRuns
import LalrBackend.Proofs.Emission.RejectedEntry
import LalrBackend.Proofs.Emission.Sessions
import LalrBackend.Proofs.Emission.SharedHit
import LalrBackend.Proofs.Emission.ActionDispatch
import LalrBackend.Proofs.Emission.CutOff
import LalrBackend.Proofs.Code.Base
import LalrBackend.Proofs.Reduction.Execution
import LalrBackend.Proofs.Reduction.MethodRun
import LalrBackend.Proofs.Table.Arrival
import LalrBackend.Proofs.Cache.Digest
import LalrBackend.Proofs.Cache.Header
import LalrBackend.Proofs.Code.Instance
import LalrBackend.Proofs.Emission.Acceptance
import LalrBackend.Proofs.Emission.StartProduction
import LalrBackend.Proofs.Reduction.Simulation
import LalrBackend.Proofs.Emission.ProgramReductions
import LalrBackend.Proofs.Table.BestDefault
import LalrBackend.Proofs.Table.Capacity
import LalrBackend.Proofs.Emission.SymbolConstants
import LalrBackend.Proofs.Packed.Truncation
import LalrBackend.Proofs.Packed.Escapes
import LalrBackend.Proofs.Text.Splicing
import LalrBackend.Proofs.Emission.UserCode
import LalrBackend.Proofs.Table.StrayStates
import LalrBackend.Proofs.Emission.MisshapenEntry
import LalrBackend.Proofs.Calculator.Run
