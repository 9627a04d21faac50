import Lifecycle.Config.Loading
import Lifecycle.Failure.Code
import Lifecycle.Json.Reading
import Lifecycle.Json.Writing
import Lifecycle.Rehearsal.Stage
import Lifecycle.Proofs.Reading
import Lifecycle.Proofs.Registry.Lookup
import Lifecycle.Proofs.Registry.Reachable
import Lifecycle.Proofs.Registry.Placement
import Lifecycle.Proofs.Registry.Edges
import Lifecycle.Proofs.Registry.FailedRegistration
import Lifecycle.Proofs.Registry.Mirror
import Lifecycle.Proofs.Registry.Growth
import Lifecycle.Proofs.Registry.KnownTypes
import Lifecycle.Proofs.Registry.Steady
import Lifecycle.Proofs.Registry.Seeded
import Lifecycle.Proofs.Registry.StableOrder
import Lifecycle.Proofs.Registry.Resemblance
import Lifecycle.Proofs.Registry.Tracing
import Lifecycle.Proofs.Registry.Effect
import Lifecycle.Proofs.Registry.NewTypes
import Lifecycle.Proofs.Forest.Run
import Lifecycle.Proofs.Forest.Ancestry
import Lifecycle.Proofs.Forest.History
import Lifecycle.Proofs.Forest.KnownTypes
import Lifecycle.Proofs.Forest.Siblings
import Lifecycle.Proofs.Forest.Commuting
import Lifecycle.Proofs.Forest.Building
import Lifecycle.Proofs.Dispatch.Watching
import Lifecycle.Proofs.Dispatch.Calls
import Lifecycle.Proofs.Dispatch.Agreement
import Lifecycle.Proofs.Dispatch.Outputs
import Lifecycle.Proofs.Dispatch.Phases
import Lifecycle.Proofs.Dispatch.Failures
import Lifecycle.Proofs.Toml.Keys
import Lifecycle.Proofs.Toml.Strings
import Lifecycle.Proofs.Config.Meaning
import Lifecycle.Proofs.Config.Documents
import Lifecycle.Proofs.Config.Records
import Lifecycle.Proofs.Config.Merging
import Lifecycle.Proofs.Config.Layers
import Lifecycle.Proofs.Config.Overriding
import Lifecycle.Proofs.Config.Writing
import Lifecycle.Proofs.Text.Digits
import Lifecycle.Proofs.Json.Numerals
import Lifecycle.Proofs.Json.Values
import Lifecycle.Proofs.Scope.Contexts
import Lifecycle.Proofs.Registry.Alone
import Lifecycle.Proofs.Identity.QualifiedNames
import Lifecycle.Proofs.Identity.SharedNames
import Lifecycle.Proofs.Config.Seeding
import Lifecycle.Proofs.Dispatch.Accounts
import Lifecycle.Proofs.Dispatch.FirstWriter
import Lifecycle.Proofs.Text.Trimming
import Lifecycle.Proofs.Text.Pieces
import Lifecycle.Proofs.Failure.Codes
import Lifecycle.Proofs.Phase.Parts
import Lifecycle.Proofs.Phase.Spellings
