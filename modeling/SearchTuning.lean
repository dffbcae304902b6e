import SearchTuning.Main
import SearchTuning.Handover
import SearchTuning.Tools
import SearchTuning.Proofs.QueryString.Phrase
import SearchTuning.Proofs.Json.Phrase
import SearchTuning.Proofs.Lifecycle.Failure
import SearchTuning.Proofs.Store.Counting
import SearchTuning.Proofs.Store.Frame
import SearchTuning.Proofs.Store.Freshness
import SearchTuning.Proofs.Store.Numbering
import SearchTuning.Proofs.Store.Orphans
import SearchTuning.Proofs.QueryString.Parameters
import SearchTuning.Proofs.Request.Query
import SearchTuning.Proofs.Double.Rounding
import SearchTuning.Proofs.Json.Number
import SearchTuning.Proofs.Json.Scalar
import SearchTuning.Proofs.Json.Readable
import SearchTuning.Proofs.Json.Rendering
import SearchTuning.Proofs.Request.Document
import SearchTuning.Proofs.Lifecycle.Scope
import SearchTuning.Proofs.Store.Isolation
import SearchTuning.Proofs.Store.Views
import SearchTuning.Proofs.Tries.Submitted
import SearchTuning.Proofs.Store.Tuning
import SearchTuning.Proofs.Request.Preview
import SearchTuning.Proofs.Lifecycle.Events
import SearchTuning.Proofs.Store.History
import SearchTuning.Proofs.Interleaving.Creation
import SearchTuning.Proofs.Tools.Simulation
import SearchTuning.Proofs.Template.Values
import SearchTuning.Proofs.Template.Locality
import SearchTuning.Proofs.Template.Unresolved
import SearchTuning.Proofs.Template.OnePass
import SearchTuning.Proofs.Template.Naming
import SearchTuning.Proofs.QueryString.Grammar
import SearchTuning.Proofs.QueryString.Gathering
import SearchTuning.Proofs.Lifecycle.Creation
import SearchTuning.Proofs.Lifecycle.Naming
import SearchTuning.Proofs.Lifecycle.Copying
import SearchTuning.Proofs.Lifecycle.Spelling
import SearchTuning.Proofs.CommandLine
import SearchTuning.Proofs.Variables.Calls
