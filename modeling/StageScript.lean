import StageScript.Assembly.Draft
import StageScript.Cli.Folder
import StageScript.Listing
import StageScript.Machine.Text
import StageScript.Text.Json.Reading
import StageScript.Main
import StageScript.Proofs.Results
import StageScript.Proofs.Dispatch
import StageScript.Proofs.Session
import StageScript.Proofs.Footprint
import StageScript.Proofs.Calls
import StageScript.Proofs.Memory
import StageScript.Proofs.Scopes
import StageScript.Proofs.Rollback
import StageScript.Proofs.Refusal
import StageScript.Proofs.Lockstep
import StageScript.Proofs.Atomicity
import StageScript.Proofs.Operation
import StageScript.Proofs.Accounting
import StageScript.Proofs.Lifetime
import StageScript.Proofs.Nesting
import StageScript.Proofs.Staleness
import StageScript.Proofs.Resolution
import StageScript.Proofs.Redirection
import StageScript.Proofs.Authorship
import StageScript.Proofs.Indifference
import StageScript.Proofs.Invisibility
import StageScript.Proofs.Encoding
import StageScript.Proofs.Reading
import StageScript.Proofs.Drafting
import StageScript.Proofs.Labels
import StageScript.Proofs.Agreement
import StageScript.Proofs.Interior
import StageScript.Proofs.Confinement
import StageScript.Proofs.Rewriting
import StageScript.Proofs.Transcription
import StageScript.Proofs.Layouts
import StageScript.Proofs.Expansion
import StageScript.Proofs.Reporting
import StageScript.Proofs.Resumption
import StageScript.Proofs.Emission
import StageScript.Proofs.Failover
import StageScript.Proofs.Conservation
import StageScript.Proofs.Loops
import StageScript.Proofs.Soundness
import StageScript.Proofs.Delays
import StageScript.Proofs.Areas
import StageScript.Proofs.Checked
import StageScript.Proofs.Safety
import StageScript.Proofs.Unwinding
import StageScript.Proofs.Handles
import StageScript.Proofs.References
import StageScript.Proofs.SingleLine
import StageScript.Proofs.Fetching
import StageScript.Proofs.Timing
import StageScript.Proofs.FixedLoads
import StageScript.Proofs.NoOps
import StageScript.Proofs.Yielding
import StageScript.Proofs.Tables
import StageScript.Proofs.Packages
import StageScript.Proofs.Skipping
import StageScript.Proofs.Disguise
import StageScript.Proofs.Locality
import StageScript.Proofs.Decoder
import StageScript.Proofs.Budget
import StageScript.Proofs.Commuting
import StageScript.Proofs.Operands
import StageScript.Proofs.ExtensionOrder
