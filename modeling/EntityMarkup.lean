import EntityMarkup.Main
import EntityMarkup.Number.Word
import EntityMarkup.Scenario.Registry
import EntityMarkup.Scene.Described
import EntityMarkup.Proofs.Build.Run
import EntityMarkup.Proofs.Build.Strictness
import EntityMarkup.Proofs.Build.Failure
import EntityMarkup.Proofs.Build.Asking
import EntityMarkup.Proofs.Build.Call
import EntityMarkup.Proofs.Build.Change
import EntityMarkup.Proofs.Build.Sequence
import EntityMarkup.Proofs.Build.Completion
import EntityMarkup.Proofs.Build.Bound
import EntityMarkup.Proofs.Build.Lifecycle
import EntityMarkup.Proofs.Registry.Populated
import EntityMarkup.Proofs.Scenario.Kept
import EntityMarkup.Proofs.Build.Offer
import EntityMarkup.Proofs.Markup.Classes
import EntityMarkup.Proofs.Markup.Scans
import EntityMarkup.Proofs.Markup.TagScans
import EntityMarkup.Proofs.Markup.Completeness
import EntityMarkup.Proofs.Build.Opening
import EntityMarkup.Proofs.Markup.Coverage
import EntityMarkup.Proofs.Markup.Nesting
import EntityMarkup.Proofs.Markup.Found
import EntityMarkup.Proofs.Markup.Printing
import EntityMarkup.Proofs.Markup.Behind
import EntityMarkup.Proofs.Markup.Joined
import EntityMarkup.Proofs.Build.Lines
import EntityMarkup.Proofs.Scene.Lookup
import EntityMarkup.Proofs.Scene.Opened
import EntityMarkup.Proofs.Scene.Built
import EntityMarkup.Proofs.Scene.Rows
import EntityMarkup.Proofs.Markup.Truncated
import EntityMarkup.Proofs.Build.Alike
import EntityMarkup.Proofs.Markup.Refusals
import EntityMarkup.Proofs.Build.Judged
import EntityMarkup.Proofs.Build.Received
import EntityMarkup.Proofs.Registry.Chains
import EntityMarkup.Proofs.Registry.Resolution
import EntityMarkup.Proofs.Registry.Listing
import EntityMarkup.Proofs.Markup.Commented
import EntityMarkup.Proofs.Markup.Offending
import EntityMarkup.Proofs.Markup.Surprises
import EntityMarkup.Proofs.Markup.CutTags
import EntityMarkup.Proofs.Build.Applied
import EntityMarkup.Proofs.Build.Blaming
import EntityMarkup.Proofs.Build.Blame
import EntityMarkup.Proofs.Build.Identified
import EntityMarkup.Proofs.Build.Muted
import EntityMarkup.Proofs.Build.Pruned
import EntityMarkup.Proofs.Scenario.Contents
import EntityMarkup.Proofs.Scenario.Opened
import EntityMarkup.Proofs.Scenario.Filled
