import FormEngine.ActiveSchema
import FormEngine.Choices.Cache
import FormEngine.RuleGraph.Encode
import FormEngine.Schema.Outline
import FormEngine.Session
import FormEngine.Proofs.Choices.Cache
import FormEngine.Proofs.Choices.History
import FormEngine.Proofs.Choices.Loading
import FormEngine.Proofs.Dict.Order
import FormEngine.Proofs.Digraph.Arrangement
import FormEngine.Proofs.Digraph.Components
import FormEngine.Proofs.Digraph.Sorting
import FormEngine.Proofs.Except
import FormEngine.Proofs.Expr.Dependence
import FormEngine.Proofs.Expr.Warnings
import FormEngine.Proofs.Json.Equality
import FormEngine.Proofs.Path.Access
import FormEngine.Proofs.Path.Spelling
import FormEngine.Proofs.Path.Writing
import FormEngine.Proofs.RuleGraph.Index
import FormEngine.Proofs.RuleGraph.Cone
import FormEngine.Proofs.RuleGraph.Cycles
import FormEngine.Proofs.RuleGraph.Order
import FormEngine.Proofs.RuleGraph.Reads
import FormEngine.Proofs.Snapshot.Cells
import FormEngine.Proofs.Snapshot.Frame
import FormEngine.Proofs.Snapshot.Reachable
import FormEngine.Proofs.Snapshot.Consistent
import FormEngine.Proofs.Snapshot.Ordered
import FormEngine.Proofs.Snapshot.Placement
import FormEngine.Proofs.Snapshot.Live
import FormEngine.Proofs.Update.Pass
import FormEngine.Proofs.Update.Freshness
import FormEngine.Proofs.Update.Trace
import FormEngine.Proofs.Update.Branches
import FormEngine.Proofs.Update.Acyclic
import FormEngine.Proofs.Update.FirstPass
import FormEngine.Proofs.Update.Limit
import FormEngine.Proofs.Update.LargerLimit
import FormEngine.Proofs.Update.Selective
import FormEngine.Proofs.Update.Dependence
import FormEngine.Proofs.Update.Independent
import FormEngine.Proofs.Session.Set
import FormEngine.Proofs.Session.Patch
import FormEngine.Proofs.Session.Atomic
import FormEngine.Proofs.Expr.Vocabulary
import FormEngine.Proofs.Schema.WellFormed
import FormEngine.Proofs.Snapshot.Accepted
import FormEngine.Proofs.Snapshot.Vocabulary
import FormEngine.Proofs.Expr.Canonical
import FormEngine.Proofs.Expr.Connectives
import FormEngine.Proofs.Expr.Grammar
import FormEngine.Proofs.Expr.Integers
import FormEngine.Proofs.Expr.Positions
import FormEngine.Proofs.Json.Record
import FormEngine.Proofs.Schema.RoundTrip
import FormEngine.Proofs.Template
import FormEngine.Proofs.Template.Modes
import FormEngine.Proofs.Template.Tokens
import FormEngine.Proofs.Choices.Pending
import FormEngine.Proofs.Snapshot.Reset
import FormEngine.Proofs.Snapshot.Standing
import FormEngine.Proofs.Session.Runs
import FormEngine.Proofs.Session.Requests
import FormEngine.Proofs.Session.Warnings
import FormEngine.Proofs.Update.Unchanged
import FormEngine.Proofs.Double.Integers
import FormEngine.Proofs.Double.Rounding
import FormEngine.Proofs.ActiveSchema.Instance
import FormEngine.Proofs.ActiveSchema.Keywords
import FormEngine.Proofs.ActiveSchema.Payload
import FormEngine.Proofs.ActiveSchema.Required
import FormEngine.Proofs.ActiveSchema.Lengths
import FormEngine.Proofs.Validation.Writing
import FormEngine.Proofs.Json.Normal
import FormEngine.Proofs.Update.Stepwise
import FormEngine.Proofs.Snapshot.Slots
import FormEngine.Proofs.Snapshot.LastWrite
