import EntityQuery.Literal
import EntityQuery.Value.Tagged
import EntityQuery.Wire.Request
import EntityQuery.Number.Binary64
import EntityQuery.Samples
import EntityQuery.Plan.Query
import EntityQuery.Sql.Statement
import EntityQuery.Sql.Query
import EntityQuery.Sql.Update
import EntityQuery.Sql.Numbering
import EntityQuery.Store.Memory
import EntityQuery.Store.Faulty
import EntityQuery.Repository
import EntityQuery.Proofs.Results
import EntityQuery.Proofs.Value.Equality
import EntityQuery.Proofs.Value.Order
import EntityQuery.Proofs.Value.Preorder
import EntityQuery.Proofs.Schema.Independence
import EntityQuery.Proofs.Schema.References
import EntityQuery.Proofs.Schema.Index
import EntityQuery.Proofs.Schema.Consistency
import EntityQuery.Proofs.Schema.Navigations
import EntityQuery.Proofs.Predicate.Typing
import EntityQuery.Proofs.Predicate.Combination
import EntityQuery.Proofs.Predicate.Equality
import EntityQuery.Proofs.Predicate.Constants
import EntityQuery.Proofs.Predicate.Cuts
import EntityQuery.Proofs.Literal.RoundTrip
import EntityQuery.Proofs.Literal.Members
import EntityQuery.Proofs.Literal.Timestamps
import EntityQuery.Proofs.Mutation.Effects
import EntityQuery.Proofs.Mutation.Assignments
import EntityQuery.Proofs.Projection.Columns
import EntityQuery.Proofs.Projection.Rows
import EntityQuery.Proofs.Plan.Execution
import EntityQuery.Proofs.Plan.Grouping
import EntityQuery.Proofs.Plan.Partition
import EntityQuery.Proofs.Plan.Choice
import EntityQuery.Proofs.Plan.Reshaping
import EntityQuery.Proofs.Plan.Resolution
import EntityQuery.Proofs.Plan.Compilation
import EntityQuery.Proofs.Plan.Checked
import EntityQuery.Proofs.Store.Positions
import EntityQuery.Proofs.Store.Writes
import EntityQuery.Proofs.Store.Safety
import EntityQuery.Proofs.Repository.Atomicity
import EntityQuery.Proofs.Repository.ById
import EntityQuery.Proofs.Repository.Ledger
import EntityQuery.Proofs.Repository.Refinement
import EntityQuery.Proofs.Repository.Conflicts
import EntityQuery.Proofs.Repository.BulkChanges
import EntityQuery.Proofs.Repository.Limits
import EntityQuery.Proofs.Repository.Refusals
import EntityQuery.Proofs.Repository.Deletions
import EntityQuery.Proofs.Repository.Cancellations
import EntityQuery.Proofs.Repository.Idempotence
import EntityQuery.Proofs.Repository.Balance
import EntityQuery.Proofs.Repository.Listings
import EntityQuery.Proofs.Repository.First
import EntityQuery.Proofs.Repository.Loading
import EntityQuery.Proofs.Sql.Comparing
import EntityQuery.Proofs.Sql.Tokens
import EntityQuery.Proofs.Sql.Lexing
import EntityQuery.Proofs.Sql.Quoting
import EntityQuery.Proofs.Sql.Meaning
import EntityQuery.Proofs.Sql.Queries
import EntityQuery.Proofs.Sql.Clauses
import EntityQuery.Proofs.Sql.Selection
import EntityQuery.Proofs.Sql.BulkUpdates
import EntityQuery.Proofs.Sql.Decimals
import EntityQuery.Proofs.Sql.Representatives
import EntityQuery.Proofs.Sql.Commands
import EntityQuery.Proofs.Sql.Placeholders
import EntityQuery.Proofs.Sql.Literals
import EntityQuery.Proofs.Sql.Timestamps
import EntityQuery.Proofs.Wire.Models
