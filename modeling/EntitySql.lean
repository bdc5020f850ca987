import EntitySql.Conformance.Suite
import EntitySql.Declaration.Descriptor
import EntitySql.Declaration.RowReader
import EntitySql.Proofs.Condition.Pruning
import EntitySql.Proofs.Condition.Truth
import EntitySql.Proofs.Entity.Insertion
import EntitySql.Proofs.Marshal.Plain
import EntitySql.Proofs.Paging.Forms
import EntitySql.Proofs.Row.Hydration
import EntitySql.Proofs.Sql.Changes
import EntitySql.Proofs.Sql.Clause
import EntitySql.Proofs.Sql.Keys
import EntitySql.Proofs.Sql.Payloads
import EntitySql.Proofs.Sql.Phrase
import EntitySql.Proofs.Sql.Placeholders
import EntitySql.Proofs.Sql.Qualifiers
import EntitySql.Proofs.Text.Characters
import EntitySql.Proofs.Text.Identifiers
import EntitySql.Query.Page
import EntitySql.Query.Pools
import EntitySql.Schema.Registry
import EntitySql.Sql.Statement
import EntitySql.Text.Consume
import EntitySql.Proofs.Marshal.Coercion
import EntitySql.Proofs.Text.Charsets
import EntitySql.Proofs.Paging.Numbering
import EntitySql.Proofs.Query.Aliases
import EntitySql.Proofs.Sql.References
import EntitySql.Proofs.Text.StringTokens
import EntitySql.Proofs.Paging.Counting
import EntitySql.Proofs.Sql.Naming
import EntitySql.Proofs.Text.Decoding
import EntitySql.Proofs.Marshal.Kinds
import EntitySql.Proofs.Value.Literals
import EntitySql.Proofs.Marshal.Failures
import EntitySql.Proofs.Row.Statements
import EntitySql.Proofs.Query.Keywords
import EntitySql.Proofs.Paging.WholeTables
import EntitySql.Proofs.Query.Injected
import EntitySql.Proofs.Condition.Patterns
import EntitySql.Proofs.Entity.Rearranged
import EntitySql.Proofs.Declaration.Applied
import EntitySql.Proofs.Marshal.Milliseconds
import EntitySql.Proofs.Condition.EndOfDay
import EntitySql.Proofs.Sql.EndingDays
import EntitySql.Proofs.Condition.Membership
import EntitySql.Proofs.Query.DayBounds
import EntitySql.Proofs.Paging.Pages
import EntitySql.Proofs.Marshal.Carriers
import EntitySql.Proofs.Formula.Columns
import EntitySql.Proofs.Row.Maps
import EntitySql.Proofs.Field.Members
import EntitySql.Proofs.Declaration.Types
import EntitySql.Proofs.Marshal.Integers
import EntitySql.Proofs.Field.Integers
import EntitySql.Proofs.Text.Bytes
import EntitySql.Proofs.Field.Slices
import EntitySql.Proofs.Text.WrittenNames
import EntitySql.Proofs.Row.Streams
import EntitySql.Proofs.Text.Truncation
import EntitySql.Proofs.Declaration.Descriptors
import EntitySql.Sql.Context
import EntitySql.Sql.Writer
import EntitySql.Proofs.Sql.Emission
import EntitySql.Proofs.Sql.Writing
