import SearchQuery.Main
import SearchQuery.Geo.ShapeText
import SearchQuery.Index
import SearchQuery.Plan.Lowering
import SearchQuery.Query.Equality
import SearchQuery.Proofs.Query.Clauses
import SearchQuery.Proofs.Plan.Validity
import SearchQuery.Proofs.Plan.Expanded
import SearchQuery.Proofs.Json.Members
import SearchQuery.Proofs.Plan.Phrases
import SearchQuery.Proofs.Json.Records
import SearchQuery.Proofs.Json.Finite
import SearchQuery.Proofs.Json.Readers
import SearchQuery.Proofs.Geo.Written
import SearchQuery.Proofs.Query.Written
import SearchQuery.Proofs.Query.Decoded
import SearchQuery.Proofs.Query.Equality
import SearchQuery.Proofs.Query.Represented
import SearchQuery.Proofs.Query.Reencoded
import SearchQuery.Proofs.Query.Parsed
import SearchQuery.Proofs.Decimal.Numerals
import SearchQuery.Proofs.Decimal.Sign
import SearchQuery.Proofs.Query.Notation
import SearchQuery.Proofs.Query.Inverse
import SearchQuery.Proofs.Pattern.Extension
import SearchQuery.Proofs.Pattern.Matching
import SearchQuery.Proofs.Pattern.Brackets
import SearchQuery.Proofs.Pattern.Groups
import SearchQuery.Proofs.Pattern.Enclosed
import SearchQuery.Proofs.Plan.Patterns
import SearchQuery.Proofs.Query.Places
import SearchQuery.Proofs.Query.Faults
import SearchQuery.Proofs.Query.Substitution
import SearchQuery.Proofs.Query.Limit
import SearchQuery.Proofs.Pattern.Glob
import SearchQuery.Proofs.Plan.Wildcards
import SearchQuery.Proofs.Query.Checked
import SearchQuery.Proofs.Plan.TermSets
import SearchQuery.Proofs.Query.Juxtaposed
import SearchQuery.Proofs.Query.Selection
import SearchQuery.Proofs.Plan.Nodes
import SearchQuery.Proofs.Plan.TermLists
import SearchQuery.Proofs.Decimal.Closest
import SearchQuery.Proofs.Geo.Nesting
import SearchQuery.Proofs.Json.NumberTexts
import SearchQuery.Proofs.Json.Rereading
import SearchQuery.Proofs.Query.Dumped
import SearchQuery.Proofs.Query.Words
import SearchQuery.Proofs.Plan.Origins
import SearchQuery.Proofs.Plan.Fields
import SearchQuery.Proofs.Json.NamedMembers
import SearchQuery.Proofs.Query.Keys
import SearchQuery.Proofs.Index.Contents
import SearchQuery.Proofs.Query.Offenders
import SearchQuery.Proofs.Query.Ranges
import SearchQuery.Proofs.Query.Assembled
import SearchQuery.Proofs.Plan.Values
import SearchQuery.Proofs.Plan.Intervals
import SearchQuery.Proofs.Geo.Soundness
import SearchQuery.Proofs.Plan.Figures
import SearchQuery.Proofs.Query.Figures
import SearchQuery.Proofs.Analysis.Words
import SearchQuery.Proofs.Plan.TextPhrases
import SearchQuery.Proofs.Network.Addresses
import SearchQuery.Proofs.Network.Blocks
import SearchQuery.Proofs.Network.BlockTexts
import SearchQuery.Proofs.Decimal.One
import SearchQuery.Proofs.Decimal.Endings
import SearchQuery.Proofs.Text.Trimmed
import SearchQuery.Proofs.Geo.Distances
import SearchQuery.Proofs.Text.Edits
import SearchQuery.Proofs.Plan.Selections
import SearchQuery.Proofs.Json.Taken
import SearchQuery.Proofs.Json.Objects
import SearchQuery.Proofs.PreSearch
import SearchQuery.Proofs.Decimal.Products
import SearchQuery.Proofs.Geo.Radii
import SearchQuery.Proofs.Query.Traced
import SearchQuery.Proofs.Query.Positions
