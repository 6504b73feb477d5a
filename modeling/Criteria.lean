import Criteria.Operator
import Criteria.Text.Escape
import Criteria.Text.Word
import Criteria.Value
import Criteria.Argument
import Criteria.Number.Shortest
import Criteria.Query.Literal
import Criteria.Token.Scan
import Criteria.Token.Stream
import Criteria.Formula.Parser
import Criteria.Filter
import Criteria.Statement.Build
import Criteria.Argument.Conversion
import Criteria.Proofs.Formula.RoundTrip
import Criteria.Proofs.Formula.Language
import Criteria.Proofs.Filter.Join
import Criteria.Proofs.Statement.Alignment
import Criteria.Proofs.Statement.Filtering
import Criteria.Proofs.Filter.Alignment
import Criteria.Proofs.Filter.Reading
import Criteria.Proofs.Filter.Values
import Criteria.Proofs.Filter.Search
import Criteria.Proofs.Filter.Typing
import Criteria.Proofs.Statement.Edit
import Criteria.Proofs.Statement.Guard
import Criteria.Proofs.Statement.Lists
import Criteria.Proofs.Query.Quoting
import Criteria.Proofs.Text.Span
import Criteria.Proofs.Token.Iteration
import Criteria.Proofs.Filter.Verdict
import Criteria.Proofs.Mapping.Revision
import Criteria.Proofs.Filter.Identities
import Criteria.Proofs.Statement.Ordering
import Criteria.Proofs.Formula.Location
import Criteria.Proofs.Statement.Fields
import Criteria.Proofs.Filter.Entries
import Criteria.Proofs.Text.Integer
import Criteria.Proofs.Filter.Integers
import Criteria.Proofs.Formula.Spacing
import Criteria.Proofs.Token.Progress
import Criteria.Proofs.Formula.Turns
import Criteria.Proofs.Formula.Termination
import Criteria.Proofs.Formula.Lookahead
