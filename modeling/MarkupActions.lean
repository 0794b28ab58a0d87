import MarkupActions.Main
import MarkupActions.Vocabulary.StandIn
import MarkupActions.Proofs.Paths
import MarkupActions.Proofs.Host.Teardown
import MarkupActions.Proofs.Host.Wrapping
import MarkupActions.Proofs.Host.Failure
import MarkupActions.Proofs.Host.Entries
import MarkupActions.Proofs.Host.Closed
import MarkupActions.Proofs.Resolving
import MarkupActions.Proofs.Text.Lowercase
import MarkupActions.Proofs.Host.Schemas
import MarkupActions.Proofs.Xml.Scanning
import MarkupActions.Proofs.Xml.Tags
import MarkupActions.Proofs.Host.Following
import MarkupActions.Proofs.Host.Respelling
import MarkupActions.Proofs.Host.Preloading
import MarkupActions.Proofs.Host.Modelless
import MarkupActions.Proofs.Json.Escaping
import MarkupActions.Proofs.Json.Printing
import MarkupActions.Proofs.Decimal.Finite
import MarkupActions.Proofs.Json.Finite
import MarkupActions.Proofs.Host.Numbers
import MarkupActions.Proofs.Commuting
import MarkupActions.Proofs.Host.Answering
import MarkupActions.Proofs.Json.RoundTrip
import MarkupActions.Proofs.CanonicalText
import MarkupActions.Proofs.CommandLine
import MarkupActions.Proofs.Quoting
import MarkupActions.Proofs.Variables
import MarkupActions.Proofs.Xml.Spelling
import MarkupActions.Proofs.Xml.Nesting
import MarkupActions.Proofs.Xml.Attributes
import MarkupActions.Proofs.Host.Unqualified
import MarkupActions.Proofs.Stores
import MarkupActions.Proofs.Registering
import MarkupActions.Proofs.Host.Alone
import MarkupActions.Proofs.Host.LoadingAhead
import MarkupActions.Proofs.Host.Offering
import MarkupActions.Proofs.DocumentOrder
import MarkupActions.Proofs.Aliases
import MarkupActions.Proofs.Grammar
import MarkupActions.Proofs.Xml.Scopes
import MarkupActions.Proofs.Xml.Rebuilding
