import AccessDecision.Unicode.Name
import AccessDecision.Unicode.Case
import AccessDecision.Regex.CharSet
import AccessDecision.Regex.Expr
import AccessDecision.Regex.Search
import AccessDecision.Regex.Bracket
import AccessDecision.Regex.Parser
import AccessDecision.Regex.Program
import AccessDecision.Decimal.Binary64
import AccessDecision.Decimal.Shortest
import AccessDecision.Json.Fault
import AccessDecision.Json.Number
import AccessDecision.Time.Duration
import AccessDecision.Json.Reader
import AccessDecision.Json.Scalar
import AccessDecision.KeyMap
import AccessDecision.Network.Address
import AccessDecision.Network.Block
import AccessDecision.Condition.Comparator
import AccessDecision.Condition.Decision
import AccessDecision.MatcherConfig
import AccessDecision.Pattern.Cache
import AccessDecision.Pattern.Matcher
import AccessDecision.Pattern.Template
import AccessDecision.Policy.Document
import AccessDecision.Registry
import AccessDecision.ConfigDocument
import AccessDecision.CommandLine
import AccessDecision.Main
import AccessDecision.Proofs.Regex.Reach
import AccessDecision.Proofs.Regex.LiteralText
import AccessDecision.Proofs.Pattern.Glob
import AccessDecision.Proofs.Pattern.Cache
import AccessDecision.Proofs.Pattern.Script
import AccessDecision.Proofs.Pattern.Verdict
import AccessDecision.Proofs.Pattern.Sharing
import AccessDecision.Proofs.Pattern.Offers
import AccessDecision.Proofs.KeyMap
import AccessDecision.Proofs.Text.Split
import AccessDecision.Proofs.Network.Texts
import AccessDecision.Proofs.Condition.Meaning
import AccessDecision.Proofs.Condition.Evaluation
import AccessDecision.Proofs.Network.Mapped
import AccessDecision.Proofs.Condition.AddressRules
import AccessDecision.Proofs.Except
import AccessDecision.Proofs.Json.Grammar
import AccessDecision.Proofs.Json.Containers
import AccessDecision.Proofs.Condition.Written
import AccessDecision.Proofs.Regex.Locality
import AccessDecision.Proofs.Regex.BracketLocality
import AccessDecision.Proofs.Regex.TokenLocality
import AccessDecision.Proofs.Regex.Relaxed
import AccessDecision.Proofs.Regex.Fragment
import AccessDecision.Proofs.Regex.Counted
import AccessDecision.Proofs.Pattern.TemplateReading
import AccessDecision.Proofs.Pattern.TemplateText
import AccessDecision.Proofs.Pattern.TemplateMatch
import AccessDecision.Proofs.Pattern.Scan
import AccessDecision.Proofs.Pattern.Recency
import AccessDecision.Proofs.Json.RoundTrip
import AccessDecision.Proofs.Condition.Documents
import AccessDecision.Proofs.Policy.RoundTrip
import AccessDecision.Proofs.Policy.Elements
import AccessDecision.Proofs.Json.NumberText
import AccessDecision.Proofs.Condition.Interchange
import AccessDecision.Proofs.Condition.Relaxation
import AccessDecision.Proofs.Condition.Families
import AccessDecision.Proofs.Time.Calendar
import AccessDecision.Proofs.Time.Spelling
import AccessDecision.Proofs.Condition.Instants
import AccessDecision.Proofs.Decimal.Rounding
import AccessDecision.Proofs.Decimal.Scaling
import AccessDecision.Proofs.Json.Numeral
import AccessDecision.Proofs.Json.NumberReading
import AccessDecision.Proofs.Json.NumberRange
import AccessDecision.Proofs.Condition.Outcomes
import AccessDecision.Proofs.Pattern.Footprint
import AccessDecision.Proofs.Pattern.Spans
import AccessDecision.Proofs.Pattern.Structure
import AccessDecision.Proofs.Pattern.Inclusion
import AccessDecision.Proofs.Pattern.PlainText
import AccessDecision.Proofs.Network.Printing
import AccessDecision.Proofs.Network.Sockets
import AccessDecision.Proofs.Request.Headers
import AccessDecision.Proofs.Request.Registrations
import AccessDecision.Proofs.Request.Peer
import AccessDecision.Proofs.Request.Client
import AccessDecision.Proofs.Time.WholeMillis
import AccessDecision.Proofs.Unicode.CaseSearch
import AccessDecision.Proofs.Unicode.CaseOrbits
import AccessDecision.Proofs.Condition.IgnoredCase
