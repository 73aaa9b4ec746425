import FeatureFlags.Table
import FeatureFlags.Number.Shortest
import FeatureFlags.Number.Reading
import FeatureFlags.Text.Ascii
import FeatureFlags.Text.Blank
import FeatureFlags.Text.LowerCase
import FeatureFlags.Text.Quoted
import FeatureFlags.Unicode.CaseFold
import FeatureFlags.Unicode.Script
import FeatureFlags.Json.Fault
import FeatureFlags.Json.Numeral
import FeatureFlags.Json.Reader
import FeatureFlags.Json.Writer
import FeatureFlags.Json.Record
import FeatureFlags.Target
import FeatureFlags.Flag
import FeatureFlags.Config
import FeatureFlags.Definition.Codec
import FeatureFlags.Log.Record
import FeatureFlags.Log.State
import FeatureFlags.Bucket
import FeatureFlags.Pattern.Lexeme
import FeatureFlags.Pattern.Parser
import FeatureFlags.Pattern.Compile
import FeatureFlags.Clause.Compare
import FeatureFlags.Store
import FeatureFlags.Accessor
import FeatureFlags.Proofs.Termination
import FeatureFlags.Proofs.Standalone
import FeatureFlags.Proofs.OffVariation
import FeatureFlags.Proofs.Cycles
import FeatureFlags.Proofs.MembershipLaw
import FeatureFlags.Proofs.FailClosed
import FeatureFlags.Proofs.Locality
import FeatureFlags.Proofs.Stepwise
import FeatureFlags.Proofs.LookupFailure
import FeatureFlags.Proofs.MissingFlags
import FeatureFlags.Proofs.OwnVariations
import FeatureFlags.Proofs.Visibility
import FeatureFlags.Proofs.Lexemes
import FeatureFlags.Proofs.Documents
import FeatureFlags.Proofs.RoundTrip
import FeatureFlags.Proofs.Fields
import FeatureFlags.Proofs.Schema
import FeatureFlags.Proofs.Attributes
import FeatureFlags.Proofs.Grammar
import FeatureFlags.Proofs.History
import FeatureFlags.Proofs.Logging
import FeatureFlags.Proofs.Requests
import FeatureFlags.Proofs.Decimals
import FeatureFlags.Proofs.TypedValues
import FeatureFlags.Proofs.ExactNumbers
import FeatureFlags.Proofs.Rollout
import FeatureFlags.Proofs.Priority
import FeatureFlags.Proofs.Precedence
import FeatureFlags.Proofs.LetterCase
import FeatureFlags.Proofs.Matching
import FeatureFlags.Proofs.Operators
import FeatureFlags.Proofs.HashInputs
import FeatureFlags.Proofs.CompactLines
import FeatureFlags.Proofs.JsonLines
