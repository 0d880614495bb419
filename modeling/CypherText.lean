import CypherText.Identifier
import CypherText.Number.Decimal
import CypherText.Number.Double
import CypherText.Quoted
import CypherText.Time.Clock
import CypherText.Time.Date
import CypherText.Time.Timestamp
import CypherText.Value.Literal
import CypherText.Value.Equality
import CypherText.Value.Member
import CypherText.Datum
import CypherText.Event
import CypherText.Logged
import CypherText.Property
import CypherText.Entity
import CypherText.Extractor
import CypherText.Relationship
import CypherText.Settings
import CypherText.Buffer
import CypherText.Builder
import CypherText.Execution
import CypherText.Call
import CypherText.Script.Basic
import CypherText.Script.Run
import CypherText.Number.Digit
import CypherText.Number.Notation
import CypherText.Bytes.Encoding
import CypherText.Time.Parts
import CypherText.Number.Decimal.Parts
import CypherText.Proofs.Token.Identifier
import CypherText.Proofs.Token.Number
import CypherText.Proofs.Number.Display
import CypherText.Proofs.Token.Literal
import CypherText.Proofs.Value.Literal
import CypherText.Proofs.Builder
import CypherText.Proofs.Label
import CypherText.Proofs.Execution
import CypherText.Proofs.Rendering
import CypherText.Proofs.Property
import CypherText.Proofs.Call
import CypherText.Proofs.Query
import CypherText.Proofs.Token.QuotedText
import CypherText.Proofs.Relationship
import CypherText.Proofs.Composition
import CypherText.Proofs.Script.Failure
import CypherText.Proofs.Token.Name
import CypherText.Proofs.Value.Causes
import CypherText.Proofs.CallFailure
import CypherText.Proofs.Independence
import CypherText.Proofs.PropertyBlock
import CypherText.Proofs.Payload
import CypherText.Proofs.Ending
import CypherText.Proofs.Simulation
import CypherText.Proofs.Replacement
import CypherText.Proofs.Unrolling
import CypherText.Proofs.Counting
import CypherText.Proofs.Repetition
import CypherText.Proofs.Number.Reading
import CypherText.Proofs.Time.Timestamp
import CypherText.Proofs.Extraction
import CypherText.Proofs.Origin
import CypherText.Proofs.Script.Scoping
import CypherText.Proofs.Base64
import CypherText.Proofs.Splitting
import CypherText.Proofs.Progress
import CypherText.Proofs.Keyword
import CypherText.Proofs.Announcement
import CypherText.Proofs.Routine
import CypherText.Proofs.Flattening
import CypherText.Proofs.Details
import CypherText.Proofs.Settings
