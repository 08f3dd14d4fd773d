import SqlOutline.Main
import SqlOutline.Parser.Script
import SqlOutline.Json.Read
import SqlOutline.Proofs.Sequence
import SqlOutline.Proofs.Parser.Acceptance
import SqlOutline.Proofs.Query.Form
import SqlOutline.Proofs.Query.Step
import SqlOutline.Proofs.Query.Column
import SqlOutline.Proofs.Query.Acceptance
import SqlOutline.Proofs.Token.Reads
import SqlOutline.Proofs.Token.Stream
import SqlOutline.Proofs.Token.Lossless
import SqlOutline.Proofs.TableDefinition.Form
import SqlOutline.Proofs.TableDefinition.Step
import SqlOutline.Proofs.TableDefinition.Column
import SqlOutline.Proofs.TableDefinition.Acceptance
import SqlOutline.Proofs.Keyword.Lookup
import SqlOutline.Proofs.Query.RoundTrip
import SqlOutline.Proofs.TableDefinition.RoundTrip
import SqlOutline.Proofs.Token.Lines
import SqlOutline.Proofs.Prefixes
import SqlOutline.Proofs.Token.Concatenation
import SqlOutline.Proofs.Token.LineNumbers
import SqlOutline.Proofs.Respelling
import SqlOutline.Proofs.Query.Remainder
import SqlOutline.Proofs.TableDefinition.Remainder
import SqlOutline.Proofs.Faults
import SqlOutline.Proofs.Query.WellFormed
import SqlOutline.Proofs.TableDefinition.WellFormed
import SqlOutline.Proofs.Token.Pull
import SqlOutline.Proofs.Token.LongestNumber
import SqlOutline.Proofs.Token.Delimited
import SqlOutline.Proofs.Script.Contract
import SqlOutline.Proofs.Json.Lossless
import SqlOutline.Proofs.Command.Output
import SqlOutline.Proofs.Token.Chain
import SqlOutline.Proofs.Token.Operators
import SqlOutline.Proofs.Stopping
import SqlOutline.Proofs.Script.Independence
import SqlOutline.Proofs.Joining
import SqlOutline.Proofs.Keyword.Spelling
