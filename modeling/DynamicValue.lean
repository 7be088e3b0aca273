import DynamicValue.Session.Request
import DynamicValue.Proofs.Session.Container
import DynamicValue.Proofs.Session.Ownership
import DynamicValue.Proofs.Conversion.TextRoundTrip
import DynamicValue.Proofs.Registry.Cast
import DynamicValue.Proofs.Likeness.Run
import DynamicValue.Proofs.Session.Identities
import DynamicValue.Proofs.Session.Panic
import DynamicValue.Proofs.Error.Wording
import DynamicValue.Proofs.Conversion.IntegerText
import DynamicValue.Proofs.Conversion.NumberView
import DynamicValue.Proofs.Exchange.Run
import DynamicValue.Proofs.Conversion.Exactness
import DynamicValue.Proofs.Conversion.IntegerSpelling
import DynamicValue.Proofs.Conversion.FloatSpelling
import DynamicValue.Proofs.Conversion.Refusals
import DynamicValue.Proofs.Decimal.FloatText
import DynamicValue.Proofs.Conversion.IntegerRounding
import DynamicValue.Proofs.Conversion.FloatWidth
import DynamicValue.Proofs.Session.Access
import DynamicValue.Proofs.Conversion.HostBridge
import DynamicValue.Proofs.Message.Substitution
import DynamicValue.Proofs.Conversion.Requests
import DynamicValue.Proofs.Machine.Relations
import DynamicValue.Proofs.Registry.Nesting
import DynamicValue.Proofs.Registry.Relations
import DynamicValue.Proofs.Registry.Ranking
import DynamicValue.Proofs.Cell.Relations
import DynamicValue.Proofs.Environment.Relations
import DynamicValue.Proofs.Session.Relations
import DynamicValue.Proofs.Registry.Log
import DynamicValue.Proofs.Session.Log
import DynamicValue.Proofs.Session.Silence
import DynamicValue.Proofs.Text.ByteOrder
import DynamicValue.Proofs.Environment.Bindings
import DynamicValue.Proofs.Environment.Arguments
import DynamicValue.Proofs.Session.Environments
import DynamicValue.Proofs.Text.Unquoting
import DynamicValue.Proofs.Cell.DebugText
import DynamicValue.Proofs.Session.DebugText
