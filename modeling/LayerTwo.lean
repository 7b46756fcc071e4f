import LayerTwo.Network.Registry
import LayerTwo.Version
import LayerTwo.Workbench
import LayerTwo.Proofs.Hex.Reading
import LayerTwo.Proofs.Hex.Refusal
import LayerTwo.Proofs.Address.Form
import LayerTwo.Proofs.Abi.Call
import LayerTwo.Proofs.Abi.Decoding
import LayerTwo.Proofs.Abi.Request
import LayerTwo.Proofs.Message.Validity
import LayerTwo.Proofs.Operation
import LayerTwo.Proofs.Message.Recheck
import LayerTwo.Proofs.Message.Made
import LayerTwo.Proofs.Message.Outcome
import LayerTwo.Proofs.Message.TransferCall
import LayerTwo.Proofs.Message.WithdrawalCall
import LayerTwo.Proofs.Message.Loading
import LayerTwo.Proofs.Message.Distinct
import LayerTwo.Proofs.Payload.Codec
import LayerTwo.Proofs.Payload.Rows
import LayerTwo.Proofs.Payload.Shown
import LayerTwo.Proofs.Payload.Block
import LayerTwo.Proofs.Payload.FirstFault
import LayerTwo.Proofs.Payload.Alike
import LayerTwo.Proofs.Payload.BlockRange
import LayerTwo.Proofs.Payload.Scalar
import LayerTwo.Proofs.Value.Equality
import LayerTwo.Proofs.Value.Shown
import LayerTwo.Proofs.Message.Rendering
import LayerTwo.Proofs.Message.Faithful
import LayerTwo.Proofs.Message.Barrier
import LayerTwo.Proofs.Address.Spelling
import LayerTwo.Proofs.Address.Checksum
import LayerTwo.Proofs.Message.Spelling
import LayerTwo.Proofs.Message.TokenReference
import LayerTwo.Proofs.Text.Encoding
import LayerTwo.Proofs.Json.Grammar
import LayerTwo.Proofs.Json.Token
import LayerTwo.Proofs.Json.Reading
import LayerTwo.Proofs.Json.Raw
import LayerTwo.Proofs.Json.Shown
import LayerTwo.Proofs.Payload.Raw
import LayerTwo.Proofs.Reported
import LayerTwo.Proofs.Network.Bridge
import LayerTwo.Proofs.Network.Request
import LayerTwo.Proofs.Network.Plain
import LayerTwo.Proofs.Network.Isolation
import LayerTwo.Proofs.Version
