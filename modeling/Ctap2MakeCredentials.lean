import Ctap2MakeCredentials.Cbor
import Ctap2MakeCredentials.Attestation
import Ctap2MakeCredentials.Request
import Ctap2MakeCredentials.Decode
import Ctap2MakeCredentials.Encode
import Ctap2MakeCredentials.Ctap1
import Ctap2MakeCredentials.Policy
import Ctap2MakeCredentials.Handle
import Ctap2MakeCredentials.Lifecycle
