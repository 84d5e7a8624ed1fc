import Ctap2MakeCredentials.Attestation

/-!
# The request, the device snapshot and the collaborators

The `MakeCredentials` request as the caller builds it, the two option groups whose presence
decides the wire map (`MakeCredentialsOptions::has_some`, `MakeCredentialsExtensions::has_content`),
the read-only capability snapshot of the device (`AuthenticatorInfo`), and the functions of the
crate's other modules that this command calls. Those functions are not under src/, so the model
takes them as a parameter (`Collaborators`) and every theorem holds for all of them.
-/

namespace Ctap2

/-- `ClientDataHash([u8; 32])`. -/
structure ClientDataHash where
  bytes : List UInt8
  length_bytes : bytes.length = 32
  deriving DecidableEq

instance : Inhabited ClientDataHash := ⟨⟨List.replicate 32 0, rfl⟩⟩

structure RelyingParty where
  id : String
  name : Option String := none
  deriving DecidableEq

structure PublicKeyCredentialUserEntity where
  id : List UInt8
  name : Option String := none
  displayName : Option String := none
  deriving DecidableEq

structure PublicKeyCredentialParameters where
  alg : COSEAlgorithm
  deriving DecidableEq

/-- An exclusion-list entry; its `transports` hint is never serialized, so it is left out. -/
structure PublicKeyCredentialDescriptor where
  id : List UInt8
  deriving DecidableEq

inductive CredentialProtectionPolicy where
  | userVerificationOptional
  | userVerificationOptionalWithCredentialIDList
  | userVerificationRequired
  deriving DecidableEq, Repr

/-- The PIN/UV auth protocol a token belongs to; only its identifier reaches the wire. -/
structure PinUvAuthProtocol where
  id : UInt64
  deriving DecidableEq

/-- The authentication tag sent with the request, and the protocol it was derived under. -/
structure PinUvAuthParam where
  param : List UInt8
  pinProtocol : PinUvAuthProtocol
  deriving DecidableEq

/-- A PIN/UV auth token the caller obtained before this command runs. -/
structure PinUvAuthToken where
  token : List UInt8
  pinProtocol : PinUvAuthProtocol
  deriving DecidableEq

/-! ## Options and extensions -/

structure MakeCredentialsOptions where
  residentKey : Option Bool := none
  userVerification : Option Bool := none
  deriving DecidableEq, Repr

instance : Inhabited MakeCredentialsOptions := ⟨{}⟩

def MakeCredentialsOptions.hasSome (o : MakeCredentialsOptions) : Bool :=
  o.residentKey.isSome || o.userVerification.isSome

/-- `UserVerification::ask_user_verification`. -/
def MakeCredentialsOptions.askUserVerification (o : MakeCredentialsOptions) : Bool :=
  match o.userVerification with
  | some e => e
  | none => false

structure MakeCredentialsExtensions where
  credProps : Option Bool := none
  credProtect : Option CredentialProtectionPolicy := none
  hmacSecret : Option Bool := none
  minPinLength : Option Bool := none
  deriving DecidableEq, Repr

instance : Inhabited MakeCredentialsExtensions := ⟨{}⟩

/-- `cred_props` is `skip_serializing`, so it does not count. -/
def MakeCredentialsExtensions.hasContent (e : MakeCredentialsExtensions) : Bool :=
  e.credProtect.isSome || e.hmacSecret.isSome || e.minPinLength.isSome

/-- The client extension inputs this command reads. -/
structure AuthenticationExtensionsClientInputs where
  credProps : Option Bool := none
  credentialProtectionPolicy : Option CredentialProtectionPolicy := none
  hmacCreateSecret : Option Bool := none
  minPinLength : Option Bool := none

/-- `From<AuthenticationExtensionsClientInputs> for MakeCredentialsExtensions`. -/
def MakeCredentialsExtensions.fromInputs (input : AuthenticationExtensionsClientInputs) :
    MakeCredentialsExtensions :=
  { credProps := input.credProps
    credProtect := input.credentialProtectionPolicy
    hmacSecret := input.hmacCreateSecret
    minPinLength := input.minPinLength }

/-! ## The request -/

structure MakeCredentials where
  clientDataHash : ClientDataHash
  rp : RelyingParty
  /-- `None` marks a CTAP1 request. -/
  user : Option PublicKeyCredentialUserEntity
  pubCredParams : List PublicKeyCredentialParameters
  excludeList : List PublicKeyCredentialDescriptor
  extensions : MakeCredentialsExtensions
  options : MakeCredentialsOptions
  pinUvAuthParam : Option PinUvAuthParam
  enterpriseAttestation : Option UInt64
  deriving DecidableEq

/-- `MakeCredentials::new`: no auth tag and no enterprise attestation yet. -/
def MakeCredentials.new (clientDataHash : ClientDataHash) (rp : RelyingParty)
    (user : Option PublicKeyCredentialUserEntity) (pubCredParams : List PublicKeyCredentialParameters)
    (excludeList : List PublicKeyCredentialDescriptor) (options : MakeCredentialsOptions)
    (extensions : MakeCredentialsExtensions) : MakeCredentials :=
  { clientDataHash, rp, user, pubCredParams, excludeList, extensions, options,
    pinUvAuthParam := none, enterpriseAttestation := none }

/-! ## The device's capability snapshot -/

inductive AuthenticatorVersion where
  | u2fV2
  | fido20
  | fido21Pre
  | fido21
  deriving DecidableEq, Repr

/-- The option flags of `authenticatorGetInfo` that this command reads. -/
structure AuthenticatorOptions where
  platformDevice : Bool := false
  residentKey : Bool := false
  clientPin : Option Bool := none
  userVerification : Option Bool := none
  makeCredUvNotRqd : Option Bool := none
  alwaysUv : Option Bool := none
  deriving DecidableEq, Repr

structure AuthenticatorInfo where
  versions : List AuthenticatorVersion
  options : AuthenticatorOptions
  deriving DecidableEq, Repr

/-- Modelled from the spec: `AuthenticatorInfo::max_supported_version` (`get_info.rs`, not under
src/), the newest version the device lists, and `U2F_V2` when it lists none of the others. -/
def AuthenticatorInfo.maxSupportedVersion (info : AuthenticatorInfo) : AuthenticatorVersion :=
  if .fido21 ∈ info.versions then .fido21
  else if .fido21Pre ∈ info.versions then .fido21Pre
  else if .fido20 ∈ info.versions then .fido20
  else .u2fV2

/-! ## Errors

The error types of `ctap2::commands` and `transport::errors`, with the variants this command
produces. -/

/-- A CTAP2 status code, kept as its byte (`From<u8>` gives each byte its own variant). -/
structure StatusCode where
  code : UInt8
  deriving DecidableEq, Repr

inductive ApduErrorStatus where
  | conditionsNotSatisfied
  | wrongData
  | wrongLength
  | unknown (sw1 sw2 : UInt8)
  deriving DecidableEq, Repr

inductive CommandError where
  | inputTooSmall
  | deserializing (e : DeError)
  | statusCode (status : StatusCode) (data : Option Value)
  | crypto (e : CryptoError)

inductive HIDError where
  | apduStatus (status : ApduErrorStatus)
  | command (e : CommandError)
  /-- An `io::Error` converted by `?`, kept as its text. -/
  | io (msg : String)

inductive Retryable (α : Type) where
  | retry
  | error (e : α)

/-! ## The crate's other modules -/

/-- The functions outside `make_credentials.rs` that it calls, each named after its source. -/
structure Collaborators where
  /-- `AuthenticatorData::deserialize` (`ctap2::attestation`). -/
  authenticatorData : Value → Except DeError AuthenticatorData
  /-- `AttestationStatementPacked::deserialize`. -/
  packed : Value → Except DeError AttestationStatementPacked
  /-- `AttestationStatementFidoU2F::deserialize`. -/
  fidoU2F : Value → Except DeError AttestationStatementFidoU2F
  /-- `crypto::parse_u2f_der_certificate`. -/
  parseU2fDerCertificate : List UInt8 → Except CryptoError U2FDerCertificate
  /-- `COSEEC2Key::from_sec1_uncompressed`. -/
  fromSec1Uncompressed : Curve → List UInt8 → Except CryptoError COSEEC2Key
  /-- `RelyingParty::hash`, the SHA-256 hash of the id. -/
  rpHash : RelyingParty → RpIdHash
  /-- `PinUvAuthToken::derive`, the tag over the client data hash. -/
  derive : PinUvAuthToken → ClientDataHash → Except CryptoError PinUvAuthParam
  /-- `serde_cbor::from_slice::<Value>`: one whole data item, nothing after it. -/
  valueFromSlice : List UInt8 → Except DeError Value
  /-- How `serde_cbor::from_slice` reads a slice for a visitor: the head of the first item,
  and the complete items that follow it in the stream. -/
  sliceItems : List UInt8 → Except DeError (Opening × List Value)
  /-- `StatusCode::from(byte).is_ok()`. -/
  statusIsOk : UInt8 → Bool
  /-- The error `ctap2::utils::read_byte` returns when the cursor is at the end. -/
  readByteError : DeError
  /-- `CTAP1RequestAPDU::serialize(ins, p1, data)`, its `io::Error` converted by `?`. -/
  ctap1RequestApdu : UInt8 → UInt8 → List UInt8 → Except HIDError (List UInt8)
  /-- `consts::U2F_REGISTER` and `consts::U2F_REQUEST_USER_PRESENCE`. -/
  u2fRegister : UInt8
  u2fRequestUserPresence : UInt8

/-- Collaborators that fail every call they can fail and hash to zeros. -/
instance : Inhabited Collaborators := ⟨{
  authenticatorData := fun _ => .error (.custom "no decoder")
  packed := fun _ => .error (.custom "no decoder")
  fidoU2F := fun _ => .error (.custom "no decoder")
  parseU2fDerCertificate := fun _ => .error ⟨"no parser"⟩
  fromSec1Uncompressed := fun _ _ => .error ⟨"no parser"⟩
  rpHash := fun _ => default
  derive := fun _ _ => .error ⟨"no token"⟩
  valueFromSlice := fun _ => .error (.custom "no decoder")
  sliceItems := fun _ => .error (.custom "no decoder")
  statusIsOk := fun b => b == 0
  readByteError := .custom "no byte"
  ctap1RequestApdu := fun _ _ _ => .error (.io "no apdu")
  u2fRegister := 0
  u2fRequestUserPresence := 0 }⟩

end Ctap2
