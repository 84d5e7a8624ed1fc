import Ctap2MakeCredentials.Cbor

/-!
# The attestation data model

The values a `MakeCredentials` response decodes to: authenticator data, the closed set of
attestation statements, the attestation object, and the caller-visible `MakeCredentialsResult`.
The types are declared in `ctap2::attestation`, `ctap2::server` and `crypto`, which are not
under src/; each keeps the fields that `make_credentials.rs` builds or reads. Fixed-size byte
arrays carry their length as a field, so a hash of the wrong size cannot be built.
-/

namespace Ctap2

/-- `RpIdHash([u8; 32])`, the SHA-256 hash of a relying-party id. -/
structure RpIdHash where
  bytes : List UInt8
  length_bytes : bytes.length = 32
  deriving DecidableEq

instance : Inhabited RpIdHash := ⟨⟨List.replicate 32 0, rfl⟩⟩

/-- `AAGuid([u8; 16])`, the authenticator model identifier. -/
structure AAGuid where
  bytes : List UInt8
  length_bytes : bytes.length = 16
  deriving DecidableEq

/-- `AAGuid::default()`: sixteen zero bytes. -/
instance : Inhabited AAGuid := ⟨⟨List.replicate 16 0, rfl⟩⟩

/-- The flags byte of the authenticator data (`AuthenticatorDataFlags`, a `bitflags` over `u8`). -/
structure AuthenticatorDataFlags where
  bits : UInt8
  deriving DecidableEq, Repr

namespace AuthenticatorDataFlags

def userPresent : AuthenticatorDataFlags := ⟨0x01⟩
def attested : AuthenticatorDataFlags := ⟨0x40⟩

instance : OrOp AuthenticatorDataFlags := ⟨fun a b => ⟨a.bits ||| b.bits⟩⟩

end AuthenticatorDataFlags

/-! ## COSE keys and the crypto collaborator's results -/

/-- `COSEAlgorithm`, by its registered COSE identifier. -/
structure COSEAlgorithm where
  id : Int
  deriving DecidableEq, Repr

def COSEAlgorithm.es256 : COSEAlgorithm := ⟨-7⟩

inductive Curve where
  | secp256r1
  | secp384r1
  | secp521r1
  | ed25519
  deriving DecidableEq, Repr

structure COSEEC2Key where
  curve : Curve
  x : List UInt8
  y : List UInt8
  deriving DecidableEq

inductive COSEKeyType where
  | ec2 (key : COSEEC2Key)
  | okp (curve : Curve) (x : List UInt8)
  | rsa (n e : List UInt8)
  deriving DecidableEq

structure COSEKey where
  alg : COSEAlgorithm
  key : COSEKeyType
  deriving DecidableEq

/-- `CryptoError`, kept as the text its `Debug` impl prints (the `{err:?}` of the messages). -/
structure CryptoError where
  debug : String
  deriving DecidableEq, Repr

/-- What `parse_u2f_der_certificate` returns: the certificate and the bytes after it. -/
structure U2FDerCertificate where
  certificate : List UInt8
  signature : List UInt8
  deriving DecidableEq

/-! ## Authenticator data and attestation statements -/

structure AttestedCredentialData where
  aaguid : AAGuid
  credentialId : List UInt8
  credentialPublicKey : COSEKey
  deriving DecidableEq

inductive HmacSecretResponse where
  | confirmed (flag : Bool)
  | secret (bytes : List UInt8)
  deriving DecidableEq

/-- `Extension`, the extension outputs inside the authenticator data; `hmac_secret` is the one
this command reads. -/
structure Extension where
  hmacSecret : Option HmacSecretResponse := none
  deriving DecidableEq

instance : Inhabited Extension := ⟨{}⟩

structure AuthenticatorData where
  rpIdHash : RpIdHash
  flags : AuthenticatorDataFlags
  counter : UInt32
  credentialData : Option AttestedCredentialData
  extensions : Extension
  rawData : List UInt8
  deriving DecidableEq

instance : Inhabited AuthenticatorData := ⟨⟨default, ⟨0⟩, 0, none, {}, []⟩⟩

structure AttestationStatementPacked where
  alg : COSEAlgorithm
  sig : List UInt8
  attestationCert : List (List UInt8)
  deriving DecidableEq

structure AttestationStatementFidoU2F where
  attestationCert : List (List UInt8)
  sig : List UInt8
  deriving DecidableEq

/-- `AttestationStatementFidoU2F::new(cert, sig)`: the single certificate and the signature. -/
def AttestationStatementFidoU2F.new (cert sig : List UInt8) : AttestationStatementFidoU2F :=
  ⟨[cert], sig⟩

/-- The closed variant set of statement formats; the wire discriminator is `fmt`. -/
inductive AttestationStatement where
  | none
  | packed (stmt : AttestationStatementPacked)
  | fidoU2F (stmt : AttestationStatementFidoU2F)
  deriving DecidableEq

structure AttestationObject where
  authData : AuthenticatorData
  attStmt : AttestationStatement
  deriving DecidableEq

/-! ## The caller-visible result -/

inductive AuthenticatorAttachment where
  | unknown
  | platform
  | crossPlatform
  deriving DecidableEq, Repr

structure CredentialProperties where
  rk : Bool
  deriving DecidableEq, Repr

instance : Inhabited CredentialProperties := ⟨⟨false⟩⟩

/-- `AuthenticationExtensionsClientOutputs`, with the two outputs `finalize_result` sets. -/
@[ext] structure AuthenticationExtensionsClientOutputs where
  credProps : Option CredentialProperties := none
  hmacCreateSecret : Option Bool := none
  deriving DecidableEq, Repr

instance : Inhabited AuthenticationExtensionsClientOutputs := ⟨{}⟩

@[ext] structure MakeCredentialsResult where
  attObj : AttestationObject
  attachment : AuthenticatorAttachment
  extensions : AuthenticationExtensionsClientOutputs
  deriving DecidableEq

end Ctap2
