import Ctap2MakeCredentials.Request

/-!
# Auth binding, the user-verification policy and result reconciliation

`impl PinUvAuthCommand for MakeCredentials` and `MakeCredentials::finalize_result`. The two
methods that change the request take `&mut self`; the model returns the updated request beside
the `Result`, so that a failed call can be seen to leave the request as it was.
-/

namespace Ctap2

inductive UserVerificationRequirement where
  | required
  | preferred
  | discouraged
  deriving DecidableEq, Repr

/-! ## 1. `PinUvAuthCommand` -/

/-- `set_pin_uv_auth_param`: the request after the call, and the call's `Result`, whose
`CommandError` the `?` converts into the caller's `AuthenticatorError`. -/
def MakeCredentials.setPinUvAuthParam (c : Collaborators) (r : MakeCredentials)
    (pinUvAuthToken : Option PinUvAuthToken) : MakeCredentials × Except CommandError Unit :=
  let param : Except CommandError (Option PinUvAuthParam) :=
    match pinUvAuthToken with
    | some token => ((c.derive token r.clientDataHash).mapError .crypto).map some
    | none => .ok none
  match param with
  | .ok param => ({ r with pinUvAuthParam := param }, .ok ())
  | .error e => (r, .error e)

def MakeCredentials.setUvOption (r : MakeCredentials) (uv : Option Bool) : MakeCredentials :=
  { r with options := { r.options with userVerification := uv } }

def MakeCredentials.getRpId (r : MakeCredentials) : Option String := some r.rp.id

def MakeCredentials.getPinUvAuthParam (r : MakeCredentials) : Option PinUvAuthParam :=
  r.pinUvAuthParam

def MakeCredentials.canSkipUserVerification (r : MakeCredentials) (info : AuthenticatorInfo)
    (uvReq : UserVerificationRequirement) : Bool :=
  let supportsUv := info.options.userVerification == some true
  let pinConfigured := info.options.clientPin == some true
  let deviceProtected := supportsUv || pinConfigured
  let makeCredUvNotRequired := info.options.makeCredUvNotRqd == some true &&
    r.options.residentKey != some true && uvReq == .discouraged
  let alwaysUv := info.options.alwaysUv == some true
  !alwaysUv && (!deviceProtected || makeCredUvNotRequired)

/-- A token binds the derived tag, no token clears it, and a failed derivation reports a crypto
error and leaves the request as it was. -/
theorem setPinUvAuthParam_spec (c : Collaborators) (r : MakeCredentials) :
    r.setPinUvAuthParam c none = ({ r with pinUvAuthParam := none }, .ok ()) ∧
    ∀ token,
      (∀ p, c.derive token r.clientDataHash = .ok p →
        r.setPinUvAuthParam c (some token) = ({ r with pinUvAuthParam := some p }, .ok ())) ∧
      (∀ e, c.derive token r.clientDataHash = .error e →
        r.setPinUvAuthParam c (some token) = (r, .error (.crypto e))) := by
  refine ⟨rfl, fun token => ⟨fun p hp => ?_, fun e he => ?_⟩⟩
  · simp [MakeCredentials.setPinUvAuthParam, Except.mapError, hp]
  · simp [MakeCredentials.setPinUvAuthParam, Except.mapError, he]

/-- The skip decision reads one field of the request, the `rk` option. -/
theorem canSkipUserVerification_congr {r r' : MakeCredentials}
    (hrk : r'.options.residentKey = r.options.residentKey) (info : AuthenticatorInfo)
    (uvReq : UserVerificationRequirement) :
    r'.canSkipUserVerification info uvReq = r.canSkipUserVerification info uvReq := by
  simp only [MakeCredentials.canSkipUserVerification, hrk]

/-! ## 2. `finalize_result`

The device's capability snapshot is what `dev.get_authenticator_info()` returns, `None` when the
device reported none. -/

/-- The attachment class `finalize_result` sets: from the snapshot, never from the wire. -/
def attachmentOf : Option AuthenticatorInfo → AuthenticatorAttachment
  | some info => if info.options.platformDevice then .platform else .crossPlatform
  | none => .unknown

/-- Step 1 of `finalize_result`: the `credProps` output. -/
def MakeCredentials.finalizeCredProps (r : MakeCredentials) (maybeInfo : Option AuthenticatorInfo)
    (result : MakeCredentialsResult) : MakeCredentialsResult :=
  let devSupportsRk := maybeInfo.elim false fun info => info.options.residentKey
  let requestedRk := r.options.residentKey.getD false
  let maxSupportedVersion := maybeInfo.elim .u2fV2 fun info => info.maxSupportedVersion
  let rkUncertain := maxSupportedVersion == .fido20 && devSupportsRk && !requestedRk
  if r.extensions.credProps == some true && !rkUncertain then
    { result with
      extensions := { result.extensions with
        credProps := some { result.extensions.credProps.getD default with rk := requestedRk } } }
  else result

/-- Step 2 of `finalize_result`: the `hmac-secret` output, mirrored from the authenticator data. -/
def MakeCredentials.finalizeHmacSecret (r : MakeCredentials) (result : MakeCredentialsResult) :
    MakeCredentialsResult :=
  if r.extensions.hmacSecret == some true then
    match result.attObj.authData.extensions.hmacSecret with
    | some (.confirmed flag) =>
      { result with extensions := { result.extensions with hmacCreateSecret := some flag } }
    | _ => result
  else result

def MakeCredentials.finalizeResult (r : MakeCredentials) (maybeInfo : Option AuthenticatorInfo)
    (result : MakeCredentialsResult) : MakeCredentialsResult :=
  let result := { result with attachment := attachmentOf maybeInfo }
  r.finalizeHmacSecret (r.finalizeCredProps maybeInfo result)

/-- The spec's uncertain case: the device's newest version is CTAP 2.0, it supports resident
keys, and the caller did not ask for one. -/
def RkUncertain (r : MakeCredentials) : Option AuthenticatorInfo → Prop
  | some info => info.maxSupportedVersion = .fido20 ∧ info.options.residentKey = true ∧
      r.options.residentKey ≠ some true
  | none => False

instance (r : MakeCredentials) : DecidablePred (RkUncertain r)
  | some info => inferInstanceAs (Decidable (info.maxSupportedVersion = .fido20 ∧ _ ∧ _))
  | none => inferInstanceAs (Decidable False)

section FinalizeFields

variable (r : MakeCredentials) (maybeInfo : Option AuthenticatorInfo) (result : MakeCredentialsResult)

@[simp] theorem finalizeCredProps_attObj : (r.finalizeCredProps maybeInfo result).attObj = result.attObj := by
  simp only [MakeCredentials.finalizeCredProps]; split <;> rfl

@[simp] theorem finalizeCredProps_attachment :
    (r.finalizeCredProps maybeInfo result).attachment = result.attachment := by
  simp only [MakeCredentials.finalizeCredProps]; split <;> rfl

@[simp] theorem finalizeCredProps_hmacCreateSecret :
    (r.finalizeCredProps maybeInfo result).extensions.hmacCreateSecret =
      result.extensions.hmacCreateSecret := by
  simp only [MakeCredentials.finalizeCredProps]; split <;> rfl

theorem finalizeCredProps_credProps :
    (r.finalizeCredProps maybeInfo result).extensions.credProps =
      if r.extensions.credProps = some true ∧ ¬ RkUncertain r maybeInfo then
        some ⟨r.options.residentKey = some true⟩
      else result.extensions.credProps := by
  have hrk : r.options.residentKey.getD false = decide (r.options.residentKey = some true) := by
    rcases r.options.residentKey with _ | _ | _ <;> rfl
  rcases maybeInfo with _ | info <;>
    simp [MakeCredentials.finalizeCredProps, RkUncertain, Bool.beq_eq_decide_eq, hrk] <;>
    split_ifs <;> simp_all

@[simp] theorem finalizeHmacSecret_attObj : (r.finalizeHmacSecret result).attObj = result.attObj := by
  unfold MakeCredentials.finalizeHmacSecret; split <;> (try split) <;> rfl

@[simp] theorem finalizeHmacSecret_attachment :
    (r.finalizeHmacSecret result).attachment = result.attachment := by
  unfold MakeCredentials.finalizeHmacSecret; split <;> (try split) <;> rfl

@[simp] theorem finalizeHmacSecret_credProps :
    (r.finalizeHmacSecret result).extensions.credProps = result.extensions.credProps := by
  unfold MakeCredentials.finalizeHmacSecret; split <;> (try split) <;> rfl

theorem finalizeHmacSecret_hmacCreateSecret :
    (r.finalizeHmacSecret result).extensions.hmacCreateSecret =
      match r.extensions.hmacSecret, result.attObj.authData.extensions.hmacSecret with
      | some true, some (.confirmed flag) => some flag
      | _, _ => result.extensions.hmacCreateSecret := by
  unfold MakeCredentials.finalizeHmacSecret
  rcases r.extensions.hmacSecret with _ | _ | _ <;>
    rcases result.attObj.authData.extensions.hmacSecret with _ | _ | _ <;> rfl

end FinalizeFields

theorem finalizeResult_idempotent (r : MakeCredentials) (maybeInfo : Option AuthenticatorInfo)
    (result : MakeCredentialsResult) :
    r.finalizeResult maybeInfo (r.finalizeResult maybeInfo result) =
      r.finalizeResult maybeInfo result := by
  ext1
  · simp [MakeCredentials.finalizeResult]
  · simp [MakeCredentials.finalizeResult]
  · ext1
    · simp only [MakeCredentials.finalizeResult, finalizeHmacSecret_credProps,
        finalizeCredProps_credProps]
      split_ifs <;> rfl
    · simp only [MakeCredentials.finalizeResult, finalizeHmacSecret_hmacCreateSecret,
        finalizeCredProps_hmacCreateSecret, finalizeHmacSecret_attObj, finalizeCredProps_attObj]
      rcases r.extensions.hmacSecret with _ | _ | _ <;>
        rcases result.attObj.authData.extensions.hmacSecret with _ | _ | _ <;> rfl

/-- `finalize_result` reads three fields of the request: the `rk` option and the `credProps` and
`hmac-secret` inputs. -/
theorem finalizeResult_congr {r r' : MakeCredentials}
    (hrk : r'.options.residentKey = r.options.residentKey)
    (hcp : r'.extensions.credProps = r.extensions.credProps)
    (hhs : r'.extensions.hmacSecret = r.extensions.hmacSecret)
    (maybeInfo : Option AuthenticatorInfo) (result : MakeCredentialsResult) :
    r'.finalizeResult maybeInfo result = r.finalizeResult maybeInfo result := by
  simp only [MakeCredentials.finalizeResult, MakeCredentials.finalizeHmacSecret,
    MakeCredentials.finalizeCredProps, hrk, hcp, hhs]

end Ctap2
