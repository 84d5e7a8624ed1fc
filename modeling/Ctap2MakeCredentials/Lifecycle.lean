import Ctap2MakeCredentials.Encode
import Ctap2MakeCredentials.Handle

/-!
# The request's life: auth calls, then one transport

A caller builds the request with `MakeCredentials::new`, may then call the methods of
`PinUvAuthCommand` in any order and any number of times (choosing the `uv` option, binding or
clearing an auth tag, asking whether user verification can be skipped), and at last sends the
request on one transport and hands the device's answer to that transport's handler. The caller
is not under src/, so a run is any list of calls.

A call writes at most two fields, the auth tag and the `uv` option (`PinUvAuthCall.apply_eq`;
`MakeCredentials.core` erases both), and a tag it writes was derived over the request's own
client data hash. Every fact below comes from that one step lemma: the requests a run reaches
are exactly those, the last call that writes a field decides it, the wire map changes only
under the keys 7, 8 and 9, and the skip decision, the legacy request and both response
handlers, which read nothing a call writes, decide alike at every step of a run.
-/

namespace Ctap2

/-! ## 1. Calls and runs -/

/-- A call of `PinUvAuthCommand` that takes `&mut self`. -/
inductive PinUvAuthCall where
  | setPinUvAuthParam (pinUvAuthToken : Option PinUvAuthToken)
  | setUvOption (uv : Option Bool)
  | canSkipUserVerification (info : AuthenticatorInfo) (uvReq : UserVerificationRequirement)

/-- The request after one call; `can_skip_user_verification` takes `&mut self` but writes no
field. -/
def PinUvAuthCall.apply (c : Collaborators) (r : MakeCredentials) :
    PinUvAuthCall → MakeCredentials
  | .setPinUvAuthParam pinUvAuthToken => (r.setPinUvAuthParam c pinUvAuthToken).1
  | .setUvOption uv => r.setUvOption uv
  | .canSkipUserVerification _ _ => r

/-- The request after a run of calls, in order. A failed `set_pin_uv_auth_param` leaves the
request as it was, so a caller that stops at its first error holds the request of a shorter
run. -/
def MakeCredentials.runCalls (c : Collaborators) (r : MakeCredentials) :
    List PinUvAuthCall → MakeCredentials
  | [] => r
  | call :: calls => (call.apply c r).runCalls c calls

theorem MakeCredentials.runCalls_append (c : Collaborators) (r : MakeCredentials)
    (calls calls' : List PinUvAuthCall) :
    r.runCalls c (calls ++ calls') = (r.runCalls c calls).runCalls c calls' := by
  induction calls generalizing r with
  | nil => rfl
  | cons call calls ih => exact ih _

/-! ## 2. What one call writes -/

/-- The auth tag a call writes, if it writes one: a call without a token clears the tag, a call
whose derivation succeeds sets it, and every other call, a failed derivation included, leaves
it. -/
def PinUvAuthCall.tagWrite (c : Collaborators) (clientDataHash : ClientDataHash) :
    PinUvAuthCall → Option (Option PinUvAuthParam)
  | .setPinUvAuthParam none => some none
  | .setPinUvAuthParam (some token) =>
    match c.derive token clientDataHash with
    | .ok p => some (some p)
    | .error _ => none
  | _ => none

/-- The `uv` option a call writes, if it writes one. -/
def PinUvAuthCall.uvWrite : PinUvAuthCall → Option (Option Bool)
  | .setUvOption uv => some uv
  | _ => none

/-- What one call does: it writes the tag `tagWrite` names and the `uv` option `uvWrite` names,
and no other field. -/
theorem PinUvAuthCall.apply_eq (c : Collaborators) (r : MakeCredentials) (call : PinUvAuthCall) :
    call.apply c r =
      { r with pinUvAuthParam := (call.tagWrite c r.clientDataHash).getD r.pinUvAuthParam,
               options := { r.options with
                 userVerification := call.uvWrite.getD r.options.userVerification } } := by
  obtain ⟨hnone, hsome⟩ := setPinUvAuthParam_spec c r
  rcases call with (_ | token) | uv | ⟨info, uvReq⟩
  · rw [PinUvAuthCall.apply, hnone]; rfl
  · rcases hd : c.derive token r.clientDataHash with e | p
    · rw [PinUvAuthCall.apply, (hsome token).2 e hd]; simp [PinUvAuthCall.tagWrite, hd]; rfl
    · rw [PinUvAuthCall.apply, (hsome token).1 p hd]; simp [PinUvAuthCall.tagWrite, hd]; rfl
  · rfl
  · rfl

/-- A tag a call writes was derived from its token over the given client data hash. -/
theorem PinUvAuthCall.tagWrite_derived {c : Collaborators} {clientDataHash : ClientDataHash}
    {call : PinUvAuthCall} {p : PinUvAuthParam}
    (h : call.tagWrite c clientDataHash = some (some p)) :
    ∃ token, c.derive token clientDataHash = .ok p := by
  rcases call with (_ | token) | _ | _ <;> try cases h
  simp only [PinUvAuthCall.tagWrite] at h
  split at h
  · cases h; exact ⟨token, by assumption⟩
  · cases h

/-! ## 3. The frame of a run -/

/-- The request with the two fields a call may write erased: the auth tag and the `uv` option. -/
def MakeCredentials.core (r : MakeCredentials) : MakeCredentials :=
  { r with pinUvAuthParam := none, options := { r.options with userVerification := none } }

/-- `r'` is `r` with perhaps another `uv` option and another auth tag: `r`'s own tag, or none, or
a tag derived from some token over `r`'s client data hash. -/
structure MakeCredentials.AuthVariant (c : Collaborators) (r r' : MakeCredentials) : Prop where
  core_eq : r'.core = r.core
  tag : r'.pinUvAuthParam = r.pinUvAuthParam ∨
    ∀ p, r'.pinUvAuthParam = some p → ∃ token, c.derive token r.clientDataHash = .ok p

section Frame

variable {r r' : MakeCredentials}

/-- The fields the erasure keeps. -/
theorem MakeCredentials.core_eq_fields (h : r'.core = r.core) :
    r'.clientDataHash = r.clientDataHash ∧ r'.rp = r.rp ∧ r'.user = r.user ∧
      r'.pubCredParams = r.pubCredParams ∧ r'.excludeList = r.excludeList ∧
      r'.extensions = r.extensions ∧ r'.options.residentKey = r.options.residentKey ∧
      r'.enterpriseAttestation = r.enterpriseAttestation :=
  ⟨congrArg (·.clientDataHash) h, congrArg (·.rp) h, congrArg (·.user) h,
    congrArg (·.pubCredParams) h, congrArg (·.excludeList) h, congrArg (·.extensions) h,
    congrArg (·.options.residentKey) h, congrArg (·.enterpriseAttestation) h⟩

/-- A request is its core with its tag and its `uv` option put back. -/
theorem MakeCredentials.eq_of_core_eq (h : r'.core = r.core) :
    r' = { r with pinUvAuthParam := r'.pinUvAuthParam,
                  options := { r.options with userVerification := r'.options.userVerification } } := by
  obtain ⟨_, _, _, _, _, _, ⟨_, _⟩, _, _⟩ := r
  obtain ⟨_, _, _, _, _, _, ⟨_, _⟩, _, _⟩ := r'
  simp only [MakeCredentials.core, MakeCredentials.mk.injEq, MakeCredentialsOptions.mk.injEq] at h
  obtain ⟨rfl, rfl, rfl, rfl, rfl, rfl, ⟨rfl, -⟩, -, rfl⟩ := h
  rfl

theorem MakeCredentials.AuthVariant.refl (c : Collaborators) (r : MakeCredentials) :
    r.AuthVariant c r :=
  ⟨rfl, .inl rfl⟩

theorem MakeCredentials.AuthVariant.trans {c : Collaborators} {r₁ : MakeCredentials}
    (h₁ : r.AuthVariant c r₁) (h₂ : r₁.AuthVariant c r') : r.AuthVariant c r' := by
  have hcdh := (MakeCredentials.core_eq_fields h₁.core_eq).1
  refine ⟨h₂.core_eq.trans h₁.core_eq, ?_⟩
  rcases h₂.tag with h₂ | h₂
  · rw [h₂]; exact h₁.tag
  · exact .inr fun p hp => hcdh ▸ h₂ p hp

end Frame

theorem PinUvAuthCall.apply_authVariant (c : Collaborators) (r : MakeCredentials)
    (call : PinUvAuthCall) : r.AuthVariant c (call.apply c r) := by
  rw [call.apply_eq c r]
  refine ⟨rfl, ?_⟩
  rcases h : call.tagWrite c r.clientDataHash with _ | q
  · exact .inl rfl
  · exact .inr fun p hp => PinUvAuthCall.tagWrite_derived (h.trans (congrArg some hp))

theorem MakeCredentials.runCalls_authVariant (c : Collaborators) (r : MakeCredentials)
    (calls : List PinUvAuthCall) : r.AuthVariant c (r.runCalls c calls) := by
  induction calls generalizing r with
  | nil => exact .refl c r
  | cons call calls ih => exact (call.apply_authVariant c r).trans (ih _)

/-! ## 4. The reachable requests -/

/-- The requests a caller reaches from `r` are exactly `r` with any `uv` option and an auth tag
that is `r`'s own, none, or derived from some token over `r`'s client data hash. -/
theorem runCalls_reachable_iff (c : Collaborators) (r r' : MakeCredentials) :
    (∃ calls, r.runCalls c calls = r') ↔ r.AuthVariant c r' := by
  refine ⟨fun ⟨calls, h⟩ => h ▸ r.runCalls_authVariant c calls, fun h => ?_⟩
  -- Set the tag first, then the `uv` option.
  obtain ⟨first, hfirst⟩ :
      ∃ first, r.runCalls c first = { r with pinUvAuthParam := r'.pinUvAuthParam } := by
    rcases h.tag with heq | hder
    · exact ⟨[], by rw [heq]; rfl⟩
    · rcases hp : r'.pinUvAuthParam with _ | p
      · exact ⟨[.setPinUvAuthParam none], rfl⟩
      · obtain ⟨token, hd⟩ := hder p hp
        exact ⟨[.setPinUvAuthParam (some token)],
          congrArg Prod.fst (((setPinUvAuthParam_spec c r).2 token).1 p hd)⟩
  refine ⟨first ++ [.setUvOption r'.options.userVerification], ?_⟩
  rw [MakeCredentials.runCalls_append, hfirst]
  exact (MakeCredentials.eq_of_core_eq h.core_eq).symm

/-! ## 5. The last write wins -/

/-- The value the last writing call of a run gave, `init` when no call wrote. -/
def lastWrite (write : PinUvAuthCall → Option α) (init : α) (calls : List PinUvAuthCall) : α :=
  calls.foldl (fun acc call => (write call).getD acc) init

/-- After a run the request carries the auth tag of the last `set_pin_uv_auth_param` call that
did not fail (none when that call had no token) and the `uv` option of the last
`set_uv_option` call; a field no call wrote keeps its value. -/
theorem runCalls_last_write (c : Collaborators) (r : MakeCredentials)
    (calls : List PinUvAuthCall) :
    (r.runCalls c calls).pinUvAuthParam =
      lastWrite (·.tagWrite c r.clientDataHash) r.pinUvAuthParam calls ∧
    (r.runCalls c calls).options.userVerification =
      lastWrite PinUvAuthCall.uvWrite r.options.userVerification calls := by
  induction calls generalizing r with
  | nil => exact ⟨rfl, rfl⟩
  | cons call calls ih =>
    have h := ih (call.apply c r)
    rw [call.apply_eq c r] at h
    rw [MakeCredentials.runCalls, call.apply_eq c r]
    exact h

/-! ## 6. The wire map after a run -/

/-- The entries under keys other than 7, 8 and 9 are those of the core. -/
theorem serialize_filter_core (s : Encoders) (r : MakeCredentials) :
    (r.serialize s).entries.filter (fun e => e.1 ∉ [0x07, 0x08, 0x09]) =
      (r.core.serialize s).entries.filter (fun e => e.1 ∉ [0x07, 0x08, 0x09]) := by
  simp only [MakeCredentials.serialize, MakeCredentials.core, List.filter_append]
  split_ifs <;> split <;> rfl

theorem mem_serialize_tag (s : Encoders) (r : MakeCredentials) (v : Value) :
    (0x08, v) ∈ (r.serialize s).entries ↔
      ∃ p, r.pinUvAuthParam = some p ∧ v = s.pinUvAuthParam p := by
  simp only [MakeCredentials.serialize, List.mem_append, List.mem_cons, List.mem_ite_nil_right,
    Prod.mk.injEq, List.not_mem_nil, or_false]
  split <;> split <;> simp_all

/-- A run changes the wire map only under the keys 7, 8 and 9, and an auth tag on the wire after
it is the request's own or one derived from some token over its client data hash. -/
theorem runCalls_serialize (c : Collaborators) (s : Encoders) (r : MakeCredentials)
    (calls : List PinUvAuthCall) :
    ((r.runCalls c calls).serialize s).entries.filter (fun e => e.1 ∉ [0x07, 0x08, 0x09]) =
      (r.serialize s).entries.filter (fun e => e.1 ∉ [0x07, 0x08, 0x09]) ∧
    ∀ v, (0x08, v) ∈ ((r.runCalls c calls).serialize s).entries →
      (0x08, v) ∈ (r.serialize s).entries ∨
        ∃ token p, c.derive token r.clientDataHash = .ok p ∧ v = s.pinUvAuthParam p := by
  have h := r.runCalls_authVariant c calls
  refine ⟨by rw [serialize_filter_core, h.core_eq, ← serialize_filter_core], fun v hv => ?_⟩
  obtain ⟨p, hp, rfl⟩ := (mem_serialize_tag s _ v).mp hv
  rcases h.tag with heq | hder
  · exact .inl ((mem_serialize_tag s r _).mpr ⟨p, heq ▸ hp, rfl⟩)
  · obtain ⟨token, hd⟩ := hder p hp
    exact .inr ⟨token, p, hd, rfl⟩

/-! ## 7. What a run cannot change -/

/-- No call changes what the request decides or sends outside the wire map: at every step of a
run, the skip decision, the legacy register request and both response handlers are those of the
request the run started from. -/
theorem runCalls_decisions (c : Collaborators) (r : MakeCredentials) (calls : List PinUvAuthCall)
    (maybeInfo : Option AuthenticatorInfo) :
    (∀ info uvReq, (r.runCalls c calls).canSkipUserVerification info uvReq =
      r.canSkipUserVerification info uvReq) ∧
    (r.runCalls c calls).ctap1Format c = r.ctap1Format c ∧
    (∀ status input, (r.runCalls c calls).handleResponseCtap1 c maybeInfo status input =
      r.handleResponseCtap1 c maybeInfo status input) ∧
    (∀ input, (r.runCalls c calls).handleResponseCtap2 c maybeInfo input =
      r.handleResponseCtap2 c maybeInfo input) := by
  obtain ⟨hcdh, hrp, -, -, -, hext, hrk, -⟩ :=
    MakeCredentials.core_eq_fields (r.runCalls_authVariant c calls).core_eq
  have hcp := congrArg MakeCredentialsExtensions.credProps hext
  have hhs := congrArg MakeCredentialsExtensions.hmacSecret hext
  refine ⟨canSkipUserVerification_congr hrk, ?_, handleResponseCtap1_congr c (hrp ▸ rfl) hrk hcp hhs
    maybeInfo, handleResponseCtap2_congr c hrk hcp hhs maybeInfo⟩
  simp only [MakeCredentials.ctap1Format, hcdh, hrp]

/-! ## 8. The legacy transport, request to result -/

/-- On the legacy transport the result names the relying party the request was for: the register
request's application parameter is the `rpIdHash` of every result the handler returns for it,
and the result's raw authenticator data is the device's whole answer. -/
theorem handleResponseCtap1_binds_request (c : Collaborators) (r : MakeCredentials)
    (maybeInfo : Option AuthenticatorInfo) (status : Except ApduErrorStatus Unit)
    (input : List UInt8) (m : MakeCredentialsResult)
    (h : r.handleResponseCtap1 c maybeInfo status input = some (.ok m)) :
    r.ctap1Format c = c.ctap1RequestApdu c.u2fRegister c.u2fRequestUserPresence
        (r.clientDataHash.bytes ++ m.attObj.authData.rpIdHash.bytes) ∧
      m.attObj.authData.rawData = input := by
  obtain ⟨-, output, hout, rfl⟩ := handleResponseCtap1_eq_ok h
  obtain ⟨hrp, hraw⟩ := fromCtap1_ok_authData c input _ hout
  have hattObj : (r.finalizeResult maybeInfo output).attObj = output.attObj := by
    simp [MakeCredentials.finalizeResult]
  rw [hattObj, hrp]
  exact ⟨rfl, hraw⟩

/-- Collaborators whose certificate parser and key decoder accept every input, for concrete
legacy runs. -/
def acceptingU2f : Collaborators :=
  { (default : Collaborators) with
    parseU2fDerCertificate := fun b => .ok ⟨b, []⟩
    fromSec1Uncompressed := fun curve _ => .ok ⟨curve, [], []⟩ }

/-- The result of a registration with an empty key handle, for the collaborators above. -/
def emptyHandleResult : MakeCredentialsResult :=
  { attObj :=
      { authData :=
          { rpIdHash := default
            flags := .userPresent ||| .attested
            counter := 0
            credentialData := some ⟨default, [], ⟨.es256, .ec2 ⟨.secp256r1, [], []⟩⟩⟩
            extensions := default
            rawData := 0x05 :: (List.replicate 65 4 ++ [0]) }
        attStmt := .fidoU2F (.new [] []) }
    attachment := .unknown
    extensions := default }

theorem handleResponseCtap1_binds_request_empty_handle :
    exampleRequest.handleResponseCtap1 acceptingU2f none (.ok ())
        (0x05 :: (List.replicate 65 4 ++ [0])) = some (.ok emptyHandleResult) ∧
    exampleRequest.ctap1Format acceptingU2f =
      acceptingU2f.ctap1RequestApdu acceptingU2f.u2fRegister acceptingU2f.u2fRequestUserPresence
        ((default : ClientDataHash).bytes ++ emptyHandleResult.attObj.authData.rpIdHash.bytes) :=
  have h : exampleRequest.handleResponseCtap1 acceptingU2f none (.ok ())
      (0x05 :: (List.replicate 65 4 ++ [0])) = some (.ok emptyHandleResult) := rfl
  ⟨h, (handleResponseCtap1_binds_request acceptingU2f _ none (.ok ()) _ _ h).1⟩

end Ctap2
