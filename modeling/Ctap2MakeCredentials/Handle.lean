import Ctap2MakeCredentials.Decode
import Ctap2MakeCredentials.Ctap1
import Ctap2MakeCredentials.Policy

/-!
# The response handlers

`handle_response_ctap1` classifies the APDU status, then parses the U2F registration and
reconciles the result; `handle_response_ctap2` reads the status byte and either decodes the
response map or keeps the device's diagnostic value. Both index or slice the input, so both
return `Option` around their `Result`, `none` being a panic.
-/

namespace Ctap2

/-- The index `xs[i]`, `none` where Rust panics. -/
def index (xs : List α) (i : Nat) : Option α := xs[i]?

/-- `serde_cbor::from_slice::<MakeCredentialsResult>`: the slice reader splits the bytes into the
head of the first item and the items after it; then `deserialize_bytes` with the visitor of
`Decode`, and `Deserializer::end`. -/
def MakeCredentialsResult.fromSlice (c : Collaborators) (bytes : List UInt8) :
    Except DeError MakeCredentialsResult := do
  let (opening, items) ← c.sliceItems bytes
  deserializeBytes c opening items >>= checkEnd

def MakeCredentials.handleResponseCtap1 (c : Collaborators) (r : MakeCredentials)
    (maybeInfo : Option AuthenticatorInfo) (status : Except ApduErrorStatus Unit)
    (input : List UInt8) : Option (Except (Retryable HIDError) MakeCredentialsResult) :=
  match status with
  | .error .conditionsNotSatisfied => some (.error .retry)
  | .error err => some (.error (.error (.apduStatus err)))
  | .ok () =>
    (MakeCredentialsResult.fromCtap1 c input (c.rpHash r.rp)).map fun output =>
      match output with
      | .ok output => .ok (r.finalizeResult maybeInfo output)
      | .error e => .error (.error (.command e))

def MakeCredentials.handleResponseCtap2 (c : Collaborators) (r : MakeCredentials)
    (maybeInfo : Option AuthenticatorInfo) (input : List UInt8) :
    Option (Except HIDError MakeCredentialsResult) :=
  if input.isEmpty then some (.error (.command .inputTooSmall))
  else
    (index input 0).bind fun code =>
      let status : StatusCode := ⟨code⟩
      if input.length == 1 then
        if c.statusIsOk status.code then some (.error (.command .inputTooSmall))
        else some (.error (.command (.statusCode status none)))
      else
        (sliceFrom input 1).map fun body =>
          if c.statusIsOk status.code then
            match MakeCredentialsResult.fromSlice c body with
            | .ok output => .ok (r.finalizeResult maybeInfo output)
            | .error e => .error (.command (.deserializing e))
          else
            match c.valueFromSlice body with
            | .ok data => .error (.command (.statusCode status (some data)))
            | .error e => .error (.command (.deserializing e))

/-! ## 1. The CTAP1 handler -/

theorem handleResponseCtap1_spec (c : Collaborators) (r : MakeCredentials)
    (maybeInfo : Option AuthenticatorInfo) (status : Except ApduErrorStatus Unit)
    (input : List UInt8) :
    (r.handleResponseCtap1 c maybeInfo status input = some (.error .retry) ↔
      status = .error .conditionsNotSatisfied) ∧
    (∀ e, e ≠ .conditionsNotSatisfied →
      (r.handleResponseCtap1 c maybeInfo status input = some (.error (.error (.apduStatus e))) ↔
        status = .error e)) ∧
    (status = .ok () →
      r.handleResponseCtap1 c maybeInfo status input =
        (MakeCredentialsResult.fromCtap1 c input (c.rpHash r.rp)).map fun output =>
          match output with
          | .ok output => .ok (r.finalizeResult maybeInfo output)
          | .error e => .error (.error (.command e))) := by
  rcases status with (_ | _ | _ | _) | ⟨⟩
  · simp [MakeCredentials.handleResponseCtap1, eq_comm]
  iterate 3 simp [MakeCredentials.handleResponseCtap1]
  simp only [MakeCredentials.handleResponseCtap1]
  rcases MakeCredentialsResult.fromCtap1 c input (c.rpHash r.rp) with _ | _ | _ <;> simp

/-! ## 2. The CTAP2 handler -/

theorem handleResponseCtap2_nil (c : Collaborators) (r : MakeCredentials)
    (maybeInfo : Option AuthenticatorInfo) :
    r.handleResponseCtap2 c maybeInfo [] = some (.error (.command .inputTooSmall)) := rfl

theorem handleResponseCtap2_single (c : Collaborators) (r : MakeCredentials)
    (maybeInfo : Option AuthenticatorInfo) (code : UInt8) :
    r.handleResponseCtap2 c maybeInfo [code] =
      some (if c.statusIsOk code then .error (.command .inputTooSmall)
        else .error (.command (.statusCode ⟨code⟩ none))) := by
  cases h : c.statusIsOk code <;> simp [MakeCredentials.handleResponseCtap2, index, h]

theorem handleResponseCtap2_body (c : Collaborators) (r : MakeCredentials)
    (maybeInfo : Option AuthenticatorInfo) (code : UInt8) {body : List UInt8} (hbody : body ≠ []) :
    r.handleResponseCtap2 c maybeInfo (code :: body) =
      some (if c.statusIsOk code then
          match MakeCredentialsResult.fromSlice c body with
          | .ok output => .ok (r.finalizeResult maybeInfo output)
          | .error e => .error (.command (.deserializing e))
        else
          match c.valueFromSlice body with
          | .ok data => .error (.command (.statusCode ⟨code⟩ (some data)))
          | .error e => .error (.command (.deserializing e))) := by
  have hlen : (code :: body).length ≠ 1 := by cases body <;> simp_all
  simp [MakeCredentials.handleResponseCtap2, index, sliceFrom, hlen, hbody]

theorem handleResponseCtap2_spec (c : Collaborators) (r : MakeCredentials)
    (maybeInfo : Option AuthenticatorInfo) (input : List UInt8) :
    ∃ res, r.handleResponseCtap2 c maybeInfo input = some res ∧
      (input = [] → res = .error (.command .inputTooSmall)) ∧
      (∀ code, input = [code] →
        res = if c.statusIsOk code then .error (.command .inputTooSmall)
          else .error (.command (.statusCode ⟨code⟩ none))) ∧
      (∀ code body, input = code :: body → body ≠ [] → c.statusIsOk code = false →
        res = match c.valueFromSlice body with
          | .ok data => .error (.command (.statusCode ⟨code⟩ (some data)))
          | .error e => .error (.command (.deserializing e))) ∧
      (∀ m, res = .ok m ↔ ∃ code body output, input = code :: body ∧ body ≠ [] ∧
        c.statusIsOk code ∧ MakeCredentialsResult.fromSlice c body = .ok output ∧
        m = r.finalizeResult maybeInfo output) := by
  rcases input with _ | ⟨code, _ | ⟨b, body⟩⟩
  · exact ⟨_, handleResponseCtap2_nil c r maybeInfo, fun _ => rfl, by simp, by simp, by simp⟩
  · refine ⟨_, handleResponseCtap2_single c r maybeInfo code, by simp, by simp, by simp, ?_⟩
    intro m; split <;> simp
  · refine ⟨_, handleResponseCtap2_body c r maybeInfo code (List.cons_ne_nil b body), by simp,
      by simp, fun code' body' h _ hs => ?_, fun m => ?_⟩
    · obtain ⟨rfl, rfl⟩ := List.cons.inj h
      simp [hs]
    · simp only [List.cons.injEq, ne_eq, and_assoc, exists_and_left, exists_eq_left',
        reduceCtorEq, not_false_eq_true, true_and]
      cases c.statusIsOk code
      · simp only [Bool.false_eq_true, if_false, false_and, iff_false]
        split <;> simp
      · cases MakeCredentialsResult.fromSlice c (b :: body) <;> simp [eq_comm]

/-! ## 3. Both handlers -/

theorem handleResponse_spec (c : Collaborators) (r : MakeCredentials)
    (maybeInfo : Option AuthenticatorInfo) :
    (∀ status input,
      (r.handleResponseCtap1 c maybeInfo status input = some (.error .retry) ↔
        status = .error .conditionsNotSatisfied) ∧
      (∀ e, e ≠ .conditionsNotSatisfied →
        (r.handleResponseCtap1 c maybeInfo status input = some (.error (.error (.apduStatus e))) ↔
          status = .error e)) ∧
      (status = .ok () →
        r.handleResponseCtap1 c maybeInfo status input =
          (MakeCredentialsResult.fromCtap1 c input (c.rpHash r.rp)).map fun output =>
            match output with
            | .ok output => .ok (r.finalizeResult maybeInfo output)
            | .error e => .error (.error (.command e)))) ∧
    ∀ input,
      ∃ res, r.handleResponseCtap2 c maybeInfo input = some res ∧
        (input = [] → res = .error (.command .inputTooSmall)) ∧
        (∀ code, input = [code] →
          res = if c.statusIsOk code then .error (.command .inputTooSmall)
            else .error (.command (.statusCode ⟨code⟩ none))) ∧
        (∀ code body, input = code :: body → body ≠ [] → c.statusIsOk code = false →
          res = match c.valueFromSlice body with
            | .ok data => .error (.command (.statusCode ⟨code⟩ (some data)))
            | .error e => .error (.command (.deserializing e))) ∧
        (∀ m, res = .ok m ↔ ∃ code body output, input = code :: body ∧ body ≠ [] ∧
          c.statusIsOk code ∧ MakeCredentialsResult.fromSlice c body = .ok output ∧
          m = r.finalizeResult maybeInfo output) :=
  ⟨handleResponseCtap1_spec c r maybeInfo, handleResponseCtap2_spec c r maybeInfo⟩

/-! ## 4. What the handlers read of the request -/

theorem handleResponseCtap2_congr (c : Collaborators) {r r' : MakeCredentials}
    (hrk : r'.options.residentKey = r.options.residentKey)
    (hcp : r'.extensions.credProps = r.extensions.credProps)
    (hhs : r'.extensions.hmacSecret = r.extensions.hmacSecret)
    (maybeInfo : Option AuthenticatorInfo) (input : List UInt8) :
    r'.handleResponseCtap2 c maybeInfo input = r.handleResponseCtap2 c maybeInfo input := by
  simp only [MakeCredentials.handleResponseCtap2, finalizeResult_congr hrk hcp hhs]

theorem handleResponseCtap1_congr (c : Collaborators) {r r' : MakeCredentials}
    (hrp : c.rpHash r'.rp = c.rpHash r.rp)
    (hrk : r'.options.residentKey = r.options.residentKey)
    (hcp : r'.extensions.credProps = r.extensions.credProps)
    (hhs : r'.extensions.hmacSecret = r.extensions.hmacSecret)
    (maybeInfo : Option AuthenticatorInfo) (status : Except ApduErrorStatus Unit)
    (input : List UInt8) :
    r'.handleResponseCtap1 c maybeInfo status input = r.handleResponseCtap1 c maybeInfo status input := by
  simp only [MakeCredentials.handleResponseCtap1, hrp, finalizeResult_congr hrk hcp hhs]

/-- A request for `example.com` with nothing optional. -/
def exampleRequest : MakeCredentials :=
  MakeCredentials.new default ⟨"example.com", none⟩ none [] [] {} {}

/-! ## 5. Unknown keys, end to end -/

/-- A slice the reader reads as the encoding of `v` decodes as `v` does. -/
theorem fromSlice_eq_fromSliceOf (c : Collaborators) {bytes : List UInt8} (v : Value)
    (h : c.sliceItems bytes = .ok v.opening) :
    MakeCredentialsResult.fromSlice c bytes = MakeCredentialsResult.fromSliceOf c v := by
  simp only [MakeCredentialsResult.fromSlice, MakeCredentialsResult.fromSliceOf,
    MakeCredentialsResult.deserialize, h, ok_bind, List.append_nil]

/-- A success response whose map holds a key outside 1, 2 and 3 never yields a result. -/
theorem handleResponseCtap2_rejects_unknown_key (c : Collaborators) (r : MakeCredentials)
    (maybeInfo : Option AuthenticatorInfo) (code : UInt8) (body : List UInt8)
    (es : List (Value × Value)) (m : MakeCredentialsResult)
    (hitems : c.sliceItems body = .ok (.map es.length, entryItems es))
    (hunknown : ∃ e ∈ es, e.1 ≠ .integer 1 ∧ e.1 ≠ .integer 2 ∧ e.1 ≠ .integer 3) :
    r.handleResponseCtap2 c maybeInfo (code :: body) ≠ some (.ok m) := by
  have hslice := fromSlice_eq_fromSliceOf c (.map es) hitems
  intro h
  rcases body with _ | ⟨b, body⟩
  · rw [handleResponseCtap2_single] at h
    split at h <;> simp at h
  · rw [handleResponseCtap2_body c r maybeInfo code (List.cons_ne_nil b body), Option.some.injEq] at h
    split at h
    · split at h
      · rename_i output hout
        obtain ⟨e, he, h1, h2, h3⟩ := hunknown
        obtain ⟨k, hk, hk'⟩ := Value.isKnownKey_iff.mp
          (fromSliceOf_map_knownKeys c es (hslice ▸ hout) e he)
        rcases hk' with rfl | rfl | rfl <;> contradiction
      · cases h
    · split at h <;> cases h

/-- A reader that finds a map of four entries, the last under key 4, as a CTAP 2.1 device
sends for `epAtt`. -/
def epAttReader : Collaborators :=
  { acceptingAuthData with
    sliceItems := fun _ => .ok (.map 4, entryItems
      [(.integer 1, .text "none"), (.integer 2, .bytes []), (.integer 3, .map []),
        (.integer 4, .bool true)]) }

theorem handleResponseCtap2_rejects_epAtt :
    epAttReader.sliceItems [0xa4] =
        .ok (.map [(Value.integer 1, Value.text "none"), (.integer 2, .bytes []),
          (.integer 3, .map []), (.integer 4, .bool true)].length,
          entryItems [(.integer 1, .text "none"), (.integer 2, .bytes []), (.integer 3, .map []),
            (.integer 4, .bool true)]) ∧
      (∃ e ∈ [(Value.integer 1, Value.text "none"), (.integer 2, .bytes []), (.integer 3, .map []),
          (.integer 4, .bool true)],
        e.1 ≠ .integer 1 ∧ e.1 ≠ .integer 2 ∧ e.1 ≠ .integer 3) ∧
      (MakeCredentials.new default ⟨"example.com", none⟩ none [] [] {} {}).handleResponseCtap2
        epAttReader none [0x00, 0xa4] ≠ some (.ok ⟨⟨default, .none⟩, .unknown, {}⟩) :=
  ⟨rfl, ⟨(.integer 4, .bool true), by simp, by simp⟩,
    handleResponseCtap2_rejects_unknown_key epAttReader _ none 0x00 [0xa4]
      [(.integer 1, .text "none"), (.integer 2, .bytes []), (.integer 3, .map []),
        (.integer 4, .bool true)] _ rfl ⟨(.integer 4, .bool true), by simp, by simp⟩⟩

/-! ## 6. The virtual device, and every result is final -/

/-- `send_to_virtual_device`, the same body in `RequestCtap1` and `RequestCtap2`: the virtual
device's own `make_credentials`, its error passed on by `?`, then `finalize_result`. -/
def MakeCredentials.sendToVirtualDevice (r : MakeCredentials) (maybeInfo : Option AuthenticatorInfo)
    (makeCredentials : MakeCredentials → Except HIDError MakeCredentialsResult) :
    Except HIDError MakeCredentialsResult := do
  let output ← makeCredentials r
  pure (r.finalizeResult maybeInfo output)

theorem handleResponseCtap1_eq_ok {c : Collaborators} {r : MakeCredentials}
    {maybeInfo : Option AuthenticatorInfo} {status : Except ApduErrorStatus Unit}
    {input : List UInt8} {m : MakeCredentialsResult}
    (h : r.handleResponseCtap1 c maybeInfo status input = some (.ok m)) :
    status = .ok () ∧ ∃ output, MakeCredentialsResult.fromCtap1 c input (c.rpHash r.rp) =
      some (.ok output) ∧ m = r.finalizeResult maybeInfo output := by
  rcases status with (_ | _ | _ | _) | ⟨⟩ <;> simp only [MakeCredentials.handleResponseCtap1] at h
  iterate 4 cases h
  rcases hp : MakeCredentialsResult.fromCtap1 c input (c.rpHash r.rp) with _ | _ | output <;>
    simp [hp] at h
  exact ⟨rfl, output, rfl, h.symm⟩

theorem handleResponseCtap2_eq_ok {c : Collaborators} {r : MakeCredentials}
    {maybeInfo : Option AuthenticatorInfo} {input : List UInt8} {m : MakeCredentialsResult}
    (h : r.handleResponseCtap2 c maybeInfo input = some (.ok m)) :
    ∃ output, m = r.finalizeResult maybeInfo output := by
  obtain ⟨res, hres, -, -, -, hok⟩ := handleResponseCtap2_spec c r maybeInfo input
  obtain ⟨-, -, output, -, -, -, -, hm⟩ := (hok m).mp (Option.some.inj (hres.symm.trans h))
  exact ⟨output, hm⟩

theorem sendToVirtualDevice_eq_ok {r : MakeCredentials} {maybeInfo : Option AuthenticatorInfo}
    {makeCredentials : MakeCredentials → Except HIDError MakeCredentialsResult}
    {m : MakeCredentialsResult} (h : r.sendToVirtualDevice maybeInfo makeCredentials = .ok m) :
    ∃ output, makeCredentials r = .ok output ∧ m = r.finalizeResult maybeInfo output := by
  rcases hd : makeCredentials r with e | output <;>
    simp [MakeCredentials.sendToVirtualDevice, hd] at h
  exact ⟨output, rfl, h.symm⟩

theorem finalizeResult_attachment (r : MakeCredentials) (maybeInfo : Option AuthenticatorInfo)
    (result : MakeCredentialsResult) :
    (r.finalizeResult maybeInfo result).attachment = attachmentOf maybeInfo := by
  simp [MakeCredentials.finalizeResult]

/-- Whatever the transport, a result the command returns has been through `finalize_result` for
this request and device snapshot: its attachment is the snapshot's, and finalizing it again
changes nothing. -/
theorem outputs_finalized (c : Collaborators) (r : MakeCredentials)
    (maybeInfo : Option AuthenticatorInfo) (m : MakeCredentialsResult)
    (h : (∃ status input, r.handleResponseCtap1 c maybeInfo status input = some (.ok m)) ∨
      (∃ input, r.handleResponseCtap2 c maybeInfo input = some (.ok m)) ∨
      ∃ makeCredentials, r.sendToVirtualDevice maybeInfo makeCredentials = .ok m) :
    m.attachment = attachmentOf maybeInfo ∧ r.finalizeResult maybeInfo m = m := by
  obtain ⟨output, rfl⟩ : ∃ output, m = r.finalizeResult maybeInfo output := by
    rcases h with ⟨status, input, h⟩ | ⟨input, h⟩ | ⟨makeCredentials, h⟩
    · exact (handleResponseCtap1_eq_ok h).2.imp fun _ h => h.2
    · exact handleResponseCtap2_eq_ok h
    · exact (sendToVirtualDevice_eq_ok h).imp fun _ h => h.2
  exact ⟨finalizeResult_attachment r maybeInfo output,
    finalizeResult_idempotent r maybeInfo output⟩

theorem outputs_finalized_virtual :
    (∃ makeCredentials,
      exampleRequest.sendToVirtualDevice (some ⟨[.fido21], { platformDevice := true }⟩)
        makeCredentials = .ok ⟨⟨default, .none⟩, .platform, {}⟩) ∧
    (⟨⟨default, .none⟩, .platform, {}⟩ : MakeCredentialsResult).attachment =
      attachmentOf (some ⟨[.fido21], { platformDevice := true }⟩) ∧
    exampleRequest.finalizeResult (some ⟨[.fido21], { platformDevice := true }⟩)
      ⟨⟨default, .none⟩, .platform, {}⟩ = ⟨⟨default, .none⟩, .platform, {}⟩ :=
  have hdev : ∃ makeCredentials,
      exampleRequest.sendToVirtualDevice (some ⟨[.fido21], { platformDevice := true }⟩)
        makeCredentials = .ok ⟨⟨default, .none⟩, .platform, {}⟩ :=
    ⟨fun _ => .ok ⟨⟨default, .none⟩, .unknown, {}⟩, rfl⟩
  ⟨hdev, outputs_finalized default exampleRequest (some ⟨[.fido21], { platformDevice := true }⟩)
    ⟨⟨default, .none⟩, .platform, {}⟩ (.inr (.inr hdev))⟩

end Ctap2
