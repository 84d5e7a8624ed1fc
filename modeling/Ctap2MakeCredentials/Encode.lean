import Ctap2MakeCredentials.Request

/-!
# The request encoders

`impl Serialize for MakeCredentials` counts the map's entries under one chain of presence tests,
opens a definite-length map with that count, and then writes the entries under a second chain.
`serde_cbor` writes the header before the first entry and its `end` checks nothing, so the two
chains must agree or the request reaches the device as a malformed map. The model keeps what the
serializer is handed, the declared length and the entries in write order (`MapWrites`).

The two option groups derive `Serialize` in this file and are modelled with it; the types of
`ctap2::server` and `crypto` serialize through impls that are not under src/, taken as the
parameter `Encoders`. The legacy request is a U2F register APDU (`ctap1Format`).
-/

namespace Ctap2

/-- The `Serialize` impls of the sibling types that the request serializer calls. -/
structure Encoders where
  clientDataHash : ClientDataHash → Value
  rp : RelyingParty → Value
  user : PublicKeyCredentialUserEntity → Value
  pubCredParams : PublicKeyCredentialParameters → Value
  excludeList : PublicKeyCredentialDescriptor → Value
  credProtect : CredentialProtectionPolicy → Value
  pinUvAuthParam : PinUvAuthParam → Value

instance : Inhabited Encoders := ⟨{
  clientDataHash := fun h => .bytes h.bytes
  rp := fun _ => .map []
  user := fun _ => .map []
  pubCredParams := fun _ => .map []
  excludeList := fun _ => .map []
  credProtect := fun _ => .integer 1
  pinUvAuthParam := fun p => .bytes p.param }⟩

/-- The sibling serializers whose output lands directly under a request key never write CBOR
`null`: they write byte strings and maps. -/
structure Encoders.NeverNull (s : Encoders) : Prop where
  clientDataHash : ∀ h, (s.clientDataHash h).isNull = false
  rp : ∀ rp, (s.rp rp).isNull = false
  user : ∀ u, (s.user u).isNull = false
  pinUvAuthParam : ∀ p, (s.pinUvAuthParam p).isNull = false

theorem default_neverNull : (default : Encoders).NeverNull :=
  ⟨fun _ => rfl, fun _ => rfl, fun _ => rfl, fun _ => rfl⟩

/-! ## 1. The derived serializers -/

/-- serde's `Option<T>`: `None` is written as CBOR `null` and `Some(x)` as `x`. -/
def serializeOption (f : α → Value) : Option α → Value
  | none => .null
  | some a => f a

/-- A field with `skip_serializing_if = "Option::is_none"`, under its renamed key. -/
def optionalField (key : String) (f : α → Value) : Option α → List (Value × Value)
  | none => []
  | some a => [(.text key, f a)]

/-- The derived `Serialize` of `MakeCredentialsOptions`. -/
def MakeCredentialsOptions.serialize (o : MakeCredentialsOptions) : Value :=
  .map (optionalField "rk" .bool o.residentKey ++ optionalField "uv" .bool o.userVerification)

/-- The derived `Serialize` of `MakeCredentialsExtensions`; `cred_props` is `skip_serializing`. -/
def MakeCredentialsExtensions.serialize (s : Encoders) (e : MakeCredentialsExtensions) : Value :=
  .map (optionalField "credProtect" s.credProtect e.credProtect ++
    optionalField "hmac-secret" .bool e.hmacSecret ++
    optionalField "minPinLength" .bool e.minPinLength)

@[simp] theorem MakeCredentialsOptions.serialize_isNull (o : MakeCredentialsOptions) :
    o.serialize.isNull = false := rfl

@[simp] theorem MakeCredentialsExtensions.serialize_isNull (s : Encoders)
    (e : MakeCredentialsExtensions) : (e.serialize s).isNull = false := rfl

theorem serializeOption_isNull (f : α → Value) (hf : ∀ a, (f a).isNull = false) (o : Option α) :
    (serializeOption f o).isNull = true ↔ o = none := by
  cases o <;> simp [serializeOption, hf]

/-- A map of the option group's fields, which the request writes only when it is not empty. -/
def IsNonemptyMap : Value → Prop
  | .map (_ :: _) => True
  | _ => False

theorem MakeCredentialsOptions.serialize_nonempty (o : MakeCredentialsOptions) (h : o.hasSome) :
    IsNonemptyMap o.serialize := by
  obtain ⟨_ | rk, _ | uv⟩ := o <;> simp_all [serialize, hasSome, optionalField, IsNonemptyMap]

theorem MakeCredentialsExtensions.serialize_nonempty (s : Encoders) (e : MakeCredentialsExtensions)
    (h : e.hasContent) : IsNonemptyMap (e.serialize s) := by
  obtain ⟨_, _ | p, _ | b, _ | m⟩ := e <;>
    simp_all [serialize, hasContent, optionalField, IsNonemptyMap]

/-! ## 2. `MakeCredentials::serialize` -/

/-- What the request serializer hands `serde_cbor`'s map serializer: the length given to
`serialize_map`, and the entries given to `serialize_entry` in the order they are written. -/
structure MapWrites where
  declaredLen : Nat
  entries : List (Nat × Value)

def MapWrites.keys (map : MapWrites) : List Nat := map.entries.map Prod.fst

/-- The first chain of presence tests: the `map_len` that `serialize_map` is given. -/
def MakeCredentials.mapLen (r : MakeCredentials) : Nat :=
  4 + (if !r.excludeList.isEmpty then 1 else 0) + (if r.extensions.hasContent then 1 else 0) +
    (if r.options.hasSome then 1 else 0) + (if r.pinUvAuthParam.isSome then 2 else 0) +
    (if r.enterpriseAttestation.isSome then 1 else 0)

/-- `MakeCredentials::serialize`: the declared length, then the entries of the second chain. -/
def MakeCredentials.serialize (s : Encoders) (r : MakeCredentials) : MapWrites :=
  { declaredLen := r.mapLen
    entries :=
      [(0x01, s.clientDataHash r.clientDataHash), (0x02, s.rp r.rp),
        (0x03, serializeOption s.user r.user),
        (0x04, .array (r.pubCredParams.map s.pubCredParams))] ++
      (if !r.excludeList.isEmpty then [(0x05, .array (r.excludeList.map s.excludeList))]
        else []) ++
      (if r.extensions.hasContent then [(0x06, r.extensions.serialize s)] else []) ++
      (if r.options.hasSome then [(0x07, r.options.serialize)] else []) ++
      (match r.pinUvAuthParam with
        | some pinUvAuthParam =>
          [(0x08, s.pinUvAuthParam pinUvAuthParam),
            (0x09, .integer pinUvAuthParam.pinProtocol.id.toNat)]
        | none => []) ++
      (match r.enterpriseAttestation with
        | some enterpriseAttestation => [(0x0a, .integer enterpriseAttestation.toNat)]
        | none => []) }

/-- The keys the second chain writes, in order, from its five presence tests. -/
def writtenKeys (excludeList extensions options pinUvAuthParam enterpriseAttestation : Bool) :
    List Nat :=
  [0x01, 0x02, 0x03, 0x04] ++ (if excludeList then [0x05] else []) ++
    (if extensions then [0x06] else []) ++ (if options then [0x07] else []) ++
    (if pinUvAuthParam then [0x08, 0x09] else []) ++ (if enterpriseAttestation then [0x0a] else [])

theorem writtenKeys_spec : ∀ x e o p a : Bool,
    (writtenKeys x e o p a).length = 4 + (if x then 1 else 0) + (if e then 1 else 0) +
      (if o then 1 else 0) + (if p then 2 else 0) + (if a then 1 else 0) ∧
    (writtenKeys x e o p a).Pairwise (· < ·) ∧
    (∀ k ∈ writtenKeys x e o p a, 1 ≤ k ∧ k ≤ 10) ∧
    (8 ∈ writtenKeys x e o p a ↔ 9 ∈ writtenKeys x e o p a) := by
  decide

private theorem map_fst_ite (c : Bool) (l : List (Nat × Value)) :
    (if c then l else []).map Prod.fst = if c then l.map Prod.fst else [] := by
  cases c <;> rfl

theorem serialize_keys (s : Encoders) (r : MakeCredentials) :
    (r.serialize s).keys = writtenKeys (!r.excludeList.isEmpty) r.extensions.hasContent
      r.options.hasSome r.pinUvAuthParam.isSome r.enterpriseAttestation.isSome := by
  obtain ⟨h, rp, user, pub, excl, ext, opts, _ | pin, _ | ea⟩ := r <;>
    simp only [MakeCredentials.serialize, MapWrites.keys, List.map_append, map_fst_ite] <;> rfl

/-- What each written entry can be: the second chain as an eliminator. -/
theorem serialize_entries_forall (s : Encoders) (r : MakeCredentials) {P : Nat × Value → Prop}
    (h1 : P (0x01, s.clientDataHash r.clientDataHash)) (h2 : P (0x02, s.rp r.rp))
    (h3 : P (0x03, serializeOption s.user r.user)) (h4 : ∀ vs, P (0x04, .array vs))
    (h5 : ∀ vs, P (0x05, .array vs))
    (h6 : r.extensions.hasContent → P (0x06, r.extensions.serialize s))
    (h7 : r.options.hasSome → P (0x07, r.options.serialize))
    (h8 : ∀ p, P (0x08, s.pinUvAuthParam p)) (h9 : ∀ i, P (0x09, .integer i))
    (h10 : ∀ i, P (0x0a, .integer i)) :
    ∀ e ∈ (r.serialize s).entries, P e := by
  intro e he
  simp only [MakeCredentials.serialize, List.mem_append, List.mem_cons, List.mem_ite_nil_right,
    List.mem_singleton, List.not_mem_nil, or_false] at he
  rcases he with (((((rfl | rfl | rfl | rfl) | ⟨-, rfl⟩) | ⟨hc, rfl⟩) | ⟨hc, rfl⟩) | hpin) | hea
  · exact h1
  · exact h2
  · exact h3
  · exact h4 _
  · exact h5 _
  · exact h6 hc
  · exact h7 hc
  · split at hpin
    · rcases hpin with _ | ⟨_, _ | ⟨_, ⟨⟩⟩⟩
      · exact h8 _
      · exact h9 _
    · cases hpin
  · split at hea
    · rcases hea with _ | ⟨_, ⟨⟩⟩
      exact h10 _
    · cases hea

/-! ## 3. The declared length is the written length -/

theorem serialize_map_wellFormed (s : Encoders) (r : MakeCredentials) :
    (r.serialize s).declaredLen = 4 + (if !r.excludeList.isEmpty then 1 else 0) +
      (if r.extensions.hasContent then 1 else 0) + (if r.options.hasSome then 1 else 0) +
      (if r.pinUvAuthParam.isSome then 2 else 0) +
      (if r.enterpriseAttestation.isSome then 1 else 0) ∧
    (r.serialize s).entries.length = (r.serialize s).declaredLen ∧
    (r.serialize s).keys.Pairwise (· < ·) ∧
    (∀ k ∈ (r.serialize s).keys, 1 ≤ k ∧ k ≤ 10) ∧
    (8 ∈ (r.serialize s).keys ↔ 9 ∈ (r.serialize s).keys) := by
  have hlen : (r.serialize s).entries.length = (r.serialize s).keys.length :=
    (List.length_map _ _).symm
  rw [hlen, serialize_keys]
  exact ⟨rfl, writtenKeys_spec ..⟩

/-! ## 4. Which fields reach the wire

Key 3 is counted in the base length and written unconditionally, so a request without a user
entity (the CTAP1 marker) writes `3: null`. Every other optional group is written exactly when
it has content, and the two nested maps are then non-empty. -/

theorem serialize_user_none_null :
    ¬ ∀ (s : Encoders) (r : MakeCredentials), ∀ e ∈ (r.serialize s).entries, e.2.isNull = false := by
  intro h
  have := h default (MakeCredentials.new default ⟨"example.com", none⟩ none [] [] {} {}) (0x03, .null)
    (by simp [MakeCredentials.serialize, MakeCredentials.new, serializeOption])
  simp at this

theorem serialize_writes_present_fields (s : Encoders) (hs : s.NeverNull) (r : MakeCredentials) :
    (r.serialize s).keys = writtenKeys (!r.excludeList.isEmpty)
      (r.extensions.credProtect.isSome || r.extensions.hmacSecret.isSome ||
        r.extensions.minPinLength.isSome)
      (r.options.residentKey.isSome || r.options.userVerification.isSome)
      r.pinUvAuthParam.isSome r.enterpriseAttestation.isSome ∧
    (∀ e ∈ (r.serialize s).entries, e.2.isNull = true ↔ e.1 = 0x03 ∧ r.user = none) ∧
    (∀ e ∈ (r.serialize s).entries, e.1 = 0x06 ∨ e.1 = 0x07 → IsNonemptyMap e.2) := by
  refine ⟨serialize_keys s r, serialize_entries_forall s r ?_ ?_ ?_ ?_ ?_ ?_ ?_ ?_ ?_ ?_,
    serialize_entries_forall s r ?_ ?_ ?_ ?_ ?_
      (fun h _ => MakeCredentialsExtensions.serialize_nonempty s _ h)
      (fun h _ => MakeCredentialsOptions.serialize_nonempty _ h) ?_ ?_ ?_⟩ <;>
    simp [hs.clientDataHash, hs.rp, hs.pinUvAuthParam, serializeOption_isNull _ hs.user]

theorem serialize_writes_present_fields_userless :
    (default : Encoders).NeverNull ∧
      ∀ e ∈ ((MakeCredentials.new default ⟨"example.com", none⟩ none [] [] {} {}).serialize
          default).entries,
        e.2.isNull = true ↔
          e.1 = 0x03 ∧ (MakeCredentials.new default ⟨"example.com", none⟩ none [] [] {} {}).user = none :=
  ⟨default_neverNull, (serialize_writes_present_fields default default_neverNull _).2.1⟩

/-! ## 5. The legacy request -/

/-- `RequestCtap1::ctap1_format`: a U2F register APDU over the client data hash and the hash of
the relying party. -/
def MakeCredentials.ctap1Format (c : Collaborators) (r : MakeCredentials) :
    Except HIDError (List UInt8) :=
  let flags := c.u2fRequestUserPresence
  let registerData := r.clientDataHash.bytes ++ (c.rpHash r.rp).bytes
  let cmd := c.u2fRegister
  c.ctap1RequestApdu cmd flags registerData

end Ctap2
