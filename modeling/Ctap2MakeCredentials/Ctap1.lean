import Ctap2MakeCredentials.Request

/-!
# The legacy registration response

`MakeCredentialsResult::from_ctap1` rebuilds a CTAP2 result from a U2F registration response:
a reserved byte `0x05`, a 65-byte uncompressed public key, a one-byte key-handle length `L`
and `L` bytes of key handle, then an X.509 certificate and the signature with no delimiter
between them. The parser reads through a `std::io::Cursor` and then slices the underlying
buffer at the cursor's position; a slice past the end would panic, so the model returns
`Option` around the `Result`, `none` being the panic.
-/

namespace Ctap2

/-- `std::io::Cursor<&[u8]>`: the buffer and the read position. -/
structure Cursor where
  inner : List UInt8
  pos : Nat

/-- The bytes a cursor has still to read (`Cursor::remaining_slice`). -/
def Cursor.remaining (data : Cursor) : List UInt8 := data.inner.drop data.pos

/-- `ctap2::utils::read_byte`: the next byte, or its end-of-input error. -/
def readByte (c : Collaborators) (data : Cursor) : Except DeError (UInt8 × Cursor) :=
  match data.remaining with
  | b :: _ => .ok (b, { data with pos := data.pos + 1 })
  | [] => .error c.readByteError

/-- `Read::read_exact` on a cursor: the next `n` bytes, or `none` for its `UnexpectedEof`. -/
def Cursor.readExact (data : Cursor) (n : Nat) : Option (List UInt8 × Cursor) :=
  if n ≤ data.remaining.length then some (data.remaining.take n, { data with pos := data.pos + n })
  else none

/-- The range index `xs[i..]`, `none` where Rust panics. -/
def sliceFrom (xs : List α) (i : Nat) : Option (List α) :=
  if i ≤ xs.length then some (xs.drop i) else none

/-- The end of `from_ctap1`, once the cursor has read the key and the key handle: parse the
certificate and the signature, decode the key, and build the result. -/
def MakeCredentialsResult.fromCtap1Finish (c : Collaborators) (input : List UInt8)
    (rpIdHash : RpIdHash) (publicKey credentialId certAndSigBytes : List UInt8) :
    Except CommandError MakeCredentialsResult := do
  let certAndSig ← (c.parseU2fDerCertificate certAndSigBytes).mapError fun err =>
    .deserializing (.parse ("Certificate and Signature: " ++ err.debug))
  let credentialEc2Key ← (c.fromSec1Uncompressed .secp256r1 publicKey).mapError fun err =>
    .deserializing (.parse ("EC2 Key: " ++ err.debug))
  let credentialPublicKey : COSEKey := ⟨.es256, .ec2 credentialEc2Key⟩
  let authData : AuthenticatorData :=
    { rpIdHash
      flags := .userPresent ||| .attested
      counter := 0
      credentialData := some ⟨default, credentialId, credentialPublicKey⟩
      extensions := default
      rawData := input }
  let attStmt := AttestationStatement.fidoU2F (.new certAndSig.certificate certAndSig.signature)
  .ok { attObj := { authData, attStmt }, attachment := .unknown, extensions := default }

def MakeCredentialsResult.fromCtap1 (c : Collaborators) (input : List UInt8) (rpIdHash : RpIdHash) :
    Option (Except CommandError MakeCredentialsResult) :=
  let data : Cursor := ⟨input, 0⟩
  match readByte c data with
  | .error e => some (.error (.deserializing e))
  | .ok (magicNum, data) =>
    if magicNum ≠ 0x05 then
      some (.error (.deserializing (.invalidValue (.unsigned magicNum.toNat) "0x05")))
    else
      match data.readExact 65 with
      | none => some (.error (.deserializing (.parse "PublicKey")))
      | some (publicKey, data) =>
        match readByte c data with
        | .error e => some (.error (.deserializing e))
        | .ok (credentialIdLen, data) =>
          match data.readExact credentialIdLen.toNat with
          | none => some (.error (.deserializing (.parse "CredentialId")))
          | some (credentialId, data) =>
            (sliceFrom data.inner data.pos).map
              (fromCtap1Finish c input rpIdHash publicKey credentialId)

/-! ## 1. One lemma per way the parse can end -/

theorem fromCtap1Finish_eq_ok (c : Collaborators) (input : List UInt8) (h : RpIdHash)
    (publicKey credentialId certAndSigBytes : List UInt8) (r : MakeCredentialsResult) :
    MakeCredentialsResult.fromCtap1Finish c input h publicKey credentialId certAndSigBytes = .ok r ↔
      ∃ cert k, c.parseU2fDerCertificate certAndSigBytes = .ok cert ∧
        c.fromSec1Uncompressed .secp256r1 publicKey = .ok k ∧
        r = { attObj :=
                { authData :=
                    { rpIdHash := h
                      flags := .userPresent ||| .attested
                      counter := 0
                      credentialData := some ⟨default, credentialId, ⟨.es256, .ec2 k⟩⟩
                      extensions := default
                      rawData := input }
                  attStmt := .fidoU2F (.new cert.certificate cert.signature) }
              attachment := .unknown
              extensions := default } := by
  simp only [MakeCredentialsResult.fromCtap1Finish]
  cases c.parseU2fDerCertificate certAndSigBytes <;>
    cases c.fromSec1Uncompressed .secp256r1 publicKey <;> simp [Except.mapError, eq_comm]

theorem fromCtap1Finish_eq_error (c : Collaborators) (input : List UInt8) (h : RpIdHash)
    (publicKey credentialId certAndSigBytes : List UInt8) (e : CommandError) :
    MakeCredentialsResult.fromCtap1Finish c input h publicKey credentialId certAndSigBytes =
        .error e ↔
      (∃ err, c.parseU2fDerCertificate certAndSigBytes = .error err ∧
        e = .deserializing (.parse ("Certificate and Signature: " ++ err.debug))) ∨
      ∃ cert err, c.parseU2fDerCertificate certAndSigBytes = .ok cert ∧
        c.fromSec1Uncompressed .secp256r1 publicKey = .error err ∧
        e = .deserializing (.parse ("EC2 Key: " ++ err.debug)) := by
  simp only [MakeCredentialsResult.fromCtap1Finish]
  cases c.parseU2fDerCertificate certAndSigBytes <;>
    cases c.fromSec1Uncompressed .secp256r1 publicKey <;> simp [Except.mapError, eq_comm]

/-- Past the reserved byte, the key and the length byte, the buffer is the key handle and what
follows it. -/
private theorem drop_registration {pk : List UInt8} (L : UInt8) (rest : List UInt8)
    (hpk : pk.length = 65) (n : Nat) :
    (0x05 :: (pk ++ L :: rest)).drop (67 + n) = rest.drop n := by
  rw [show 67 + n = 65 + (n + 1) + 1 by omega, List.drop_succ_cons, ← List.drop_drop,
    List.drop_left' hpk, List.drop_succ_cons]

theorem fromCtap1_layout (c : Collaborators) (h : RpIdHash) {pk : List UInt8} (L : UInt8)
    (rest : List UInt8) (hpk : pk.length = 65) (hL : L.toNat ≤ rest.length) :
    MakeCredentialsResult.fromCtap1 c (0x05 :: (pk ++ L :: rest)) h =
      some (MakeCredentialsResult.fromCtap1Finish c (0x05 :: (pk ++ L :: rest)) h pk
        (rest.take L.toNat) (rest.drop L.toNat)) := by
  have h66 := drop_registration L rest hpk 0
  have hlen : 65 + (rest.length + 1) - 66 = rest.length := by omega
  simp_all [MakeCredentialsResult.fromCtap1, readByte, Cursor.readExact, Cursor.remaining, sliceFrom,
    List.drop_left' hpk, List.take_left' hpk, drop_registration L rest hpk]
  omega

theorem fromCtap1_nil (c : Collaborators) (h : RpIdHash) :
    MakeCredentialsResult.fromCtap1 c [] h = some (.error (.deserializing c.readByteError)) := rfl

theorem fromCtap1_magic (c : Collaborators) (h : RpIdHash) {b₀ : UInt8} (t : List UInt8)
    (hb : b₀ ≠ 0x05) :
    MakeCredentialsResult.fromCtap1 c (b₀ :: t) h =
      some (.error (.deserializing (.invalidValue (.unsigned b₀.toNat) "0x05"))) := by
  simp [MakeCredentialsResult.fromCtap1, readByte, Cursor.remaining, hb]

theorem fromCtap1_short_key (c : Collaborators) (h : RpIdHash) {t : List UInt8}
    (ht : t.length < 65) :
    MakeCredentialsResult.fromCtap1 c (0x05 :: t) h =
      some (.error (.deserializing (.parse "PublicKey"))) := by
  simp [MakeCredentialsResult.fromCtap1, readByte, Cursor.readExact, Cursor.remaining,
    Nat.not_le.mpr ht]

theorem fromCtap1_no_length (c : Collaborators) (h : RpIdHash) {pk : List UInt8}
    (hpk : pk.length = 65) :
    MakeCredentialsResult.fromCtap1 c (0x05 :: pk) h =
      some (.error (.deserializing c.readByteError)) := by
  simp [MakeCredentialsResult.fromCtap1, readByte, Cursor.readExact, Cursor.remaining, hpk,
    List.drop_eq_nil_of_le]

theorem fromCtap1_short_handle (c : Collaborators) (h : RpIdHash) {pk : List UInt8} (L : UInt8)
    (rest : List UInt8) (hpk : pk.length = 65) (hL : rest.length < L.toNat) :
    MakeCredentialsResult.fromCtap1 c (0x05 :: (pk ++ L :: rest)) h =
      some (.error (.deserializing (.parse "CredentialId"))) := by
  have h66 := drop_registration L rest hpk 0
  have hlen : 65 + (rest.length + 1) - 66 = rest.length := by omega
  simp_all [MakeCredentialsResult.fromCtap1, readByte, Cursor.readExact, Cursor.remaining,
    List.drop_left' hpk, List.take_left' hpk, Nat.not_le.mpr hL]

/-- The shapes a registration response can have, by the first read that fails. -/
private theorem registration_cases (b : List UInt8) :
    b = [] ∨ (∃ b₀ t, b = b₀ :: t ∧ b₀ ≠ 0x05) ∨ (∃ t, b = 0x05 :: t ∧ t.length < 65) ∨
      (∃ pk, b = 0x05 :: pk ∧ pk.length = 65) ∨
      (∃ pk L rest, b = 0x05 :: (pk ++ L :: rest) ∧ pk.length = 65 ∧ rest.length < L.toNat) ∨
      ∃ pk L rest, b = 0x05 :: (pk ++ L :: rest) ∧ pk.length = 65 ∧ L.toNat ≤ rest.length := by
  rcases b with _ | ⟨b₀, t⟩
  · exact .inl rfl
  by_cases hb : b₀ = 0x05
  swap
  · exact .inr (.inl ⟨b₀, t, rfl, hb⟩)
  subst hb
  by_cases ht : t.length < 65
  · exact .inr (.inr (.inl ⟨t, rfl, ht⟩))
  have hpk : (t.take 65).length = 65 := by simp; omega
  rw [← List.take_append_drop 65 t]
  rcases hd : t.drop 65 with _ | ⟨L, rest⟩
  · exact .inr (.inr (.inr (.inl ⟨_, by simp, hpk⟩)))
  · rcases Nat.lt_or_ge rest.length L.toNat with hL | hL
    · exact .inr (.inr (.inr (.inr (.inl ⟨_, L, rest, rfl, hpk, hL⟩))))
    · exact .inr (.inr (.inr (.inr (.inr ⟨_, L, rest, rfl, hpk, hL⟩))))

/-- Outside the registration layout every input ends in an error. -/
private theorem fromCtap1_error_or_layout (c : Collaborators) (b : List UInt8) (h : RpIdHash) :
    (∃ e, MakeCredentialsResult.fromCtap1 c b h = some (.error e)) ∨
      ∃ pk L rest, b = 0x05 :: (pk ++ L :: rest) ∧ pk.length = 65 ∧ L.toNat ≤ rest.length := by
  rcases registration_cases b with rfl | ⟨b₀, t, rfl, hb⟩ | ⟨t, rfl, ht⟩ | ⟨pk, rfl, hpk⟩ |
    ⟨pk, L, rest, rfl, hpk, hL⟩ | hlayout
  · exact .inl ⟨_, fromCtap1_nil c h⟩
  · exact .inl ⟨_, fromCtap1_magic c h t hb⟩
  · exact .inl ⟨_, fromCtap1_short_key c h ht⟩
  · exact .inl ⟨_, fromCtap1_no_length c h hpk⟩
  · exact .inl ⟨_, fromCtap1_short_handle c h L rest hpk hL⟩
  · exact .inr hlayout

/-! ## 2. The parser never panics and accepts exactly the registration layout -/

theorem fromCtap1_spec (c : Collaborators) (b : List UInt8) (h : RpIdHash) :
    (MakeCredentialsResult.fromCtap1 c b h).isSome ∧
    (∀ r, MakeCredentialsResult.fromCtap1 c b h = some (.ok r) ↔
      ∃ publicKey credentialIdLen rest cert k,
        b = 0x05 :: (publicKey ++ credentialIdLen :: rest) ∧ publicKey.length = 65 ∧
        credentialIdLen.toNat ≤ rest.length ∧
        c.parseU2fDerCertificate (rest.drop credentialIdLen.toNat) = .ok cert ∧
        c.fromSec1Uncompressed .secp256r1 publicKey = .ok k ∧
        r = { attObj :=
                { authData :=
                    { rpIdHash := h
                      flags := .userPresent ||| .attested
                      counter := 0
                      credentialData :=
                        some ⟨default, rest.take credentialIdLen.toNat, ⟨.es256, .ec2 k⟩⟩
                      extensions := default
                      rawData := b }
                  attStmt := .fidoU2F (.new cert.certificate cert.signature) }
              attachment := .unknown
              extensions := default }) ∧
    (∀ b₀ t, b = b₀ :: t → b₀ ≠ 0x05 →
      MakeCredentialsResult.fromCtap1 c b h =
        some (.error (.deserializing (.invalidValue (.unsigned b₀.toNat) "0x05")))) := by
  refine ⟨?_, fun r => ⟨fun hr => ?_, ?_⟩, fun b₀ t hb hne => hb ▸ fromCtap1_magic c h t hne⟩
  · rcases fromCtap1_error_or_layout c b h with ⟨e, he⟩ | ⟨pk, L, rest, rfl, hpk, hL⟩
    · simp [he]
    · simp [fromCtap1_layout c h L rest hpk hL]
  · rcases fromCtap1_error_or_layout c b h with ⟨e, he⟩ | ⟨pk, L, rest, rfl, hpk, hL⟩
    · simp [he] at hr
    · rw [fromCtap1_layout c h L rest hpk hL, Option.some.injEq, fromCtap1Finish_eq_ok] at hr
      obtain ⟨cert, k, hcert, hk, rfl⟩ := hr
      exact ⟨pk, L, rest, cert, k, rfl, hpk, hL, hcert, hk, rfl⟩
  · rintro ⟨pk, L, rest, cert, k, rfl, hpk, hL, hcert, hk, rfl⟩
    rw [fromCtap1_layout c h L rest hpk hL, Option.some.injEq, fromCtap1Finish_eq_ok]
    exact ⟨cert, k, hcert, hk, rfl⟩

/-- Every result of the legacy parser carries the relying party hash it was given and the
whole response as its raw authenticator data. -/
theorem fromCtap1_ok_authData (c : Collaborators) (b : List UInt8) (h : RpIdHash)
    {m : MakeCredentialsResult} (hm : MakeCredentialsResult.fromCtap1 c b h = some (.ok m)) :
    m.attObj.authData.rpIdHash = h ∧ m.attObj.authData.rawData = b := by
  rcases fromCtap1_error_or_layout c b h with ⟨e, he⟩ | ⟨pk, L, rest, rfl, hpk, hL⟩
  · simp [he] at hm
  · rw [fromCtap1_layout c h L rest hpk hL, Option.some.injEq, fromCtap1Finish_eq_ok] at hm
    obtain ⟨cert, k, -, -, rfl⟩ := hm
    exact ⟨rfl, rfl⟩

/-- Every error of the legacy parser names the read that failed. -/
theorem fromCtap1_eq_error (c : Collaborators) (b : List UInt8) (h : RpIdHash) (e : CommandError)
    (he : MakeCredentialsResult.fromCtap1 c b h = some (.error e)) :
    (b = [] ∧ e = .deserializing c.readByteError) ∨
    (∃ b₀ t, b = b₀ :: t ∧ b₀ ≠ 0x05 ∧
      e = .deserializing (.invalidValue (.unsigned b₀.toNat) "0x05")) ∨
    (∃ t, b = 0x05 :: t ∧ t.length < 65 ∧ e = .deserializing (.parse "PublicKey")) ∨
    (∃ pk, b = 0x05 :: pk ∧ pk.length = 65 ∧ e = .deserializing c.readByteError) ∨
    (∃ pk L rest, b = 0x05 :: (pk ++ L :: rest) ∧ pk.length = 65 ∧ rest.length < L.toNat ∧
      e = .deserializing (.parse "CredentialId")) ∨
    ∃ pk L rest, b = 0x05 :: (pk ++ L :: rest) ∧ pk.length = 65 ∧ L.toNat ≤ rest.length ∧
      MakeCredentialsResult.fromCtap1Finish c b h pk (rest.take L.toNat) (rest.drop L.toNat) =
        .error e := by
  rcases registration_cases b with rfl | ⟨b₀, t, rfl, hb⟩ | ⟨t, rfl, ht⟩ | ⟨pk, rfl, hpk⟩ |
    ⟨pk, L, rest, rfl, hpk, hL⟩ | ⟨pk, L, rest, rfl, hpk, hL⟩
  · rw [fromCtap1_nil] at he; cases he; exact .inl ⟨rfl, rfl⟩
  · rw [fromCtap1_magic c h t hb] at he; cases he; exact .inr (.inl ⟨b₀, t, rfl, hb, rfl⟩)
  · rw [fromCtap1_short_key c h ht] at he; cases he; exact .inr (.inr (.inl ⟨t, rfl, ht, rfl⟩))
  · rw [fromCtap1_no_length c h hpk] at he; cases he
    exact .inr (.inr (.inr (.inl ⟨pk, rfl, hpk, rfl⟩)))
  · rw [fromCtap1_short_handle c h L rest hpk hL] at he; cases he
    exact .inr (.inr (.inr (.inr (.inl ⟨pk, L, rest, rfl, hpk, hL, rfl⟩))))
  · rw [fromCtap1_layout c h L rest hpk hL, Option.some.injEq] at he
    exact .inr (.inr (.inr (.inr (.inr ⟨pk, L, rest, rfl, hpk, hL, he⟩))))

end Ctap2
