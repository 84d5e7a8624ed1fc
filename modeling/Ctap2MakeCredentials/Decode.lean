import Ctap2MakeCredentials.Request

/-!
# The CTAP2 response decoder

`MakeCredentialsResult::deserialize` (`MakeCredentialsResultVisitor::visit_map`) reads the
response map one data item at a time: a key through `next_key`, then, for the keys 1 (`fmt`),
2 (`authData`) and 3 (`attStmt`), its value through `next_value`. Any other key takes the
`_ => continue` arm, which never calls `next_value`, so the item after an unknown key is read as
the next key. In a definite-length map the entries the header announces then run out one item
early and `from_slice` rejects the item left; in an indefinite-length map the loop runs to the
break, so an unknown key is skipped when the item after it reads as an unknown key too.

The model follows the source on the item stream. Over a map whose keys are all 1, 2 or 3 the
loop reads the entries pairwise, so it is a left fold of one step per entry (`runEntries`); the
acceptance theorem is proved for that fold by induction on the entries taken from the right, with
`Reaches` as the invariant; the same invariant names the error at the first entry that breaks a
rule.
-/

namespace Ctap2

/-- The three locals of `visit_map`. -/
structure VisitState where
  format : Option String := none
  authData : Option AuthenticatorData := none
  attStmt : Option AttestationStatement := none
  deriving DecidableEq

/-- The `att_stmt = match format { … }` arm: the statement shape `format` selects, read from
the stream. -/
def readAttStmt (c : Collaborators) (atEnd : DeError) (format : String) (items : List Value) :
    Except DeError (AttestationStatement × List Value) :=
  match format with
  | "none" => do
    let (map, items) ← nextValue atEnd decodeUnitMap items
    if !map.isEmpty then .error (.invalidValue .map "the empty map") else .ok (.none, items)
  | "packed" => do
    let (stmt, items) ← nextValue atEnd c.packed items
    .ok (.packed stmt, items)
  | "fido-u2f" => do
    let (stmt, items) ← nextValue atEnd c.fidoU2F items
    .ok (.fidoU2F stmt, items)
  | _ => .error (.custom "unknown attestation statement format")

/-- The body of the visitor loop for one key `next_key` returned. -/
def visitEntry (c : Collaborators) (atEnd : DeError) (key : Int) (st : VisitState)
    (items : List Value) : Except DeError (VisitState × List Value) :=
  if key = 1 then
    if st.format.isSome then .error (.duplicateField "fmt (0x01)") else do
      let (format, items) ← nextValue atEnd decodeStr items
      .ok ({ st with format := some format }, items)
  else if key = 2 then
    if st.authData.isSome then .error (.duplicateField "authData (0x02)") else do
      let (authData, items) ← nextValue atEnd c.authenticatorData items
      .ok ({ st with authData := some authData }, items)
  else if key = 3 then
    match st.format with
    | none => .error (.missingField "fmt (0x01)")
    | some format =>
      if st.attStmt.isSome then .error (.duplicateField "attStmt (0x03)") else do
        let (attStmt, items) ← readAttStmt c atEnd format items
        .ok ({ st with attStmt := some attStmt }, items)
  else .ok (st, items)

/-- `while let Some(key) = map.next_key()? { … }` over a definite-length map, with `next_key`
inlined: `len` is the number of entries the map header still announces, and each pass lowers it
by one and reads one item as an `i32` key. -/
def visitLoop (c : Collaborators) : Nat → VisitState → List Value →
    Except DeError (VisitState × List Value)
  | 0, st, items => .ok (st, items)
  | _ + 1, _, [] => .error .eofWhileParsingValue
  | len + 1, st, k :: items => do
    let key ← decodeI32 k
    let (st, items) ← visitEntry c .eofWhileParsingValue key st items
    visitLoop c len st items

/-- The same loop over an indefinite-length map, whose items up to the break are `items`:
`next_key` returns `None` at the break, here the end of the items, and a value expected there
meets the break byte. Each pass reads at least its key, so fuel as large as the number of items
never runs out (`visitLoopIndefinite_fuel`); with none left the loop stops where it stands. -/
def visitLoopIndefinite (c : Collaborators) : Nat → VisitState → List Value →
    Except DeError VisitState
  | _, st, [] => .ok st
  | 0, st, _ :: _ => .ok st
  | fuel + 1, st, k :: items => do
    let key ← decodeI32 k
    let (st, items) ← visitEntry c .unexpectedCode key st items
    visitLoopIndefinite c fuel st items

/-- The two `ok_or_else` checks after the loop, and the result they build. -/
def finishVisit (st : VisitState) : Except DeError MakeCredentialsResult :=
  match st.authData, st.attStmt with
  | none, _ => .error (.custom "found no authData (0x02)")
  | some _, none => .error (.custom "found no attStmt (0x03)")
  | some authData, some attStmt =>
    .ok { attObj := { authData, attStmt }, attachment := .unknown, extensions := {} }

/-- `visit_map` through the definite-length `MapAccess`: the loop, then `finishVisit`. The entry
count the header announced is used up when the loop ends, so `parse_map`'s own check of it always
passes. It returns the items after the last one the loop read. -/
def visitMap (c : Collaborators) (len : Nat) (items : List Value) :
    Except DeError (MakeCredentialsResult × List Value) := do
  let (st, items) ← visitLoop c len {} items
  (finishVisit st).map (·, items)

/-- `visit_map` through `IndefiniteMapAccess`. The loop ends only at the break, so
`parse_indefinite_map`'s check that the break comes next always passes. -/
def visitIndefiniteMap (c : Collaborators) (body : List Value) :
    Except DeError MakeCredentialsResult := do
  let st ← visitLoopIndefinite c body.length {} body
  finishVisit st

/-- `deserializer.deserialize_bytes(MakeCredentialsResultVisitor)`: `serde_cbor` dispatches on the
head of the next item, a map of either length to `visit_map` and any other item to the visitor's
default, which rejects it as not `"a cbor map"`. It returns the items left unread. -/
def deserializeBytes (c : Collaborators) : Opening → List Value →
    Except DeError (MakeCredentialsResult × List Value)
  | .map len, items => visitMap c len items
  | .indefiniteMap body, items => (visitIndefiniteMap c body).map (·, items)
  | .item v, _ => .error (.invalidType v.unexpected "a cbor map")

/-- `MakeCredentialsResult::deserialize` over a stream whose next data item is `v` and which
continues with `rest`. -/
def MakeCredentialsResult.deserialize (c : Collaborators) (v : Value) (rest : List Value) :
    Except DeError (MakeCredentialsResult × List Value) :=
  deserializeBytes c v.opening.1 (v.opening.2 ++ rest)

/-- `Deserializer::end`, the last step of `from_slice`: an item left after the value is
trailing data. -/
def checkEnd : MakeCredentialsResult × List Value → Except DeError MakeCredentialsResult
  | (r, []) => .ok r
  | (_, _ :: _) => .error .trailingData

/-- `from_slice::<MakeCredentialsResult>` over a slice that holds the encoding of `v`:
`MakeCredentialsResult::deserialize`, then `Deserializer::end`. -/
def MakeCredentialsResult.fromSliceOf (c : Collaborators) (v : Value) :
    Except DeError MakeCredentialsResult :=
  MakeCredentialsResult.deserialize c v [] >>= checkEnd

@[simp] theorem deserialize_map (c : Collaborators) (es : List (Value × Value))
    (rest : List Value) : MakeCredentialsResult.deserialize c (.map es) rest =
      visitMap c es.length (entryItems es ++ rest) := rfl

@[simp] theorem deserialize_indefiniteMap (c : Collaborators) (es : List (Value × Value))
    (rest : List Value) : MakeCredentialsResult.deserialize c (.indefiniteMap es) rest =
      (visitIndefiniteMap c (entryItems es)).map (·, rest) := rfl

theorem finishVisit_eq_ok (st : VisitState) (r : MakeCredentialsResult) :
    finishVisit st = .ok r ↔ ∃ authData attStmt, st.authData = some authData ∧
      st.attStmt = some attStmt ∧
      r = { attObj := { authData, attStmt }, attachment := .unknown, extensions := {} } := by
  obtain ⟨f, _ | a, _ | s⟩ := st <;> simp [finishVisit, eq_comm]

/-! ## 1. One entry at a time

The spec lemmas of the loop body, one per key, over a stream that holds the value next; and
`entryStep`, the pass over one whole entry, with its inversion lemmas. -/

/-- The statement shape `format` selects, decoded from the value: the empty map for `"none"`,
the packed or FIDO U2F statement, and an error for every other format. -/
def attStmtShape (c : Collaborators) (format : String) (v : Value) :
    Except DeError AttestationStatement :=
  match format with
  | "none" => do
    let map ← decodeUnitMap v
    if !map.isEmpty then .error (.invalidValue .map "the empty map") else .ok .none
  | "packed" => (c.packed v).map .packed
  | "fido-u2f" => (c.fidoU2F v).map .fidoU2F
  | _ => .error (.custom "unknown attestation statement format")

theorem readAttStmt_cons (c : Collaborators) (atEnd : DeError) (format : String) (v : Value)
    (items : List Value) :
    readAttStmt c atEnd format (v :: items) = (attStmtShape c format v).map (·, items) := by
  unfold readAttStmt attStmtShape
  split
  · simp only [nextValue_cons]; cases decodeUnitMap v <;> simp; split <;> rfl
  · simp only [nextValue_cons]; cases c.packed v <;> rfl
  · simp only [nextValue_cons]; cases c.fidoU2F v <;> rfl
  · rfl

theorem readAttStmt_nil (c : Collaborators) (atEnd : DeError) (format : String) :
    ∃ e, readAttStmt c atEnd format [] = .error e := by
  unfold readAttStmt
  split <;> exact ⟨_, rfl⟩

/-- Under `"none"` only the empty map, of either length, decodes: a non-empty map is always
rejected. -/
theorem attStmtShape_none (c : Collaborators) (v : Value) (s : AttestationStatement) :
    attStmtShape c "none" v = .ok s ↔ (v = .map [] ∨ v = .indefiniteMap []) ∧ s = .none := by
  have h : attStmtShape c "none" v = (decodeUnitMap v >>= fun map =>
      if !map.isEmpty then .error (.invalidValue .map "the empty map") else .ok .none) := rfl
  rw [h, ← decodeUnitMap_eq_nil_iff]
  rcases decodeUnitMap v with e | (_ | ⟨u, m⟩)
  · simp only [error_bind]
    constructor
    · intro h; cases h
    · rintro ⟨h, _⟩; cases h
  · simp only [ok_bind, List.isEmpty_nil, Bool.not_true, Bool.false_eq_true, if_false, true_and]
    exact ⟨fun h => by cases h; rfl, fun h => h ▸ rfl⟩
  · simp

theorem visitEntry_one (c : Collaborators) (atEnd : DeError) (st : VisitState) (v : Value)
    (items : List Value) : visitEntry c atEnd 1 st (v :: items) =
      if st.format.isSome then .error (.duplicateField "fmt (0x01)")
      else (decodeStr v).map fun f => ({ st with format := some f }, items) := by
  simp only [visitEntry, if_true, nextValue_cons]
  split
  · rfl
  · cases decodeStr v <;> rfl

theorem visitEntry_two (c : Collaborators) (atEnd : DeError) (st : VisitState) (v : Value)
    (items : List Value) : visitEntry c atEnd 2 st (v :: items) =
      if st.authData.isSome then .error (.duplicateField "authData (0x02)")
      else (c.authenticatorData v).map fun a => ({ st with authData := some a }, items) := by
  simp only [visitEntry, show (2 : Int) ≠ 1 by decide, if_true, if_false, nextValue_cons]
  split
  · rfl
  · cases c.authenticatorData v <;> rfl

theorem visitEntry_three (c : Collaborators) (atEnd : DeError) (st : VisitState) (v : Value)
    (items : List Value) : visitEntry c atEnd 3 st (v :: items) =
      match st.format with
      | none => .error (.missingField "fmt (0x01)")
      | some f =>
        if st.attStmt.isSome then .error (.duplicateField "attStmt (0x03)")
        else (attStmtShape c f v).map fun s => ({ st with attStmt := some s }, items) := by
  obtain ⟨_ | f, a, _ | s⟩ := st <;>
    simp only [visitEntry, show (3 : Int) ≠ 1 by decide, show (3 : Int) ≠ 2 by decide, if_true,
      if_false, readAttStmt_cons, Option.isSome_some, Option.isSome_none]
  cases attStmtShape c f v <;> rfl

/-- The `_ => continue` arm: nothing is read. -/
theorem visitEntry_other (c : Collaborators) (atEnd : DeError) {key : Int}
    (h : ¬(key = 1 ∨ key = 2 ∨ key = 3)) (st : VisitState) (items : List Value) :
    visitEntry c atEnd key st items = .ok (st, items) := by
  simp only [not_or] at h
  simp [visitEntry, h.1, h.2.1, h.2.2]

/-- One pass of the loop over an entry whose key is 1, 2 or 3, its value read with it. -/
def entryStep (c : Collaborators) (st : VisitState) (e : Int × Value) :
    Except DeError VisitState :=
  (visitEntry c .eofWhileParsingValue e.1 st [e.2]).map Prod.fst

/-- A known key reads exactly the one item after it. -/
theorem visitEntry_known (c : Collaborators) (atEnd : DeError) {key : Int}
    (hk : key = 1 ∨ key = 2 ∨ key = 3) (st : VisitState) (v : Value) (items : List Value) :
    visitEntry c atEnd key st (v :: items) = (entryStep c st (key, v)).map (·, items) := by
  simp only [entryStep]
  rcases hk with rfl | rfl | rfl
  · rw [visitEntry_one, visitEntry_one]; split <;> cases decodeStr v <;> rfl
  · rw [visitEntry_two, visitEntry_two]; split <;> cases c.authenticatorData v <;> rfl
  · obtain ⟨_ | f, a, _ | s⟩ := st <;> simp only [visitEntry_three] <;> try rfl
    cases attStmtShape c f v <;> rfl

/-- A known key with nothing after it is an error. -/
theorem visitEntry_known_nil (c : Collaborators) (atEnd : DeError) {key : Int}
    (hk : key = 1 ∨ key = 2 ∨ key = 3) (st : VisitState) :
    ∃ e, visitEntry c atEnd key st [] = .error e := by
  rcases hk with rfl | rfl | rfl
  · simp only [visitEntry, if_true]; split <;> simp [nextValue]
  · simp only [visitEntry, show (2 : Int) ≠ 1 by decide, if_true, if_false]
    split <;> simp [nextValue]
  · obtain ⟨_ | f, a, _ | s⟩ := st
    · exact ⟨_, rfl⟩
    · exact ⟨_, rfl⟩
    · obtain ⟨e, he⟩ := readAttStmt_nil c atEnd f
      exact ⟨e, by simp [visitEntry, he]⟩
    · exact ⟨_, rfl⟩

theorem entryStep_one (c : Collaborators) (st : VisitState) (v : Value) :
    entryStep c st (1, v) = if st.format.isSome then .error (.duplicateField "fmt (0x01)")
      else (decodeStr v).map fun f => { st with format := some f } := by
  simp only [entryStep, visitEntry_one]
  split <;> cases decodeStr v <;> rfl

theorem entryStep_two (c : Collaborators) (st : VisitState) (v : Value) :
    entryStep c st (2, v) = if st.authData.isSome then .error (.duplicateField "authData (0x02)")
      else (c.authenticatorData v).map fun a => { st with authData := some a } := by
  simp only [entryStep, visitEntry_two]
  split <;> cases c.authenticatorData v <;> rfl

theorem entryStep_three (c : Collaborators) (st : VisitState) (v : Value) :
    entryStep c st (3, v) =
      match st.format with
      | none => .error (.missingField "fmt (0x01)")
      | some f =>
        if st.attStmt.isSome then .error (.duplicateField "attStmt (0x03)")
        else (attStmtShape c f v).map fun s => { st with attStmt := some s } := by
  obtain ⟨_ | f, a, _ | s⟩ := st <;> simp only [entryStep, visitEntry_three] <;> try rfl
  cases attStmtShape c f v <;> rfl

theorem entryStep_one_eq_ok (c : Collaborators) (st st' : VisitState) (v : Value) :
    entryStep c st (1, v) = .ok st' ↔
      st.format = none ∧ ∃ f, decodeStr v = .ok f ∧ { st with format := some f } = st' := by
  rw [entryStep_one]
  cases st.format <;> simp [map_eq_ok]

theorem entryStep_two_eq_ok (c : Collaborators) (st st' : VisitState) (v : Value) :
    entryStep c st (2, v) = .ok st' ↔
      st.authData = none ∧ ∃ a, c.authenticatorData v = .ok a ∧ { st with authData := some a } = st' := by
  rw [entryStep_two]
  cases st.authData <;> simp [map_eq_ok]

theorem entryStep_three_eq_ok (c : Collaborators) (st st' : VisitState) (v : Value) :
    entryStep c st (3, v) = .ok st' ↔ st.attStmt = none ∧ ∃ f s, st.format = some f ∧
      attStmtShape c f v = .ok s ∧ { st with attStmt := some s } = st' := by
  rw [entryStep_three]
  obtain ⟨_ | f, a, _ | s⟩ := st <;> simp [map_eq_ok]

/-! ## 2. The loop over the item stream -/

theorem decodeI32_known {k : Int} (hk : k = 1 ∨ k = 2 ∨ k = 3) : decodeI32 (.integer k) = .ok k := by
  rcases hk with rfl | rfl | rfl <;> rfl

theorem decodeI32_eq_ok {v : Value} {k : Int} (h : decodeI32 v = .ok k) : v = .integer k := by
  unfold decodeI32 at h
  split at h
  · split at h
    · cases h; rfl
    · cases h
  · cases h

theorem visitLoop_known (c : Collaborators) {k : Int} (hk : k = 1 ∨ k = 2 ∨ k = 3) (n : Nat)
    (st : VisitState) (v : Value) (items : List Value) :
    visitLoop c (n + 1) st (.integer k :: v :: items) =
      entryStep c st (k, v) >>= fun st' => visitLoop c n st' items := by
  simp only [visitLoop, decodeI32_known hk, ok_bind, visitEntry_known c _ hk]
  cases entryStep c st (k, v) <;> rfl

theorem visitLoop_unknown (c : Collaborators) {kv : Value} {k : Int} (hkv : decodeI32 kv = .ok k)
    (hk : ¬(k = 1 ∨ k = 2 ∨ k = 3)) (n : Nat) (st : VisitState) (items : List Value) :
    visitLoop c (n + 1) st (kv :: items) = visitLoop c n st items := by
  simp only [visitLoop, hkv, ok_bind, visitEntry_other c _ hk]

/-- A pass reads its value or nothing. -/
theorem visitEntry_rest (c : Collaborators) (atEnd : DeError) {key : Int} {st st' : VisitState}
    {items rest : List Value} (h : visitEntry c atEnd key st items = .ok (st', rest)) :
    rest = items ∨ ∃ v, items = v :: rest := by
  by_cases hk : key = 1 ∨ key = 2 ∨ key = 3
  · cases items with
    | nil =>
      obtain ⟨e, he⟩ := visitEntry_known_nil c atEnd hk st
      rw [he] at h; cases h
    | cons v items =>
      rw [visitEntry_known c atEnd hk, map_eq_ok] at h
      obtain ⟨_, _, h⟩ := h
      cases h
      exact .inr ⟨v, rfl⟩
  · rw [visitEntry_other c atEnd hk] at h
    cases h
    exact .inl rfl

/-- Each pass of the loop reads at most two items. -/
theorem visitLoop_length (c : Collaborators) (n : Nat) (st : VisitState) (items : List Value)
    {st' : VisitState} {rest : List Value} (h : visitLoop c n st items = .ok (st', rest)) :
    items.length ≤ rest.length + 2 * n := by
  induction n generalizing st items with
  | zero => cases h; omega
  | succ n ih =>
    cases items with
    | nil => cases h
    | cons k items =>
      simp only [visitLoop, bind_eq_ok] at h
      obtain ⟨key, -, ⟨st₁, r₁⟩, h₁, h₂⟩ := h
      have := ih st₁ r₁ h₂
      rcases visitEntry_rest c _ h₁ with rfl | ⟨v, rfl⟩ <;> simp only [List.length_cons] <;> omega

theorem visitMap_eq_ok (c : Collaborators) (len : Nat) (items : List Value)
    (r : MakeCredentialsResult) (rest : List Value) :
    visitMap c len items = .ok (r, rest) ↔
      ∃ st, visitLoop c len {} items = .ok (st, rest) ∧ finishVisit st = .ok r := by
  simp only [visitMap, bind_eq_ok, map_eq_ok]
  constructor
  · rintro ⟨⟨st, rest'⟩, hl, r', hf, h⟩
    cases h
    exact ⟨st, hl, hf⟩
  · rintro ⟨st, hl, hf⟩
    exact ⟨(st, rest), hl, r, hf, rfl⟩

/-! The indefinite-length loop, pass by pass. -/

@[simp] theorem visitLoopIndefinite_nil (c : Collaborators) (n : Nat) (st : VisitState) :
    visitLoopIndefinite c n st [] = .ok st := by
  cases n <;> rfl

/-- Fuel at least the number of items gives the same run, whatever its amount: the loop never
stops for lack of fuel before the break. -/
theorem visitLoopIndefinite_fuel (c : Collaborators) {n m : Nat} {st : VisitState}
    {items : List Value} (hn : items.length ≤ n) (hm : items.length ≤ m) :
    visitLoopIndefinite c n st items = visitLoopIndefinite c m st items := by
  induction n generalizing m st items with
  | zero => rw [List.eq_nil_of_length_eq_zero (Nat.le_zero.mp hn)]; simp
  | succ n ih =>
    match items, m, hm with
    | [], _, _ => simp
    | k :: items, m + 1, hm =>
      simp only [visitLoopIndefinite]
      cases decodeI32 k with
      | error e => rfl
      | ok key =>
        simp only [ok_bind]
        cases h : visitEntry c .unexpectedCode key st items with
        | error e => rfl
        | ok p =>
          have hlen : p.2.length ≤ items.length := by
            rcases visitEntry_rest c _ h with h' | ⟨v, h'⟩ <;> simp [h']
          simp only [List.length_cons] at hn hm
          exact ih (by omega) (by omega)

theorem visitLoopIndefinite_known (c : Collaborators) {k : Int} (hk : k = 1 ∨ k = 2 ∨ k = 3)
    (n : Nat) (st : VisitState) (v : Value) (items : List Value) :
    visitLoopIndefinite c (n + 1) st (.integer k :: v :: items) =
      entryStep c st (k, v) >>= fun st' => visitLoopIndefinite c n st' items := by
  simp only [visitLoopIndefinite, decodeI32_known hk, ok_bind, visitEntry_known c _ hk]
  cases entryStep c st (k, v) <;> rfl

theorem visitLoopIndefinite_unknown (c : Collaborators) {kv : Value} {k : Int}
    (hkv : decodeI32 kv = .ok k) (hk : ¬(k = 1 ∨ k = 2 ∨ k = 3)) (n : Nat) (st : VisitState)
    (items : List Value) :
    visitLoopIndefinite c (n + 1) st (kv :: items) = visitLoopIndefinite c n st items := by
  simp only [visitLoopIndefinite, hkv, ok_bind, visitEntry_other c _ hk]

theorem visitLoopIndefinite_error (c : Collaborators) {kv : Value} {err : DeError}
    (hkv : decodeI32 kv = .error err) (n : Nat) (st : VisitState) (items : List Value) :
    visitLoopIndefinite c (n + 1) st (kv :: items) = .error err := by
  simp only [visitLoopIndefinite, hkv, error_bind]

/-- The loop over the entries of a map whose keys are all known: one `entryStep` each. -/
def runEntries (c : Collaborators) (st : VisitState) (es : List (Int × Value)) :
    Except DeError VisitState :=
  es.foldlM (entryStep c) st

theorem visitLoop_entries (c : Collaborators) (pre : List (Int × Value))
    (hpre : ∀ e ∈ pre, e.1 = 1 ∨ e.1 = 2 ∨ e.1 = 3) (n : Nat) (st : VisitState)
    (tail : List Value) :
    visitLoop c (pre.length + n) st (entryItems (pre.map fun e => (.integer e.1, e.2)) ++ tail) =
      runEntries c st pre >>= fun st' => visitLoop c n st' tail := by
  induction pre generalizing st with
  | nil => simp [runEntries, entryItems]
  | cons e pre ih =>
    rw [show (e :: pre).length + n = pre.length + n + 1 by simp; omega, List.map_cons,
      entryItems, List.cons_append, List.cons_append,
      visitLoop_known c (hpre e (List.mem_cons_self _ _))]
    simp only [runEntries, List.foldlM_cons]
    cases entryStep c st (e.1, e.2) with
    | error err => rfl
    | ok st₁ => exact ih (fun e he => hpre e (List.mem_cons_of_mem _ he)) st₁

theorem runEntries_snoc (c : Collaborators) (st : VisitState) (es : List (Int × Value))
    (e : Int × Value) :
    runEntries c st (es ++ [e]) = runEntries c st es >>= fun st' => entryStep c st' e := by
  simp [runEntries, List.foldlM_append]

/-! ## 3. The invariant of the run -/

/-- `format` and `att_stmt` after a run whose entries with key 1 or 3 are `l`, in order. -/
def FormatAndStmt (c : Collaborators) (l : List (Int × Value)) :
    Option String → Option AttestationStatement → Prop
  | none, none => l = []
  | some f, none => ∃ v, l = [(1, v)] ∧ decodeStr v = .ok f
  | some f, some s => ∃ v₁ v₃, l = [(1, v₁), (3, v₃)] ∧ decodeStr v₁ = .ok f ∧
      attStmtShape c f v₃ = .ok s
  | none, some _ => False

/-- `auth_data` after a run whose entries with key 2 are `l`. -/
def AuthDataOf (c : Collaborators) (l : List (Int × Value)) : Option AuthenticatorData → Prop
  | none => l = []
  | some a => ∃ v, l = [(2, v)] ∧ c.authenticatorData v = .ok a

/-- The invariant of the run: each local holds what the entries with its key decode to. -/
def Reaches (c : Collaborators) (es : List (Int × Value)) (st : VisitState) : Prop :=
  FormatAndStmt c (es.filter fun e => e.1 = 1 ∨ e.1 = 3) st.format st.attStmt ∧
  AuthDataOf c (es.filter fun e => e.1 = 2) st.authData

private theorem snoc_eq_iff {α : Type} (l l' : List α) (a b : α) :
    l ++ [a] = l' ++ [b] ↔ l = l' ∧ a = b := by
  simpa only [List.concat_eq_append] using List.concat_inj

theorem reaches_nil (c : Collaborators) (st : VisitState) : Reaches c [] st ↔ st = {} := by
  obtain ⟨_ | f, _ | a, _ | s⟩ := st <;> simp [Reaches, FormatAndStmt, AuthDataOf]

theorem reaches_snoc_one (c : Collaborators) (es : List (Int × Value)) (v : Value)
    (st : VisitState) :
    (∃ st₀, Reaches c es st₀ ∧ entryStep c st₀ (1, v) = .ok st) ↔ Reaches c (es ++ [(1, v)]) st := by
  have h13 : (es ++ [(1, v)]).filter (fun e => e.1 = 1 ∨ e.1 = 3) =
      es.filter (fun e => e.1 = 1 ∨ e.1 = 3) ++ [(1, v)] := by simp
  have h2 : (es ++ [(1, v)]).filter (fun e => e.1 = 2) = es.filter (fun e => e.1 = 2) := by simp
  simp only [Reaches, h13, h2, entryStep_one_eq_ok]
  generalize es.filter (fun e => e.1 = 1 ∨ e.1 = 3) = l
  constructor
  · rintro ⟨⟨fo, ao, so⟩, ⟨hf, ha⟩, rfl, f, hdec, rfl⟩
    cases so with
    | none => cases hf; exact ⟨⟨v, rfl, hdec⟩, ha⟩
    | some s => exact hf.elim
  · obtain ⟨_ | f, ao, _ | s⟩ := st <;> rintro ⟨hf, ha⟩
    · simp [FormatAndStmt] at hf
    · exact hf.elim
    · obtain ⟨w, hw, hdec⟩ := hf
      obtain ⟨rfl, h⟩ := (snoc_eq_iff _ [] _ _).mp hw
      cases h
      exact ⟨⟨none, ao, none⟩, ⟨rfl, ha⟩, rfl, f, hdec, rfl⟩
    · obtain ⟨w, u, hw, -⟩ := hf
      cases ((snoc_eq_iff _ [(1, w)] _ _).mp hw).2

theorem reaches_snoc_two (c : Collaborators) (es : List (Int × Value)) (v : Value)
    (st : VisitState) :
    (∃ st₀, Reaches c es st₀ ∧ entryStep c st₀ (2, v) = .ok st) ↔ Reaches c (es ++ [(2, v)]) st := by
  have h13 : (es ++ [(2, v)]).filter (fun e => e.1 = 1 ∨ e.1 = 3) =
      es.filter (fun e => e.1 = 1 ∨ e.1 = 3) := by simp
  have h2 : (es ++ [(2, v)]).filter (fun e => e.1 = 2) = es.filter (fun e => e.1 = 2) ++ [(2, v)] := by
    simp
  simp only [Reaches, h13, h2, entryStep_two_eq_ok]
  generalize es.filter (fun e => e.1 = 2) = l
  constructor
  · rintro ⟨⟨fo, ao, so⟩, ⟨hf, ha⟩, rfl, a, hdec, rfl⟩
    cases ha
    exact ⟨hf, v, rfl, hdec⟩
  · obtain ⟨fo, _ | a, so⟩ := st <;> rintro ⟨hf, ha⟩
    · simp [AuthDataOf] at ha
    · obtain ⟨w, hw, hdec⟩ := ha
      obtain ⟨rfl, h⟩ := (snoc_eq_iff _ [] _ _).mp hw
      cases h
      exact ⟨⟨fo, none, so⟩, ⟨hf, rfl⟩, rfl, a, hdec, rfl⟩

theorem reaches_snoc_three (c : Collaborators) (es : List (Int × Value)) (v : Value)
    (st : VisitState) :
    (∃ st₀, Reaches c es st₀ ∧ entryStep c st₀ (3, v) = .ok st) ↔ Reaches c (es ++ [(3, v)]) st := by
  have h13 : (es ++ [(3, v)]).filter (fun e => e.1 = 1 ∨ e.1 = 3) =
      es.filter (fun e => e.1 = 1 ∨ e.1 = 3) ++ [(3, v)] := by simp
  have h2 : (es ++ [(3, v)]).filter (fun e => e.1 = 2) = es.filter (fun e => e.1 = 2) := by simp
  simp only [Reaches, h13, h2, entryStep_three_eq_ok]
  generalize es.filter (fun e => e.1 = 1 ∨ e.1 = 3) = l
  constructor
  · rintro ⟨⟨fo, ao, so⟩, ⟨hf, ha⟩, rfl, f, s, rfl, hshape, rfl⟩
    obtain ⟨v₁, rfl, hdec⟩ := hf
    exact ⟨⟨v₁, v, rfl, hdec, hshape⟩, ha⟩
  · obtain ⟨_ | f, ao, _ | s⟩ := st <;> rintro ⟨hf, ha⟩
    · simp [FormatAndStmt] at hf
    · exact hf.elim
    · obtain ⟨w, hw, -⟩ := hf
      cases ((snoc_eq_iff _ [] _ _).mp hw).2
    · obtain ⟨v₁, v₃, hw, hdec, hshape⟩ := hf
      obtain ⟨rfl, h⟩ := (snoc_eq_iff _ [(1, v₁)] _ _).mp hw
      cases h
      exact ⟨⟨some f, ao, none⟩, ⟨⟨v₁, rfl, hdec⟩, ha⟩, rfl, f, s, rfl, hshape, rfl⟩

/-- The run over known-key entries succeeds exactly in the states `Reaches` describes. -/
theorem runEntries_eq_ok_iff (c : Collaborators) (es : List (Int × Value))
    (hes : ∀ e ∈ es, e.1 = 1 ∨ e.1 = 2 ∨ e.1 = 3) (st : VisitState) :
    runEntries c {} es = .ok st ↔ Reaches c es st := by
  induction es using List.reverseRecOn generalizing st with
  | nil => rw [reaches_nil]; exact ⟨fun h => by cases h; rfl, fun h => h ▸ rfl⟩
  | append_singleton es e ih =>
    have ih' := fun st => ih (fun x hx => hes x (List.mem_append_left _ hx)) st
    rw [runEntries_snoc, bind_eq_ok]
    simp only [ih']
    obtain ⟨k, v⟩ := e
    rcases hes (k, v) (by simp) with rfl | rfl | rfl
    · exact reaches_snoc_one c es v st
    · exact reaches_snoc_two c es v st
    · exact reaches_snoc_three c es v st

section ReachesFields

variable {c : Collaborators} {es : List (Int × Value)} {st : VisitState}

/-- A local is set exactly when an entry with its key was read. -/
theorem FormatAndStmt.isSome_iff {l : List (Int × Value)} {f : Option String}
    {s : Option AttestationStatement} (h : FormatAndStmt c l f s) :
    (f.isSome ↔ ∃ v, (1, v) ∈ l) ∧ (s.isSome ↔ ∃ v, (3, v) ∈ l) := by
  match f, s, h with
  | none, none, h => simp [show l = [] from h]
  | some _, none, ⟨v, hl, _⟩ => simp [hl]
  | some _, some _, ⟨v₁, v₃, hl, _⟩ => simp [hl]

theorem AuthDataOf.isSome_iff {l : List (Int × Value)} {a : Option AuthenticatorData}
    (h : AuthDataOf c l a) : a.isSome ↔ ∃ v, (2, v) ∈ l := by
  match a, h with
  | none, h => simp [show l = [] from h]
  | some _, ⟨v, hl, _⟩ => simp [hl]

theorem Reaches.format_isSome (h : Reaches c es st) :
    st.format.isSome ↔ ∃ v, (1, v) ∈ es := by
  simpa [List.mem_filter] using h.1.isSome_iff.1

theorem Reaches.attStmt_isSome (h : Reaches c es st) :
    st.attStmt.isSome ↔ ∃ v, (3, v) ∈ es := by
  simpa [List.mem_filter] using h.1.isSome_iff.2

theorem Reaches.authData_isSome (h : Reaches c es st) :
    st.authData.isSome ↔ ∃ v, (2, v) ∈ es := by
  simpa [List.mem_filter] using h.2.isSome_iff

theorem Reaches.format_isSome_of_attStmt (h : Reaches c es st) (hs : st.attStmt.isSome) :
    st.format.isSome := by
  obtain ⟨_ | f, a, _ | s⟩ := st
  · exact absurd hs (by simp)
  · exact h.1.elim
  · rfl
  · rfl

end ReachesFields

/-! ## 4. Acceptance of a map with the keys 1, 2 and 3 -/

/-- The response map with these integer keys, entries in this order. -/
def responseMap (es : List (Int × Value)) : Value := .map (es.map fun e => (.integer e.1, e.2))

/-- Over a map whose keys are all 1, 2 or 3 `deserialize` reads exactly the map: the run over
its entries, then `finishVisit`. -/
theorem deserialize_responseMap (c : Collaborators) (es : List (Int × Value))
    (hes : ∀ e ∈ es, e.1 = 1 ∨ e.1 = 2 ∨ e.1 = 3) (rest : List Value) :
    MakeCredentialsResult.deserialize c (responseMap es) rest =
      (runEntries c {} es >>= finishVisit).map (·, rest) := by
  have hloop := visitLoop_entries c es hes 0 {} rest
  simp only [Nat.add_zero, visitLoop] at hloop
  simp only [responseMap, deserialize_map, visitMap, List.length_map, hloop]
  cases runEntries c {} es <;> rfl

/-- The run and `finishVisit` succeed exactly when key 1 and then key 3 occur once each, key 2
once, and the three values decode. -/
theorem runEntries_finishVisit_eq_ok (c : Collaborators) (es : List (Int × Value))
    (hes : ∀ e ∈ es, e.1 = 1 ∨ e.1 = 2 ∨ e.1 = 3) (r : MakeCredentialsResult) :
    (runEntries c {} es >>= finishVisit) = .ok r ↔
      ∃ v₁ v₂ v₃ format authData attStmt,
        es.filter (fun e => e.1 = 1 ∨ e.1 = 3) = [(1, v₁), (3, v₃)] ∧
        es.filter (fun e => e.1 = 2) = [(2, v₂)] ∧
        decodeStr v₁ = .ok format ∧ c.authenticatorData v₂ = .ok authData ∧
        attStmtShape c format v₃ = .ok attStmt ∧
        r = { attObj := { authData, attStmt }, attachment := .unknown, extensions := {} } := by
  simp only [bind_eq_ok, runEntries_eq_ok_iff c es hes, finishVisit_eq_ok]
  constructor
  · rintro ⟨⟨_ | f, _, _⟩, ⟨hf, ha⟩, a, s, rfl, rfl, rfl⟩
    · exact hf.elim
    · obtain ⟨v₁, v₃, h13, hdec, hshape⟩ := hf
      obtain ⟨v₂, h2, hauth⟩ := ha
      exact ⟨v₁, v₂, v₃, f, a, s, h13, h2, hdec, hauth, hshape, rfl⟩
  · rintro ⟨v₁, v₂, v₃, f, a, s, h13, h2, hdec, hauth, hshape, rfl⟩
    exact ⟨⟨some f, some a, some s⟩, ⟨⟨v₁, v₃, h13, hdec, hshape⟩, v₂, h2, hauth⟩, a, s, rfl, rfl,
      rfl⟩

/-- Collaborators whose authenticator-data decoder accepts every item, for concrete runs. -/
def acceptingAuthData : Collaborators :=
  { (default : Collaborators) with authenticatorData := fun _ => .ok default }

/-- A format sent as a text string in chunks is rejected by the borrowed-string visitor. -/
example : MakeCredentialsResult.deserialize acceptingAuthData
    (responseMap [(1, .textChunks ["no", "ne"]), (2, .bytes []), (3, .map [])]) [] =
      .error (.invalidType (.str "none") "a borrowed string") := rfl

/-- A prefix whose run fails ends the whole decode with that error: the loop never reads the
entries after it. -/
theorem deserialize_responseMap_error (c : Collaborators) (pre post : List (Int × Value))
    (hpre : ∀ e ∈ pre, e.1 = 1 ∨ e.1 = 2 ∨ e.1 = 3) {err : DeError}
    (h : runEntries c {} pre = .error err) (rest : List Value) :
    MakeCredentialsResult.deserialize c (responseMap (pre ++ post)) rest = .error err := by
  have hloop := visitLoop_entries c pre hpre post.length {}
    (entryItems (post.map fun e => (.integer e.1, e.2)) ++ rest)
  rw [h] at hloop
  simp only [responseMap, deserialize_map, visitMap, List.map_append, List.length_append,
    List.length_map, entryItems_append, List.append_assoc, hloop]
  rfl

/-- The entry after a cleanly decoded prefix that breaks a rule decides the error, whatever
follows it: a second `fmt`, `authData` or `attStmt` is a duplicate naming that field, and an
`attStmt` with no `fmt` before it is a missing `fmt`. -/
theorem deserialize_first_violation (c : Collaborators) (pre post : List (Int × Value))
    (v : Value) (hpre : ∀ e ∈ pre, e.1 = 1 ∨ e.1 = 2 ∨ e.1 = 3)
    (hrun : ∃ st, runEntries c {} pre = .ok st) :
    ((∃ w, (1, w) ∈ pre) →
      MakeCredentialsResult.fromSliceOf c (responseMap (pre ++ (1, v) :: post)) =
        .error (.duplicateField "fmt (0x01)")) ∧
    ((∃ w, (2, w) ∈ pre) →
      MakeCredentialsResult.fromSliceOf c (responseMap (pre ++ (2, v) :: post)) =
        .error (.duplicateField "authData (0x02)")) ∧
    ((∃ w, (3, w) ∈ pre) →
      MakeCredentialsResult.fromSliceOf c (responseMap (pre ++ (3, v) :: post)) =
        .error (.duplicateField "attStmt (0x03)")) ∧
    ((∀ w, (1, w) ∉ pre) →
      MakeCredentialsResult.fromSliceOf c (responseMap (pre ++ (3, v) :: post)) =
        .error (.missingField "fmt (0x01)")) := by
  obtain ⟨st, hst⟩ := hrun
  have hreach := (runEntries_eq_ok_iff c pre hpre st).mp hst
  have hstop : ∀ k, (k = 1 ∨ k = 2 ∨ k = 3) → ∀ {err}, entryStep c st (k, v) = .error err →
      MakeCredentialsResult.fromSliceOf c (responseMap (pre ++ (k, v) :: post)) = .error err := by
    intro k hk err h
    have hpre' : ∀ e ∈ pre ++ [(k, v)], e.1 = 1 ∨ e.1 = 2 ∨ e.1 = 3 := fun e he =>
      (List.mem_append.mp he).elim (hpre e) fun he => List.mem_singleton.mp he ▸ hk
    have hrun : runEntries c {} (pre ++ [(k, v)]) = .error err := by
      rw [runEntries_snoc, hst]; exact h
    rw [← List.singleton_append, ← List.append_assoc, MakeCredentialsResult.fromSliceOf,
      deserialize_responseMap_error c _ post hpre' hrun]
    rfl
  refine ⟨fun hw => hstop 1 (by simp) ?_, fun hw => hstop 2 (by simp) ?_,
    fun hw => hstop 3 (by simp) ?_, fun hw => hstop 3 (by simp) ?_⟩
  · rw [entryStep_one, if_pos (hreach.format_isSome.mpr hw)]
  · rw [entryStep_two, if_pos (hreach.authData_isSome.mpr hw)]
  · have hs := hreach.attStmt_isSome.mpr hw
    obtain ⟨f, hf⟩ := Option.isSome_iff_exists.mp (hreach.format_isSome_of_attStmt hs)
    rw [entryStep_three, hf]; exact if_pos hs
  · have hf : st.format = none := by
      simpa [hw] using hreach.format_isSome
    rw [entryStep_three, hf]

theorem deserialize_first_violation_after_authData :
    (∀ e ∈ [((2 : Int), Value.bytes [])], e.1 = 1 ∨ e.1 = 2 ∨ e.1 = 3) ∧
    (∃ st, runEntries acceptingAuthData {} [(2, .bytes [])] = .ok st) ∧
    MakeCredentialsResult.fromSliceOf acceptingAuthData
        (responseMap ([(2, .bytes [])] ++ (2, .bytes []) :: [(1, .text "none")])) =
      .error (.duplicateField "authData (0x02)") ∧
    MakeCredentialsResult.fromSliceOf acceptingAuthData
        (responseMap ([(2, .bytes [])] ++ (3, .bytes []) :: [(1, .text "none")])) =
      .error (.missingField "fmt (0x01)") :=
  have h := deserialize_first_violation acceptingAuthData [(2, .bytes [])] [(1, .text "none")]
    (.bytes []) (by decide) ⟨_, rfl⟩
  ⟨by decide, ⟨_, rfl⟩, h.2.1 ⟨_, List.mem_singleton_self _⟩, h.2.2.2 (by simp)⟩

/-- `from_slice` over a map whose keys are all 1, 2 or 3: the run, then `finishVisit`; nothing
is left for `Deserializer::end` to reject. -/
theorem fromSliceOf_responseMap (c : Collaborators) (es : List (Int × Value))
    (hes : ∀ e ∈ es, e.1 = 1 ∨ e.1 = 2 ∨ e.1 = 3) :
    MakeCredentialsResult.fromSliceOf c (responseMap es) = runEntries c {} es >>= finishVisit := by
  rw [MakeCredentialsResult.fromSliceOf, deserialize_responseMap c es hes]
  cases runEntries c {} es >>= finishVisit <;> rfl

/-- A map whose entries all decode cleanly is rejected at its end when a field is missing:
without `authData` with the `authData` message, even when `attStmt` is missing too, and with
`authData` but without `attStmt` with the `attStmt` message. -/
theorem deserialize_missing_field (c : Collaborators) (es : List (Int × Value))
    (hes : ∀ e ∈ es, e.1 = 1 ∨ e.1 = 2 ∨ e.1 = 3) (hrun : ∃ st, runEntries c {} es = .ok st) :
    ((∀ v, (2, v) ∉ es) → MakeCredentialsResult.fromSliceOf c (responseMap es) =
      .error (.custom "found no authData (0x02)")) ∧
    ((∃ v, (2, v) ∈ es) → (∀ v, (3, v) ∉ es) →
      MakeCredentialsResult.fromSliceOf c (responseMap es) =
        .error (.custom "found no attStmt (0x03)")) := by
  obtain ⟨st, hst⟩ := hrun
  have hreach := (runEntries_eq_ok_iff c es hes st).mp hst
  rw [fromSliceOf_responseMap c es hes, hst, ok_bind]
  refine ⟨fun h2 => ?_, fun h2 h3 => ?_⟩
  · have ha : st.authData = none := by simpa [h2] using hreach.authData_isSome
    simp [finishVisit, ha]
  · obtain ⟨a, ha⟩ := Option.isSome_iff_exists.mp (hreach.authData_isSome.mpr h2)
    have hs : st.attStmt = none := by simpa [h3] using hreach.attStmt_isSome
    simp [finishVisit, ha, hs]

theorem deserialize_missing_field_attStmt :
    (∀ e ∈ [((1 : Int), Value.text "none"), (2, .bytes [])], e.1 = 1 ∨ e.1 = 2 ∨ e.1 = 3) ∧
    (∃ st, runEntries acceptingAuthData {} [(1, .text "none"), (2, .bytes [])] = .ok st) ∧
    MakeCredentialsResult.fromSliceOf acceptingAuthData
        (responseMap [(1, .text "none"), (2, .bytes [])]) =
      .error (.custom "found no attStmt (0x03)") :=
  have hrun : ∃ st, runEntries acceptingAuthData {} [(1, .text "none"), (2, .bytes [])] =
      .ok st := ⟨_, rfl⟩
  ⟨by decide, hrun, (deserialize_missing_field acceptingAuthData _ (by decide) hrun).2
    ⟨.bytes [], by simp⟩ (by simp)⟩

/-! ## 6. Unknown keys in a definite-length map -/

/-- A key `visit_map` has an arm for: the integers 1, 2 and 3. -/
def Value.isKnownKey : Value → Bool
  | .integer k => decide (k = 1 ∨ k = 2 ∨ k = 3)
  | _ => false

theorem Value.isKnownKey_iff {v : Value} :
    v.isKnownKey ↔ ∃ k, v = .integer k ∧ (k = 1 ∨ k = 2 ∨ k = 3) := by
  cases v <;> simp [Value.isKnownKey]

theorem visitLoop_unknown_leaves (c : Collaborators) (es : List (Value × Value)) (n : Nat)
    (st : VisitState) (tail : List Value) {st' : VisitState} {rest : List Value}
    (hes : ∃ e ∈ es, e.1.isKnownKey = false)
    (h : visitLoop c (es.length + n) st (entryItems es ++ tail) = .ok (st', rest)) :
    tail.length < rest.length + 2 * n := by
  induction es generalizing st with
  | nil => simp at hes
  | cons e es ih =>
    obtain ⟨kv, v⟩ := e
    rw [show (_ :: es).length + n = es.length + n + 1 by simp; omega] at h
    cases hkv : kv.isKnownKey
    · cases hd : decodeI32 kv with
      | error err => simp [visitLoop, hd] at h
      | ok k =>
        have hk : ¬(k = 1 ∨ k = 2 ∨ k = 3) := fun hk => by
          simp [decodeI32_eq_ok hd, Value.isKnownKey, hk] at hkv
        rw [entryItems, List.cons_append, visitLoop_unknown c hd hk] at h
        have := visitLoop_length c _ _ _ h
        simp only [List.length_cons, List.length_append, length_entryItems] at this
        omega
    · obtain ⟨k, rfl, hk⟩ := Value.isKnownKey_iff.mp hkv
      rw [entryItems, List.cons_append, List.cons_append, visitLoop_known c hk, bind_eq_ok] at h
      obtain ⟨st₁, -, h⟩ := h
      refine ih st₁ ?_ h
      obtain ⟨e, he, hne⟩ := hes
      rcases List.mem_cons.mp he with rfl | he
      · simp [hkv] at hne
      · exact ⟨e, he, hne⟩

/-- Over a definite-length map with a key outside 1, 2 and 3, `deserialize` leaves an item of
the map unread whenever it returns: the unknown key's value is read as the next key, so the
entries the header announces run out an item early. -/
theorem deserialize_map_unknown_leaves (c : Collaborators) (es : List (Value × Value))
    (hes : ∃ e ∈ es, e.1.isKnownKey = false) (rest : List Value) {r : MakeCredentialsResult}
    {rest' : List Value} (h : MakeCredentialsResult.deserialize c (.map es) rest = .ok (r, rest')) :
    rest.length < rest'.length := by
  rw [deserialize_map, visitMap_eq_ok] at h
  obtain ⟨st, hl, -⟩ := h
  simpa using visitLoop_unknown_leaves c es 0 {} rest hes (by simpa using hl)

/-- Every definite-length map `from_slice` accepts has only the keys 1, 2 and 3. -/
theorem fromSliceOf_map_knownKeys (c : Collaborators) (es : List (Value × Value))
    {r : MakeCredentialsResult} (h : MakeCredentialsResult.fromSliceOf c (.map es) = .ok r) :
    ∀ e ∈ es, e.1.isKnownKey := by
  by_contra hes
  simp only [not_forall, Bool.not_eq_true] at hes
  simp only [MakeCredentialsResult.fromSliceOf, bind_eq_ok] at h
  obtain ⟨⟨r', rest⟩, hd, hr⟩ := h
  have := deserialize_map_unknown_leaves c es (by simpa using hes) [] hd
  cases rest with
  | nil => simp at this
  | cons _ _ => simp [checkEnd] at hr

/-- A definite-length response map with a key outside 1, 2 and 3 never decodes: when
`deserialize` returns, it has left an item of the map unread, and `from_slice` rejects it. -/
theorem deserialize_map_unknown_key (c : Collaborators) (es : List (Value × Value))
    (hes : ∃ e ∈ es, e.1.isKnownKey = false) :
    (∀ rest r rest', MakeCredentialsResult.deserialize c (.map es) rest = .ok (r, rest') →
      rest.length < rest'.length) ∧
    ∀ r, MakeCredentialsResult.fromSliceOf c (.map es) ≠ .ok r := by
  refine ⟨fun rest _ _ h => deserialize_map_unknown_leaves c es hes rest h, fun r h => ?_⟩
  obtain ⟨e, he, hne⟩ := hes
  simp [fromSliceOf_map_knownKeys c es h e he] at hne

theorem deserialize_map_unknown_key_epAtt :
    (∃ e ∈ [(Value.integer 1, Value.text "none"), (.integer 2, .bytes []), (.integer 3, .map []),
        (.integer 4, .bool true)], e.1.isKnownKey = false) ∧
    MakeCredentialsResult.deserialize acceptingAuthData
        (.map [(.integer 1, .text "none"), (.integer 2, .bytes []), (.integer 3, .map []),
          (.integer 4, .bool true)]) [] = .ok (⟨⟨default, .none⟩, .unknown, {}⟩, [.bool true]) ∧
    ∀ r, MakeCredentialsResult.fromSliceOf acceptingAuthData
        (.map [(.integer 1, .text "none"), (.integer 2, .bytes []), (.integer 3, .map []),
          (.integer 4, .bool true)]) ≠ .ok r :=
  have hes : ∃ e ∈ [(Value.integer 1, Value.text "none"), (.integer 2, .bytes []),
      (.integer 3, .map []), (.integer 4, .bool true)], e.1.isKnownKey = false :=
    ⟨(.integer 4, .bool true), by simp, rfl⟩
  ⟨hes, rfl, (deserialize_map_unknown_key acceptingAuthData _ hes).2⟩

/-- `{1: "none", 2: h'', 3: {}}` decodes, and the same map with the entry `4: true` added at the
end is rejected: the loop reads the key `4`, takes `true` as the next key's place without
reading it, ends, and `from_slice` finds `true` unread. -/
theorem deserialize_rejects_appended_unknown_key :
    MakeCredentialsResult.fromSliceOf acceptingAuthData
        (.map [(.integer 1, .text "none"), (.integer 2, .bytes []), (.integer 3, .map [])]) =
      .ok ⟨⟨default, .none⟩, .unknown, {}⟩ ∧
    MakeCredentialsResult.fromSliceOf acceptingAuthData
        (.map [(.integer 1, .text "none"), (.integer 2, .bytes []), (.integer 3, .map []),
          (.integer 4, .bool true)]) = .error .trailingData :=
  ⟨rfl, rfl⟩

/-! ## 7. Indefinite-length maps

The loop over an indefinite-length map runs to the break, not to a count, so the parity an
unknown key shifts is not caught at the end: an entry whose key and value both read as unknown
`i32` keys is skipped whole, and any other unknown entry misreads what follows. -/

/-- An item the loop reads as a key and skips: an `i32` other than 1, 2 and 3. -/
def Value.isSkippedKey : Value → Bool
  | .integer k => decide (-2147483648 ≤ k ∧ k < 2147483648 ∧ ¬(k = 1 ∨ k = 2 ∨ k = 3))
  | _ => false

theorem Value.isSkippedKey_decodeI32 {v : Value} (h : v.isSkippedKey) :
    ∃ k, decodeI32 v = .ok k ∧ ¬(k = 1 ∨ k = 2 ∨ k = 3) := by
  match v, h with
  | .integer k, h =>
    simp only [Value.isSkippedKey, decide_eq_true_eq] at h
    exact ⟨k, by simp [decodeI32, h.1, h.2.1], h.2.2⟩

/-- The entries `visit_map` has arms for, keys read as integers, in order. -/
def knownEntries : List (Value × Value) → List (Int × Value)
  | [] => []
  | (.integer k, v) :: es =>
    if k = 1 ∨ k = 2 ∨ k = 3 then (k, v) :: knownEntries es else knownEntries es
  | _ :: es => knownEntries es

theorem knownEntries_cons_known {k : Int} (hk : k = 1 ∨ k = 2 ∨ k = 3) (v : Value)
    (es : List (Value × Value)) : knownEntries ((.integer k, v) :: es) = (k, v) :: knownEntries es :=
  if_pos hk

theorem knownEntries_cons_unknown {kv : Value} (hkv : kv.isKnownKey = false) (v : Value)
    (es : List (Value × Value)) : knownEntries ((kv, v) :: es) = knownEntries es := by
  cases kv <;> first | rfl | simp_all [knownEntries, Value.isKnownKey]

theorem knownEntries_known (es : List (Value × Value)) :
    ∀ e ∈ knownEntries es, e.1 = 1 ∨ e.1 = 2 ∨ e.1 = 3 := by
  induction es with
  | nil => simp [knownEntries]
  | cons e es ih =>
    obtain ⟨kv, v⟩ := e
    cases hkv : kv.isKnownKey
    · rwa [knownEntries_cons_unknown hkv]
    · obtain ⟨k, rfl, hk⟩ := Value.isKnownKey_iff.mp hkv
      rw [knownEntries_cons_known hk]
      exact fun e he => (List.mem_cons.mp he).elim (· ▸ hk) (ih e)

theorem knownEntries_map (es : List (Value × Value)) :
    (knownEntries es).map (fun e => (Value.integer e.1, e.2)) = es.filter (·.1.isKnownKey) := by
  induction es with
  | nil => rfl
  | cons e es ih =>
    obtain ⟨kv, v⟩ := e
    cases hkv : kv.isKnownKey
    · simp [knownEntries_cons_unknown hkv, List.filter_cons, hkv, ih]
    · obtain ⟨k, rfl, hk⟩ := Value.isKnownKey_iff.mp hkv
      simp [knownEntries_cons_known hk, List.filter_cons, hkv, ih]

/-- Over entries each of which has a known key or is a pair of skipped keys, the
indefinite-length loop runs the known entries in order and skips the pairs whole. -/
theorem visitLoopIndefinite_entries (c : Collaborators) (es : List (Value × Value))
    (hes : ∀ e ∈ es, e.1.isKnownKey ∨ (e.1.isSkippedKey ∧ e.2.isSkippedKey)) (st : VisitState)
    (tail : List Value) :
    visitLoopIndefinite c (entryItems es ++ tail).length st (entryItems es ++ tail) =
      runEntries c st (knownEntries es) >>= fun st' =>
        visitLoopIndefinite c tail.length st' tail := by
  induction es generalizing st with
  | nil => rfl
  | cons e es ih =>
    obtain ⟨kv, v⟩ := e
    have ih' := ih fun e he => hes e (List.mem_cons_of_mem _ he)
    simp only [entryItems, List.cons_append, List.length_cons]
    rcases hes (kv, v) (List.mem_cons_self _ _) with hkv | ⟨hkv, hv⟩
    · obtain ⟨k, rfl, hk⟩ := Value.isKnownKey_iff.mp hkv
      rw [visitLoopIndefinite_known c hk, knownEntries_cons_known hk, runEntries,
        List.foldlM_cons]
      cases entryStep c st (k, v) with
      | error err => rfl
      | ok st₁ => exact (visitLoopIndefinite_fuel c (Nat.le_add_right _ 1) le_rfl).trans (ih' st₁)
    · obtain ⟨k, hkd, hk⟩ := Value.isSkippedKey_decodeI32 hkv
      obtain ⟨j, hvd, hj⟩ := Value.isSkippedKey_decodeI32 hv
      obtain rfl := decodeI32_eq_ok hkd
      rw [visitLoopIndefinite_unknown c hkd hk, visitLoopIndefinite_unknown c hvd hj,
        knownEntries_cons_unknown (by simpa [Value.isKnownKey] using hk)]
      exact ih' st

/-- The item after an unknown key is read as the next key in an indefinite-length map too: after
entries that read cleanly, an entry whose key is skipped and whose value does not read as an
`i32` ends the decode with the key decoder's error. -/
theorem deserialize_indefiniteMap_misread (c : Collaborators) (pre post : List (Value × Value))
    (hpre : ∀ e ∈ pre, e.1.isKnownKey ∨ (e.1.isSkippedKey ∧ e.2.isSkippedKey))
    (hrun : ∃ st, runEntries c {} (knownEntries pre) = .ok st) (k v : Value)
    (hk : k.isSkippedKey) {err : DeError} (hv : decodeI32 v = .error err) (rest : List Value) :
    MakeCredentialsResult.deserialize c (.indefiniteMap (pre ++ (k, v) :: post)) rest =
      .error err := by
  obtain ⟨st, hst⟩ := hrun
  obtain ⟨key, hkd, hkk⟩ := Value.isSkippedKey_decodeI32 hk
  have hloop := visitLoopIndefinite_entries c pre hpre {} (entryItems ((k, v) :: post))
  simp only [hst, ok_bind, entryItems, List.length_cons, visitLoopIndefinite_unknown c hkd hkk,
    visitLoopIndefinite_error c hv] at hloop
  simp only [deserialize_indefiniteMap, visitIndefiniteMap, entryItems_append, entryItems, hloop]
  rfl

theorem deserialize_indefiniteMap_epAtt :
    (∀ e ∈ [(Value.integer 1, Value.text "none"), (.integer 2, .bytes []), (.integer 3, .map [])],
        e.1.isKnownKey ∨ (e.1.isSkippedKey ∧ e.2.isSkippedKey)) ∧
    (∃ st, runEntries acceptingAuthData {} (knownEntries [(Value.integer 1, Value.text "none"),
        (.integer 2, .bytes []), (.integer 3, .map [])]) = .ok st) ∧
    (Value.integer 4).isSkippedKey ∧
    decodeI32 (.bool true) = .error (.invalidType (.bool true) "i32") ∧
    MakeCredentialsResult.deserialize acceptingAuthData
        (.indefiniteMap ([(.integer 1, .text "none"), (.integer 2, .bytes []), (.integer 3, .map [])] ++
          (.integer 4, .bool true) :: [])) [] = .error (.invalidType (.bool true) "i32") :=
  have hpre : ∀ e ∈ [(Value.integer 1, Value.text "none"), (.integer 2, .bytes []),
      (.integer 3, .map [])], e.1.isKnownKey ∨ (e.1.isSkippedKey ∧ e.2.isSkippedKey) := by decide
  have hrun : ∃ st, runEntries acceptingAuthData {} (knownEntries [(Value.integer 1,
      Value.text "none"), (.integer 2, .bytes []), (.integer 3, .map [])]) = .ok st := ⟨_, rfl⟩
  ⟨hpre, hrun, by decide, rfl,
    deserialize_indefiniteMap_misread acceptingAuthData _ [] hpre hrun (.integer 4) (.bool true)
      (by decide) rfl []⟩

end Ctap2
