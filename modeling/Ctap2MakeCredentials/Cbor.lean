import Mathlib.Data.List.Basic

/-!
# The CBOR layer: `serde_cbor` values and the map item stream

`make_credentials.rs` never reads CBOR bytes itself. It hands `serde_cbor` a visitor, and the
visitor pulls the response map out of the stream one data item at a time through serde's
`MapAccess`. This module models that interface at the level of data items: a `Value` is one
complete CBOR item as the wire carries it (floats and tags left out), and the body of a map is
the list of its items, key, value, key, value, … (`entryItems`). The wire form matters to the
visitors: a string may come whole or in chunks, and a map with a definite or an indefinite
length, and `serde_cbor` hands each form to a different visitor method or `MapAccess`.

The leaf decoders are the serde visitors the source relies on: `i32` for the map keys, `&str`
for the format string and `BTreeMap<(), ()>` for the `"none"` statement. They are written after
serde's own visitors, so `decodeStr` accepts a whole text string and a whole byte string that is
valid UTF-8, and rejects both in chunks.
-/

namespace Ctap2

/-! ## 0. `Except` as the source's `Result` -/

section ExceptLemmas

variable {ε α β : Type}

@[simp] theorem ok_bind (a : α) (f : α → Except ε β) : (Except.ok a >>= f) = f a := rfl

@[simp] theorem error_bind (e : ε) (f : α → Except ε β) : (Except.error e >>= f) = .error e := rfl

@[simp] theorem map_ok (f : α → β) (a : α) : (Except.ok a : Except ε α).map f = .ok (f a) := rfl

@[simp] theorem map_error (f : α → β) (e : ε) : Except.map f (.error e) = .error e := rfl

theorem bind_eq_ok {x : Except ε α} {f : α → Except ε β} {b : β} :
    x >>= f = .ok b ↔ ∃ a, x = .ok a ∧ f a = .ok b := by
  cases x <;> simp

theorem map_eq_ok {x : Except ε α} {f : α → β} {b : β} :
    x.map f = .ok b ↔ ∃ a, x = .ok a ∧ f a = b := by
  cases x <;> simp

end ExceptLemmas

/-- One CBOR data item as the wire carries it (floats and tags left out). A byte or text string
sent with indefinite length (`0x5f`, `0x7f`) keeps its chunks, and a map sent with indefinite
length (`0xbf`, entries up to the break byte `0xff`) is told apart from a definite-length one. -/
inductive Value where
  | null
  | bool (b : Bool)
  | integer (i : Int)
  | bytes (b : List UInt8)
  | bytesChunks (cs : List (List UInt8))
  | text (s : String)
  | textChunks (cs : List String)
  | array (vs : List Value)
  | map (es : List (Value × Value))
  | indefiniteMap (es : List (Value × Value))
  deriving Repr, Inhabited

/-- serde's `Unexpected`: how an error message names the item it met. -/
inductive Unexpected where
  | bool (b : Bool)
  | unsigned (n : Nat)
  | signed (i : Int)
  | str (s : String)
  | bytes (b : List UInt8)
  | unit
  | seq
  | map
  deriving DecidableEq, Repr

/-- How a visitor's error names the item: `serde_cbor` joins the chunks of a string in its
scratch buffer before it calls the visitor. -/
def Value.unexpected : Value → Unexpected
  | .null => .unit
  | .bool b => .bool b
  | .integer i => if 0 ≤ i then .unsigned i.toNat else .signed i
  | .bytes b => .bytes b
  | .bytesChunks cs => .bytes cs.flatten
  | .text s => .str s
  | .textChunks cs => .str (String.join cs)
  | .array _ => .seq
  | .map _ | .indefiniteMap _ => .map

def Value.isNull : Value → Bool
  | .null => true
  | _ => false

@[simp] theorem Value.isNull_null : Value.null.isNull = true := rfl
@[simp] theorem Value.isNull_integer (i : Int) : (Value.integer i).isNull = false := rfl
@[simp] theorem Value.isNull_array (vs : List Value) : (Value.array vs).isNull = false := rfl
@[simp] theorem Value.isNull_map (es : List (Value × Value)) : (Value.map es).isNull = false := rfl

/-- The errors of a `serde_cbor` deserializer that this command can meet. `parse what` is
`serde_parse_err(what)` of `ctap2::utils`, an error naming what could not be parsed;
`unexpectedCode` is `serde_cbor`'s error for the break byte where a data item must start. -/
inductive DeError where
  | invalidType (unexp : Unexpected) (expected : String)
  | invalidValue (unexp : Unexpected) (expected : String)
  | duplicateField (field : String)
  | missingField (field : String)
  | custom (msg : String)
  | parse (what : String)
  | eofWhileParsingValue
  | unexpectedCode
  | trailingData
  deriving DecidableEq, Repr

/-! ## 1. Leaf visitors -/

private def isContinuation (b : UInt8) : Bool := b.toNat / 64 = 2

/-- `core::str::from_utf8`: the characters a byte string encodes when it is well-formed UTF-8
(shortest form, no surrogate, at most `U+10FFFF`). -/
def fromUtf8 : List UInt8 → Option (List Char)
  | [] => some []
  | b₀ :: bs =>
    if b₀.toNat < 0x80 then (Char.ofNat b₀.toNat :: ·) <$> fromUtf8 bs
    else if b₀.toNat / 32 = 6 then
      match bs with
      | b₁ :: bs =>
        let r := b₀.toNat % 32 * 64 + b₁.toNat % 64
        if isContinuation b₁ ∧ 0x80 ≤ r then (Char.ofNat r :: ·) <$> fromUtf8 bs else none
      | [] => none
    else if b₀.toNat / 16 = 14 then
      match bs with
      | b₁ :: b₂ :: bs =>
        let r := b₀.toNat % 16 * 4096 + b₁.toNat % 64 * 64 + b₂.toNat % 64
        if isContinuation b₁ ∧ isContinuation b₂ ∧ 0x800 ≤ r ∧ (r < 0xd800 ∨ 0xdfff < r) then
          (Char.ofNat r :: ·) <$> fromUtf8 bs
        else none
      | _ => none
    else if b₀.toNat / 8 = 30 then
      match bs with
      | b₁ :: b₂ :: b₃ :: bs =>
        let r := b₀.toNat % 8 * 262144 + b₁.toNat % 64 * 4096 + b₂.toNat % 64 * 64 +
          b₃.toNat % 64
        if isContinuation b₁ ∧ isContinuation b₂ ∧ isContinuation b₃ ∧ 0x10000 ≤ r ∧
            r < 0x110000 then
          (Char.ofNat r :: ·) <$> fromUtf8 bs
        else none
      | _ => none
    else none

/-- serde's `i32` visitor, which reads the keys of the response map. -/
def decodeI32 : Value → Except DeError Int
  | .integer i =>
    if -2147483648 ≤ i ∧ i < 2147483648 then .ok i else .error (.invalidValue (Value.integer i).unexpected "i32")
  | v => .error (.invalidType v.unexpected "i32")

/-- serde's `StrVisitor` for `&'de str`: a text string (`visit_borrowed_str`), or a byte string
holding valid UTF-8 (`visit_borrowed_bytes`). A string in chunks is joined in `serde_cbor`'s
scratch buffer and handed to `visit_str` or `visit_bytes`, which this visitor leaves to serde's
defaults: an error of the wrong type. -/
def decodeStr : Value → Except DeError String
  | .text s => .ok s
  | .bytes b =>
    match fromUtf8 b with
    | some cs => .ok (String.mk cs)
    | none => .error (.invalidValue (.bytes b) "a borrowed string")
  | v => .error (.invalidType v.unexpected "a borrowed string")

theorem decodeStr_eq_ok_iff (v : Value) (f : String) :
    decodeStr v = .ok f ↔ v = .text f ∨ ∃ b, v = .bytes b ∧ fromUtf8 b = some f.data := by
  cases v with
  | text s => simp [decodeStr]
  | bytes b =>
    obtain ⟨d⟩ := f
    cases h : fromUtf8 b <;> simp [decodeStr, h, String.ext_iff]
  | _ => simp [decodeStr]

/-- The data items of a map body in wire order: key, value, key, value, … -/
def entryItems : List (Value × Value) → List Value
  | [] => []
  | (k, v) :: es => k :: v :: entryItems es

/-- serde's `BTreeMap<(), ()>`, whose `visit_map` takes a map of either length: every key and
value must be unit (`null`); the repeated `()` keys collapse, so the map holds at most one
entry. -/
def decodeUnitMap : Value → Except DeError (List Unit)
  | .map es | .indefiniteMap es =>
    match (entryItems es).find? (fun v => !v.isNull) with
    | some v => .error (.invalidType v.unexpected "unit")
    | none => .ok (if es.isEmpty then [] else [()])
  | v => .error (.invalidType v.unexpected "a map")

theorem decodeUnitMap_eq_nil_iff (v : Value) :
    decodeUnitMap v = .ok [] ↔ v = .map [] ∨ v = .indefiniteMap [] := by
  constructor
  · intro h
    match v, h with
    | .map [], _ => exact .inl rfl
    | .indefiniteMap [], _ => exact .inr rfl
    | .map (_ :: _), h | .indefiniteMap (_ :: _), h =>
      simp only [decodeUnitMap] at h; split at h <;> simp_all
  · rintro (rfl | rfl) <;> rfl

/-! ## 2. The map item stream

`serde_cbor` has two `MapAccess` implementations. For a definite-length map it keeps the number
of entries the header still announces: `next_key` returns `None` once that number is zero, and
otherwise lowers it by one and reads the next item as a key. For an indefinite-length map
(`IndefiniteMapAccess`) `next_key` returns `None` when it peeks the break byte, and otherwise
reads the next item as a key; `parse_indefinite_map` then consumes the break. In both,
`next_value` reads the next item. The visitor loops in `Decode` inline `next_key`; `nextValue`
is below. -/

/-- The head of the first item of a slice, as `serde_cbor` dispatches on it: a definite-length
map header with its entry count, an indefinite-length map header with the items up to its
break, or any other complete item. -/
inductive Opening where
  | map (len : Nat)
  | indefiniteMap (body : List Value)
  | item (v : Value)

/-- The head of `v`'s encoding and the items of `v` that follow it in the stream. -/
def Value.opening : Value → Opening × List Value
  | .map es => (.map es.length, entryItems es)
  | .indefiniteMap es => (.indefiniteMap (entryItems es), [])
  | v => (.item v, [])

/-- `MapAccess::next_value`: the next item of the stream, read by `dec`. With no item left a
definite-length map meets the end of the input (`eofWhileParsingValue`) and an indefinite-length
one its break byte (`unexpectedCode`); `atEnd` is that error. -/
def nextValue (atEnd : DeError) (dec : Value → Except DeError α) :
    List Value → Except DeError (α × List Value)
  | [] => .error atEnd
  | v :: items => (dec v).map fun a => (a, items)

@[simp] theorem nextValue_cons (atEnd : DeError) (dec : Value → Except DeError α) (v : Value)
    (items : List Value) : nextValue atEnd dec (v :: items) = (dec v).map fun a => (a, items) :=
  rfl

@[simp] theorem entryItems_append (es es' : List (Value × Value)) :
    entryItems (es ++ es') = entryItems es ++ entryItems es' := by
  induction es with
  | nil => rfl
  | cons e es ih => simp [entryItems, ih]

@[simp] theorem length_entryItems (es : List (Value × Value)) :
    (entryItems es).length = 2 * es.length := by
  induction es with
  | nil => rfl
  | cons e es ih => simp only [entryItems, List.length_cons, ih]; omega

end Ctap2
