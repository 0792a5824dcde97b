import Tauri.Collections.BTreeMap

/-!
# The serde data model, over `serde_json::Value`

The ACL types derive `Serialize` and `Deserialize`, with a few field attributes.  The model
writes values into `serde_json::Value` (`JsonValue`) and reads them back, as
`serde_json::to_value` and `serde_json::from_value` do.

A derived `Serialize` writes a struct as an object with one entry per field, in declaration
order, leaving out a field whose `skip_serializing_if` predicate holds (`writeField`).  A
derived `Deserialize` reads each field by name (`readField`); a field the object lacks takes
its `#[serde(default)]` value, `None` when it is an `Option`, and is an error otherwise.

The round trip of a struct rests on two facts per field:

* the field's own type round-trips (`RoundTrips`);
* whenever the field is skipped, what a missing field reads as is the skipped value.

`readField_writeField` packages the two.  `Option<T>` round-trips only when no `T` serializes
to `null` (`NeverNull`): `Some(null)` reads back as `None`.
-/

namespace Tauri.Serde

/-- `serde_json::Value`.  A number keeps its integer value (`serde_json::Number` holds a `u64`,
an `i64` or an `f64`; floats are not modelled), and an object is a list of entries with
distinct keys, as `serde_json::Map` is. -/
inductive JsonValue
  | null
  | bool (b : Bool)
  | number (n : Int)
  | string (s : String)
  | array (xs : List JsonValue)
  | object (entries : List (String × JsonValue))

/-- `Value::get` with a key: the entry of an object under that key. -/
def JsonValue.get? (v : JsonValue) (key : String) : Option JsonValue :=
  match v with
  | .object es => getEntry? key es
  | _ => none

/-- The `serde::de::Error`s the derived deserializers raise. -/
inductive DeError
  | invalidType (expected : String)
  | invalidValue (expected : String)
  | missingField (field : String)
  deriving DecidableEq, Repr

/-- `Serialize`, into `serde_json::Value`. -/
class Serialize (α : Type) where
  serialize : α → JsonValue

/-- `Deserialize`, from `serde_json::Value`. -/
class Deserialize (α : Type) where
  deserialize : JsonValue → Except DeError α

export Serialize (serialize)
export Deserialize (deserialize)

/-- Serializing a value and reading it back gives the value. -/
def RoundTrips (α : Type) [Serialize α] [Deserialize α] : Prop :=
  ∀ x : α, deserialize (serialize x) = .ok x

/-- No value serializes to `null`. -/
def NeverNull (α : Type) [Serialize α] : Prop := ∀ x : α, serialize x ≠ .null

/-! ### Leaves: strings, `NonZeroU64`, `serde_json::Value` -/

instance : Serialize String := ⟨.string⟩

instance : Deserialize String where
  deserialize
    | .string s => .ok s
    | _ => .error (.invalidType "a string")

theorem roundTrips_string : RoundTrips String := fun _ => rfl

theorem neverNull_string : NeverNull String := fun _ => JsonValue.noConfusion

/-- `core::num::NonZeroU64`. -/
structure NonZeroU64 where
  get : UInt64
  ne_zero : get ≠ 0

theorem UInt64.ofNat_ne_zero {n : Nat} (h₀ : 0 < n) (h : n < UInt64.size) :
    UInt64.ofNat n ≠ 0 := fun h' => by
  have := congrArg UInt64.toNat h'
  rw [UInt64.toNat_ofNat_of_lt h] at this
  simp at this
  omega

instance : Serialize NonZeroU64 := ⟨fun n => .number n.get.toNat⟩

/-- Zero and integers outside `u64` are rejected, as serde's `NonZero` visitor does. -/
instance : Deserialize NonZeroU64 where
  deserialize
    | .number n =>
      if h : 0 < n ∧ n < UInt64.size then
        .ok ⟨UInt64.ofNat n.toNat, UInt64.ofNat_ne_zero (by omega) (by omega)⟩
      else .error (.invalidValue "a nonzero u64")
    | _ => .error (.invalidType "a nonzero u64")

theorem roundTrips_nonZeroU64 : RoundTrips NonZeroU64 := by
  rintro ⟨x, hx⟩
  have hlt : x.toNat < UInt64.size := x.toBitVec.isLt
  have hpos : 0 < x.toNat := Nat.pos_of_ne_zero fun h => hx (UInt64.toNat.inj h)
  simp only [serialize, deserialize]
  rw [dif_pos ⟨by omega, by omega⟩]
  simp [UInt64.toNat.inj (UInt64.toNat_ofNat_of_lt hlt)]

theorem neverNull_nonZeroU64 : NeverNull NonZeroU64 := fun _ => JsonValue.noConfusion

instance : Serialize JsonValue := ⟨id⟩

instance : Deserialize JsonValue := ⟨.ok⟩

theorem roundTrips_jsonValue : RoundTrips JsonValue := fun _ => rfl

/-! ### Containers: `Vec<T>`, `Option<T>`, `BTreeMap<String, T>` -/

section Containers

variable {α : Type} [Serialize α] [Deserialize α]

instance : Serialize (List α) := ⟨fun xs => .array (xs.map serialize)⟩

instance : Deserialize (List α) where
  deserialize
    | .array vs => vs.mapM deserialize
    | _ => .error (.invalidType "a sequence")

theorem roundTrips_list (h : RoundTrips α) : RoundTrips (List α) := by
  intro xs
  show (xs.map serialize).mapM deserialize = .ok xs
  induction xs with
  | nil => rfl
  | cons x rest ih => rw [List.map_cons, List.mapM_cons, h x, ih]; rfl

omit [Deserialize α] in
theorem neverNull_list : NeverNull (List α) := fun _ => JsonValue.noConfusion

instance : Serialize (Option α) := ⟨fun o => o.elim .null serialize⟩

instance : Deserialize (Option α) where
  deserialize
    | .null => .ok none
    | v => some <$> deserialize v

/-- **`Option<T>` round-trips when no `T` is written as `null`.** -/
theorem roundTrips_option (h : RoundTrips α) (hn : NeverNull α) : RoundTrips (Option α) := by
  rintro (_ | x)
  · rfl
  · show (match serialize x with | .null => _ | v => _) = _
    split
    · exact absurd ‹_› (hn x)
    · simp [h x]

/-- What an `Option<Value>` reads back as: `Some(null)` is `None`. -/
def dropNull : Option JsonValue → Option JsonValue
  | some .null => none
  | o => o

theorem deserialize_serialize_optionJson (o : Option JsonValue) :
    (deserialize (serialize o) : Except DeError (Option JsonValue)) = .ok (dropNull o) := by
  rcases o with _ | ⟨_ | _ | _ | _ | _ | _⟩ <;> rfl

instance : Serialize (BTreeMap String α) :=
  ⟨fun m => .object (m.entries.map fun e => (e.1, serialize e.2))⟩

/-- The map visitor inserts each entry in turn. -/
instance : Deserialize (BTreeMap String α) where
  deserialize
    | .object es => es.foldlM (fun m e => do pure (m.insert e.1 (← deserialize e.2))) .new
    | _ => .error (.invalidType "a map")

theorem foldlM_insert_serialize (h : RoundTrips α) (l : List (String × α))
    (m : BTreeMap String α) :
    (l.map fun e => (e.1, serialize e.2)).foldlM
        (fun m e => do pure (m.insert e.1 (← (deserialize e.2 : Except DeError α)))) m =
      .ok (m.extend l) := by
  induction l generalizing m with
  | nil => rfl
  | cons e rest ih =>
    simp only [List.map_cons, List.foldlM_cons, h e.2]
    exact ih _

theorem roundTrips_btreeMap (h : RoundTrips α) : RoundTrips (BTreeMap String α) := fun m => by
  show (m.entries.map _).foldlM _ _ = _
  rw [foldlM_insert_serialize h, ← BTreeMap.fromIter, BTreeMap.fromIter_entries]

end Containers

/-! ### Struct fields -/

/-- One field of a derived `Serialize`, in front of the fields after it; left out when its
`skip_serializing_if` holds. -/
def writeField (name : String) (skip : Bool) (v : JsonValue)
    (rest : List (String × JsonValue)) : List (String × JsonValue) :=
  if skip then rest else (name, v) :: rest

/-- One field of a derived `Deserialize`.  `missing` is what an absent field reads as. -/
def readField {α : Type} [Deserialize α] (entries : List (String × JsonValue)) (name : String)
    (missing : Except DeError α) : Except DeError α :=
  match getEntry? name entries with
  | some v => deserialize v
  | none => missing

/-- The error of an absent field with neither a default nor an `Option` type. -/
def missingField {α : Type} (name : String) : Except DeError α := .error (.missingField name)

section Fields

variable {α : Type} [Serialize α] [Deserialize α] {name name' : String} {skip : Bool}
  {v : JsonValue} {rest : List (String × JsonValue)}

omit [Serialize α] [Deserialize α] in
@[simp] theorem writeField_true : writeField name true v rest = rest := rfl

omit [Serialize α] [Deserialize α] in
@[simp] theorem getEntry?_writeField_of_ne (h : name' ≠ name) :
    getEntry? name (writeField name' skip v rest) = getEntry? name rest := by
  cases skip <;> simp [writeField, getEntry?, h]

omit [Serialize α] in
@[simp] theorem readField_writeField_of_ne (h : name' ≠ name) (missing : Except DeError α) :
    readField (writeField name' skip v rest) name missing = readField rest name missing := by
  simp [readField, h]

/-- **A field reads back what was written**, provided that when it is skipped, what a missing
field reads as is what the value would have read as, and no later field has its name. -/
theorem readField_writeField {x : α} {missing : Except DeError α}
    (hd : skip = true → missing = deserialize (serialize x))
    (hrest : skip = true → getEntry? name rest = none) :
    readField (writeField name skip (serialize x) rest) name missing =
      deserialize (serialize x) := by
  cases skip with
  | false => simp [readField, writeField, getEntry?]
  | true => simp [readField, writeField, hd rfl, hrest rfl]

@[simp] theorem readField_writeField_false (missing : Except DeError α) (x : α) :
    readField (writeField name false (serialize x) rest) name missing =
      deserialize (serialize x) :=
  readField_writeField nofun nofun

/-- `#[serde(skip_serializing_if = "Option::is_none")]` on an `Option`, which reads as `None`
when missing. -/
@[simp] theorem readField_writeField_isNone (x : Option α)
    (hrest : getEntry? name rest = none) :
    readField (writeField name x.isNone (serialize x) rest) name
      (.ok none : Except DeError (Option α)) =
      deserialize (serialize x) :=
  readField_writeField (fun h => by rw [Option.isNone_iff_eq_none.mp h]; rfl) fun _ => hrest

/-- `#[serde(default, skip_serializing_if = "Vec::is_empty")]`. -/
@[simp] theorem readField_writeField_isEmpty (xs : List α)
    (hrest : getEntry? name rest = none) :
    readField (writeField name xs.isEmpty (serialize xs) rest) name
      (.ok [] : Except DeError (List α)) =
      deserialize (serialize xs) :=
  readField_writeField (fun h => by rw [List.isEmpty_iff.mp h]; rfl) fun _ => hrest

end Fields

end Tauri.Serde
