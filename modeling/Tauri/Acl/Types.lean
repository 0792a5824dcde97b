import Tauri.Serde.Json

/-!
# Access Control List types

The data model of `acl/mod.rs`: `Commands`, `Scopes`, `Permission` and `PermissionSet`, with the
serde instances their derives generate.  The scope's `Value` (`acl/value.rs`) and the platform
`Target` (`platform.rs`) are defined outside the files modelled here; they are the type
parameters `V` and `T`, with whatever serde instances they have.

Each type's round trip is proved beside its instances.  The field attributes are what make
them hold:

* `Commands`: both lists are `#[serde(default)]` and always written;
* `Scopes`: both lists are `Option`s written only when `Some`, and a missing `Option` is `None`;
* `Permission`: `scope` is skipped exactly when `Scopes::is_empty`, that is when it equals
  `Scopes::default()`, which is what `#[serde(default)]` restores.
-/

namespace Tauri.Acl

open Serde

/-! ### Commands and scopes -/

/-- Allowed and denied commands inside a permission.  A command in both lists is denied. -/
structure Commands where
  allow : List String := []
  deny : List String := []
  deriving DecidableEq, Repr

/-- A restriction of the command's functionality, handed to the command itself.  `V` is the
scope `Value`. -/
structure Scopes (V : Type) where
  allow : Option (List V) := none
  deny : Option (List V) := none
  deriving DecidableEq, Repr

/-- `Scopes::is_empty`: both lists absent.  `Some(vec![])` is not empty. -/
def Scopes.isEmpty {V : Type} (s : Scopes V) : Bool := s.allow.isNone && s.deny.isNone

theorem Scopes.isEmpty_iff {V : Type} (s : Scopes V) : s.isEmpty = true ↔ s = {} := by
  obtain ⟨_ | _, _ | _⟩ := s <;> simp [isEmpty]

instance instSerializeCommands : Serialize Commands where
  serialize c := .object <|
    writeField "allow" false (serialize c.allow) <|
    writeField "deny" false (serialize c.deny) []

/-- Both fields are `#[serde(default)]`. -/
instance instDeserializeCommands : Deserialize Commands where
  deserialize
    | .object es => do
      let allow ← readField es "allow" (.ok [])
      let deny ← readField es "deny" (.ok [])
      pure { allow, deny }
    | _ => .error (.invalidType "struct Commands")

section Scopes

variable {V : Type} [Serialize V] [Deserialize V]

/-- Both fields are `#[serde(skip_serializing_if = "Option::is_none")]`. -/
instance instSerializeScopes : Serialize (Scopes V) where
  serialize s := .object <|
    writeField "allow" s.allow.isNone (serialize s.allow) <|
    writeField "deny" s.deny.isNone (serialize s.deny) []

instance instDeserializeScopes : Deserialize (Scopes V) where
  deserialize
    | .object es => do
      let allow ← readField es "allow" (.ok none)
      let deny ← readField es "deny" (.ok none)
      pure { allow, deny }
    | _ => .error (.invalidType "struct Scopes")

end Scopes

theorem roundTrips_commands : RoundTrips Commands := fun c => by
  simp [instSerializeCommands, instDeserializeCommands, roundTrips_list roundTrips_string _]
  rfl

theorem roundTrips_scopes {V : Type} [Serialize V] [Deserialize V] (h : RoundTrips V) :
    RoundTrips (Scopes V) := fun s => by
  have hl := roundTrips_option (roundTrips_list h) neverNull_list
  simp [instSerializeScopes, instDeserializeScopes, hl _]
  rfl

/-- `#[serde(default, skip_serializing_if = "Scopes::is_empty")]`: an empty scope is left out
and read back as `Scopes::default()`. -/
@[simp] theorem readField_writeField_scope {V : Type} [Serialize V] [Deserialize V]
    {name : String} {rest : List (String × JsonValue)} (s : Scopes V)
    (hrest : getEntry? name rest = none) :
    readField (writeField name s.isEmpty (serialize s) rest) name
        (.ok {} : Except DeError (Scopes V)) = deserialize (serialize s) :=
  readField_writeField (fun h => by rw [(Scopes.isEmpty_iff s).mp h]; rfl) fun _ => hrest

/-! ### Permissions and permission sets -/

/-- Descriptions of explicit privileges of commands (`Permission`).  `platforms = None` means
every platform. -/
structure Permission (V T : Type) where
  version : Option NonZeroU64
  identifier : String
  description : Option String
  commands : Commands
  scope : Scopes V
  platforms : Option (List T)

/-- A set of direct permissions grouped together under a new name (`PermissionSet`). -/
structure PermissionSet where
  identifier : String
  description : String
  permissions : List String
  deriving DecidableEq, Repr

section Permission

variable {V T : Type} [Serialize V] [Deserialize V] [Serialize T] [Deserialize T]

instance instSerializePermission : Serialize (Permission V T) where
  serialize p := .object <|
    writeField "version" p.version.isNone (serialize p.version) <|
    writeField "identifier" false (serialize p.identifier) <|
    writeField "description" p.description.isNone (serialize p.description) <|
    writeField "commands" false (serialize p.commands) <|
    writeField "scope" p.scope.isEmpty (serialize p.scope) <|
    writeField "platforms" p.platforms.isNone (serialize p.platforms) []

/-- `commands` and `scope` are `#[serde(default)]`; the `Option`s read as `None` when missing. -/
instance instDeserializePermission : Deserialize (Permission V T) where
  deserialize
    | .object es => do
      let version ← readField es "version" (.ok none)
      let identifier ← readField es "identifier" (missingField "identifier")
      let description ← readField es "description" (.ok none)
      let commands ← readField es "commands" (.ok {})
      let scope ← readField es "scope" (.ok {})
      let platforms ← readField es "platforms" (.ok none)
      pure { version, identifier, description, commands, scope, platforms }
    | _ => .error (.invalidType "struct Permission")

/-- **A permission reads back as written**, whichever of its optional parts are absent,
empty or present. -/
theorem roundTrips_permission (hV : RoundTrips V) (hT : RoundTrips T) :
    RoundTrips (Permission V T) := fun p => by
  have hv := roundTrips_option roundTrips_nonZeroU64 neverNull_nonZeroU64 p.version
  have hd := roundTrips_option roundTrips_string neverNull_string p.description
  have hp := roundTrips_option (roundTrips_list hT) neverNull_list p.platforms
  simp [instSerializePermission, instDeserializePermission, hv, hd, hp, roundTrips_string _,
    roundTrips_commands _, roundTrips_scopes hV _]
  rfl

end Permission

instance instSerializePermissionSet : Serialize PermissionSet where
  serialize s := .object <|
    writeField "identifier" false (serialize s.identifier) <|
    writeField "description" false (serialize s.description) <|
    writeField "permissions" false (serialize s.permissions) []

instance instDeserializePermissionSet : Deserialize PermissionSet where
  deserialize
    | .object es => do
      let identifier ← readField es "identifier" (missingField "identifier")
      let description ← readField es "description" (missingField "description")
      let permissions ← readField es "permissions" (missingField "permissions")
      pure { identifier, description, permissions }
    | _ => .error (.invalidType "struct PermissionSet")

theorem roundTrips_permissionSet : RoundTrips PermissionSet := fun s => by
  simp [instSerializePermissionSet, instDeserializePermissionSet, roundTrips_string _,
    roundTrips_list roundTrips_string _]
  rfl

theorem neverNull_permissionSet : NeverNull PermissionSet := fun _ => Serde.JsonValue.noConfusion

end Tauri.Acl
