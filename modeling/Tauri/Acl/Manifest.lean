import Tauri.Acl.Types

/-!
# Plugin manifests

`acl/manifest.rs`: the authoring unit `PermissionFile`, with an optional `DefaultPermission`,
and the `Manifest` that `Manifest::new` aggregates from a plugin's files.

`Manifest::new` folds the files, in order, into an empty manifest (`Manifest.addFile` is one
turn of its loop):

* a file's `default` replaces the manifest's default permission, as a set named `"default"`;
* a file's permissions are collected into a `BTreeMap` keyed by identifier and then `extend`
  the manifest's table; its permission sets likewise;
* the global scope schema is attached once, at the start.
-/

namespace Tauri.Acl

open Serde

/-- The default permission set of the plugin: a permission without identifier. -/
structure DefaultPermission where
  version : Option NonZeroU64
  description : Option String
  permissions : List String

/-- Permission file that can define a default permission, a set of permissions or a list of
inlined permissions. -/
structure PermissionFile (V T : Type) where
  default : Option DefaultPermission
  set : List PermissionSet
  permission : List (Permission V T)

/-- Plugin manifest. -/
structure Manifest (V T : Type) where
  defaultPermission : Option PermissionSet
  permissions : BTreeMap String (Permission V T)
  permissionSets : BTreeMap String PermissionSet
  globalScopeSchema : Option JsonValue

/-! ### `Manifest::new` -/

section New

variable {V T : Type}

/-- The body of the `for permission_file in permission_files` loop of `Manifest::new`. -/
def Manifest.addFile (manifest : Manifest V T) (permissionFile : PermissionFile V T) :
    Manifest V T :=
  { manifest with
    defaultPermission :=
      match permissionFile.default with
      | some default =>
        some { identifier := "default"
               description := default.description.getD "Default plugin permissions."
               permissions := default.permissions }
      | none => manifest.defaultPermission
    permissions := manifest.permissions.extend
      (BTreeMap.fromIter (permissionFile.permission.map fun p => (p.identifier, p))).entries
    permissionSets := manifest.permissionSets.extend
      (BTreeMap.fromIter (permissionFile.set.map fun set =>
        (set.identifier,
          { identifier := set.identifier
            description := set.description
            permissions := set.permissions }))).entries }

/-- `Manifest::new`: the files folded, in order, into an empty manifest. -/
def Manifest.new (permissionFiles : List (PermissionFile V T))
    (globalScopeSchema : Option JsonValue) : Manifest V T :=
  permissionFiles.foldl Manifest.addFile
    { defaultPermission := none
      permissions := .new
      permissionSets := .new
      globalScopeSchema }

end New

/-! ### Serialization -/

instance instSerializeDefaultPermission : Serialize DefaultPermission where
  serialize d := .object <|
    writeField "version" false (serialize d.version) <|
    writeField "description" false (serialize d.description) <|
    writeField "permissions" false (serialize d.permissions) []

instance instDeserializeDefaultPermission : Deserialize DefaultPermission where
  deserialize
    | .object es => do
      let version ← readField es "version" (.ok none)
      let description ← readField es "description" (.ok none)
      let permissions ← readField es "permissions" (missingField "permissions")
      pure { version, description, permissions }
    | _ => .error (.invalidType "struct DefaultPermission")

theorem roundTrips_defaultPermission : RoundTrips DefaultPermission := fun d => by
  have hv := roundTrips_option roundTrips_nonZeroU64 neverNull_nonZeroU64 d.version
  have hd := roundTrips_option roundTrips_string neverNull_string d.description
  simp [instSerializeDefaultPermission, instDeserializeDefaultPermission, hv, hd,
    roundTrips_list roundTrips_string _]
  rfl

theorem neverNull_defaultPermission : NeverNull DefaultPermission :=
  fun _ => JsonValue.noConfusion

section Serde

variable {V T : Type} [Serialize V] [Deserialize V] [Serialize T] [Deserialize T]

/-- `set` is `#[serde(default, skip_serializing_if = "Vec::is_empty")]`, `permission` is
`#[serde(default)]`. -/
instance instSerializePermissionFile : Serialize (PermissionFile V T) where
  serialize f := .object <|
    writeField "default" false (serialize f.default) <|
    writeField "set" f.set.isEmpty (serialize f.set) <|
    writeField "permission" false (serialize f.permission) []

instance instDeserializePermissionFile : Deserialize (PermissionFile V T) where
  deserialize
    | .object es => do
      let default ← readField es "default" (.ok none)
      let set ← readField es "set" (.ok [])
      let permission ← readField es "permission" (.ok [])
      pure { default, set, permission }
    | _ => .error (.invalidType "struct PermissionFile")

theorem roundTrips_permissionFile (hV : RoundTrips V) (hT : RoundTrips T) :
    RoundTrips (PermissionFile V T) := fun f => by
  have hd := roundTrips_option roundTrips_defaultPermission neverNull_defaultPermission f.default
  simp [instSerializePermissionFile, instDeserializePermissionFile, hd,
    roundTrips_list roundTrips_permissionSet _,
    roundTrips_list (roundTrips_permission hV hT) _]
  rfl

instance instSerializeManifest : Serialize (Manifest V T) where
  serialize m := .object <|
    writeField "default_permission" false (serialize m.defaultPermission) <|
    writeField "permissions" false (serialize m.permissions) <|
    writeField "permission_sets" false (serialize m.permissionSets) <|
    writeField "global_scope_schema" false (serialize m.globalScopeSchema) []

instance instDeserializeManifest : Deserialize (Manifest V T) where
  deserialize
    | .object es => do
      let defaultPermission ← readField es "default_permission" (.ok none)
      let permissions ← readField es "permissions" (missingField "permissions")
      let permissionSets ← readField es "permission_sets" (missingField "permission_sets")
      let globalScopeSchema ← readField es "global_scope_schema" (.ok none)
      pure { defaultPermission, permissions, permissionSets, globalScopeSchema }
    | _ => .error (.invalidType "struct Manifest")

/-- A manifest reads back as written, except that a global scope schema `Some(null)` reads
back as `None`. -/
theorem deserialize_serialize_manifest (hV : RoundTrips V) (hT : RoundTrips T)
    (m : Manifest V T) :
    deserialize (serialize m) = .ok { m with globalScopeSchema := dropNull m.globalScopeSchema } := by
  have hd := roundTrips_option roundTrips_permissionSet neverNull_permissionSet
    m.defaultPermission
  simp [instSerializeManifest, instDeserializeManifest, hd, deserialize_serialize_optionJson,
    roundTrips_btreeMap (roundTrips_permission hV hT) _,
    roundTrips_btreeMap roundTrips_permissionSet _]
  rfl

end Serde

end Tauri.Acl
