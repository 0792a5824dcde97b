import Tauri.Acl.Manifest

/-!
# Serialization round trips of the ACL types

Every ACL type reads back as it was written, given only that the scope `Value` and the platform
`Target` do (`acl_roundTrips`).  A manifest reads back with its global scope schema
`Some(Value::Null)` turned into `None`, which is how serde reads a `null` into an `Option`, and
with everything else as it was (`manifest_roundTrips_iff`).
-/

namespace Tauri.Acl

open Serde

variable {V T : Type} [Serialize V] [Deserialize V] [Serialize T] [Deserialize T]

omit [Deserialize V] [Deserialize T] in
/-- An empty scope is not written at all. -/
theorem serialize_permission_get?_scope (p : Permission V T) (h : p.scope = {}) :
    (serialize p).get? "scope" = none := by
  simp [instSerializePermission, JsonValue.get?, (Scopes.isEmpty_iff _).2 h]

omit [Deserialize V] [Deserialize T] in
/-- An empty `set` list is not written at all. -/
theorem serialize_permissionFile_get?_set (f : PermissionFile V T) (h : f.set = []) :
    (serialize f).get? "set" = none := by
  simp [instSerializePermissionFile, JsonValue.get?, h]

/-- **The ACL types round-trip.**  Permissions, permission sets, default permissions and
permission files read back equal, whichever optional parts are absent, empty or present; an
empty scope and an empty `set` list are left out of the output; and a manifest reads back with
the same default permission, permissions and permission sets. -/
theorem acl_roundTrips (hV : RoundTrips V) (hT : RoundTrips T) :
    RoundTrips (Permission V T) ∧ RoundTrips PermissionSet ∧ RoundTrips DefaultPermission ∧
    RoundTrips (PermissionFile V T) ∧
    (∀ p : Permission V T, p.scope = {} → (serialize p).get? "scope" = none) ∧
    (∀ f : PermissionFile V T, f.set = [] → (serialize f).get? "set" = none) ∧
    ∀ m : Manifest V T, ∃ m' : Manifest V T, deserialize (serialize m) = .ok m' ∧
      m'.defaultPermission = m.defaultPermission ∧ m'.permissions = m.permissions ∧
      m'.permissionSets = m.permissionSets := by
  exact ⟨roundTrips_permission hV hT, roundTrips_permissionSet, roundTrips_defaultPermission,
    roundTrips_permissionFile hV hT, serialize_permission_get?_scope,
    serialize_permissionFile_get?_set,
    fun m => ⟨_, deserialize_serialize_manifest hV hT m, rfl, rfl, rfl⟩⟩

/-- With scope values kept as `serde_json::Value` and targets written as strings. -/
theorem acl_roundTrips_json :
    RoundTrips (Permission JsonValue String) ∧ RoundTrips PermissionSet ∧
    RoundTrips DefaultPermission ∧ RoundTrips (PermissionFile JsonValue String) ∧
    (∀ p : Permission JsonValue String, p.scope = {} → (serialize p).get? "scope" = none) ∧
    (∀ f : PermissionFile JsonValue String, f.set = [] → (serialize f).get? "set" = none) ∧
    ∀ m : Manifest JsonValue String, ∃ m' : Manifest JsonValue String,
      deserialize (serialize m) = .ok m' ∧ m'.defaultPermission = m.defaultPermission ∧
      m'.permissions = m.permissions ∧ m'.permissionSets = m.permissionSets :=
  acl_roundTrips roundTrips_jsonValue roundTrips_string

/-- **A manifest reads back with a `Some(null)` schema turned into `None`**, and nothing else
changed; so it round-trips exactly when its global scope schema is not `Some(null)`. -/
theorem manifest_roundTrips_iff (hV : RoundTrips V) (hT : RoundTrips T) (m : Manifest V T) :
    deserialize (serialize m) = .ok { m with globalScopeSchema := dropNull m.globalScopeSchema } ∧
      (deserialize (serialize m) = .ok m ↔ m.globalScopeSchema ≠ some .null) := by
  refine ⟨deserialize_serialize_manifest hV hT m, ?_⟩
  rw [deserialize_serialize_manifest hV hT]
  obtain ⟨d, p, s, _ | ⟨_ | _ | _ | _ | _ | _⟩⟩ := m <;> simp [dropNull]

/-- A manifest whose schema is `Some(null)` comes back with no schema. -/
theorem manifest_roundTrips_iff_null :
    let m : Manifest JsonValue String :=
      { defaultPermission := none, permissions := .new, permissionSets := .new,
        globalScopeSchema := some .null }
    deserialize (serialize m) = .ok { m with globalScopeSchema := dropNull m.globalScopeSchema } ∧
      (deserialize (serialize m) = .ok m ↔ m.globalScopeSchema ≠ some .null) :=
  manifest_roundTrips_iff roundTrips_jsonValue roundTrips_string _

end Tauri.Acl
