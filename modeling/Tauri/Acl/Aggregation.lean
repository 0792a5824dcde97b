import Tauri.Acl.Manifest

/-!
# What `Manifest::new` computes

`Manifest::new` deduplicates twice: inside a file, where `collect::<BTreeMap<_, _>>()` keeps
the last of equal identifiers, and across files, where `extend` overwrites.  Both keep the
later declaration, so the manifest only depends on the files' declarations laid end to end:

* `Manifest.addFile_eq`: one file extends the tables by its own list, in order
  (`BTreeMap.extend_fromIter` removes the inner `collect`);
* `Manifest.foldl_addFile`: a run of files extends them by the concatenated lists, and the
  default is the last file's that has one;
* `Manifest.new_eq`: hence `Manifest::new` is `Manifest.aggregate` of the concatenations;
* `Manifest.new_spec`: each identifier maps to its last declaration, unmerged, and the keys
  are exactly the declared identifiers;
* `Manifest.new_append_of_redeclared`: later files that declare again everything the earlier
  ones declare shadow them completely;
* `Manifest.new_append_comm`: files that declare nothing in common can be read in either
  order.  Both rest on the map being determined by its lookups (`BTreeMap.ext`).
-/

namespace Tauri.Acl

open Serde

variable {V T : Type}

/-- The set a default permission stands for. -/
def DefaultPermission.toSet (d : DefaultPermission) : PermissionSet where
  identifier := "default"
  description := d.description.getD "Default plugin permissions."
  permissions := d.permissions

/-- A manifest from its declarations read as single lists: the last default, and each table
keyed by identifier, later declarations overwriting earlier ones. -/
def Manifest.aggregate (defaults : List DefaultPermission) (sets : List PermissionSet)
    (permissions : List (Permission V T)) (globalScopeSchema : Option JsonValue) :
    Manifest V T where
  defaultPermission := defaults.getLast?.map DefaultPermission.toSet
  permissions := .fromIter (permissions.map fun p => (p.identifier, p))
  permissionSets := .fromIter (sets.map fun s => (s.identifier, s))
  globalScopeSchema := globalScopeSchema

/-! ### One file, then a run of files -/

/-- **One turn of the loop**: the file's default (if any) replaces the manifest's, and its
permissions and sets extend the tables in file order. -/
theorem Manifest.addFile_eq (m : Manifest V T) (f : PermissionFile V T) :
    m.addFile f =
      { defaultPermission := (f.default.map DefaultPermission.toSet).or m.defaultPermission
        permissions := m.permissions.extend (f.permission.map fun p => (p.identifier, p))
        permissionSets := m.permissionSets.extend (f.set.map fun s => (s.identifier, s))
        globalScopeSchema := m.globalScopeSchema } := by
  simp only [addFile, BTreeMap.extend_fromIter]
  cases f.default <;> rfl

/-- **A run of files** extends the tables by the concatenated lists; the default is the last
one declared, if any. -/
theorem Manifest.foldl_addFile (fs : List (PermissionFile V T)) (m : Manifest V T) :
    fs.foldl addFile m =
      { defaultPermission :=
          ((fs.filterMap (·.default)).getLast?.map DefaultPermission.toSet).or
            m.defaultPermission
        permissions :=
          m.permissions.extend ((fs.flatMap (·.permission)).map fun p => (p.identifier, p))
        permissionSets :=
          m.permissionSets.extend ((fs.flatMap (·.set)).map fun s => (s.identifier, s))
        globalScopeSchema := m.globalScopeSchema } := by
  induction fs generalizing m with
  | nil => simp [Option.or_none]
  | cons f fs ih =>
    rw [List.foldl_cons, ih, addFile_eq]
    simp only [List.flatMap_cons, List.map_append, BTreeMap.extend_append, mk.injEq, and_true]
    cases hd : f.default with
    | none => rw [List.filterMap_cons_none hd]; rfl
    | some d =>
      rw [List.filterMap_cons_some hd, ← List.singleton_append, List.getLast?_append,
        Option.map_or', Option.or_assoc]
      rfl

/-- **`Manifest::new` is the aggregate of the concatenated declarations.** -/
theorem Manifest.new_eq (fs : List (PermissionFile V T)) (g : Option JsonValue) :
    Manifest.new fs g =
      aggregate (fs.filterMap (·.default)) (fs.flatMap (·.set)) (fs.flatMap (·.permission)) g := by
  rw [Manifest.new, foldl_addFile]
  simp [aggregate, BTreeMap.fromIter, Option.or_none]

/-! ### Lookups -/

theorem getEntry?_map_key {α : Type} (key : α → String) (l : List α) (k : String) :
    getEntry? k (l.map fun a => (key a, a)) = l.find? (key · = k) := by
  induction l with
  | nil => rfl
  | cons a rest ih => by_cases h : key a = k <;> simp [getEntry?, h, ih]

/-- In a table collected by identifier, an identifier maps to its last declaration. -/
theorem get?_fromIter_key {α : Type} (key : α → String) (l : List α) (k : String) :
    (BTreeMap.fromIter (l.map fun a => (key a, a))).get? k = l.reverse.find? (key · = k) := by
  rw [BTreeMap.get?_fromIter, ← List.map_reverse, getEntry?_map_key]

theorem mem_keys_fromIter_key {α : Type} (key : α → String) (l : List α) (k : String) :
    k ∈ (BTreeMap.fromIter (l.map fun a => (key a, a))).keys ↔ ∃ a ∈ l, key a = k := by
  rw [BTreeMap.mem_keys, get?_fromIter_key, List.find?_isSome]
  simp

/-- **`Manifest::new`, field by field.**  Under each identifier the permission table holds the
last permission declared with it, in file order and then in-file order, as declared; its keys
are exactly the declared identifiers.  The set table is built the same way from the sets.
The default is the last declared default, as a set named `"default"`, and the schema is the
one given. -/
theorem Manifest.new_spec (fs : List (PermissionFile V T)) (g : Option JsonValue) :
    let m := Manifest.new fs g
    (∀ k, m.permissions.get? k =
      (fs.flatMap (·.permission)).reverse.find? (·.identifier = k)) ∧
    (∀ k, k ∈ m.permissions.keys ↔ ∃ p ∈ fs.flatMap (·.permission), p.identifier = k) ∧
    (∀ k, m.permissionSets.get? k = (fs.flatMap (·.set)).reverse.find? (·.identifier = k)) ∧
    (∀ k, k ∈ m.permissionSets.keys ↔ ∃ s ∈ fs.flatMap (·.set), s.identifier = k) ∧
    m.defaultPermission = (fs.filterMap (·.default)).getLast?.map (fun d =>
      { identifier := "default"
        description := d.description.getD "Default plugin permissions."
        permissions := d.permissions }) ∧
    m.globalScopeSchema = g := by
  simp only [Manifest.new_eq]
  exact ⟨get?_fromIter_key _ _, mem_keys_fromIter_key _ _, get?_fromIter_key _ _,
    mem_keys_fromIter_key _ _, rfl, rfl⟩

/-- The one file holding a run of files' declarations: their sets and permissions in order,
and the last default. -/
def PermissionFile.concat (fs : List (PermissionFile V T)) : PermissionFile V T where
  default := (fs.filterMap (·.default)).getLast?
  set := fs.flatMap (·.set)
  permission := fs.flatMap (·.permission)

/-- **Splitting a file does not change the manifest**: a run of files gives the manifest of
the one file that holds all their declarations, in the same order. -/
theorem Manifest.new_concat (fs : List (PermissionFile V T)) (g : Option JsonValue) :
    Manifest.new fs g = Manifest.new [PermissionFile.concat fs] g := by
  rw [new_eq, new_eq]
  cases h : (fs.filterMap (·.default)).getLast? <;>
    simp [PermissionFile.concat, aggregate, h]

/-! ### Shadowing -/

/-- A table collected from two runs of declarations, where every identifier of the first is
declared again in the second, is the table of the second. -/
theorem fromIter_key_append_of_redeclared {α : Type} (key : α → String) {l₁ l₂ : List α}
    (h : ∀ a ∈ l₁, ∃ b ∈ l₂, key b = key a) :
    BTreeMap.fromIter ((l₁ ++ l₂).map fun a => (key a, a)) =
      BTreeMap.fromIter (l₂.map fun a => (key a, a)) := by
  refine BTreeMap.ext fun k => ?_
  rw [get?_fromIter_key, get?_fromIter_key, List.reverse_append, List.find?_append]
  cases h₂ : l₂.reverse.find? (key · = k) with
  | some b => rfl
  | none =>
    have hnone : ∀ a ∈ l₁, key a ≠ k := fun a ha hak => by
      obtain ⟨b, hb, hba⟩ := h a ha
      have := List.find?_eq_none.mp h₂ b (List.mem_reverse.mpr hb)
      simp [hba, hak] at this
    simpa using fun a ha => hnone a (List.mem_reverse.mp ha)

/-- **Later files shadow earlier ones completely.**  When the later files declare again every
permission and every set the earlier ones declare, and a default whenever the earlier ones do,
the manifest is the one the later files alone give. -/
theorem Manifest.new_append_of_redeclared (fs₁ fs₂ : List (PermissionFile V T))
    (g : Option JsonValue)
    (hp : ∀ p ∈ fs₁.flatMap (·.permission), ∃ q ∈ fs₂.flatMap (·.permission),
      q.identifier = p.identifier)
    (hs : ∀ s ∈ fs₁.flatMap (·.set), ∃ t ∈ fs₂.flatMap (·.set), t.identifier = s.identifier)
    (hd : fs₁.filterMap (·.default) ≠ [] → fs₂.filterMap (·.default) ≠ []) :
    Manifest.new (fs₁ ++ fs₂) g = Manifest.new fs₂ g := by
  have hdefault : (fs₁.filterMap (·.default) ++ fs₂.filterMap (·.default)).getLast? =
      (fs₂.filterMap (·.default)).getLast? := by
    rw [List.getLast?_append]
    by_cases h₂ : fs₂.filterMap (·.default) = []
    · have h₁ : fs₁.filterMap (·.default) = [] := by_contra fun h₁ => hd h₁ h₂
      simp [h₁, h₂]
    · obtain ⟨d, hd₂⟩ := Option.isSome_iff_exists.mp
        (List.getLast?_isSome.mpr h₂)
      simp [hd₂]
  rw [new_eq, new_eq]
  simp only [aggregate, List.flatMap_append, List.filterMap_append, hdefault,
    fromIter_key_append_of_redeclared _ hp, fromIter_key_append_of_redeclared _ hs]

/-- A hand-written draft of `allow-read`, shadowed by a generated file that declares it
again with its command and a default. -/
theorem new_append_of_redeclared_draft :
    let draft : PermissionFile JsonValue String :=
      ⟨some ⟨none, some "Draft.", ["allow-read"]⟩, [],
        [⟨none, "allow-read", some "Draft.", {}, {}, none⟩]⟩
    let generated : PermissionFile JsonValue String :=
      ⟨some ⟨none, none, ["allow-read"]⟩, [], [⟨none, "allow-read", none, ⟨["read"], []⟩, {}, none⟩]⟩
    (∀ p ∈ [draft].flatMap (·.permission), ∃ q ∈ [generated].flatMap (·.permission),
      q.identifier = p.identifier) ∧
    (∀ s ∈ [draft].flatMap (·.set), ∃ t ∈ [generated].flatMap (·.set),
      t.identifier = s.identifier) ∧
    ([draft].filterMap (·.default) ≠ [] → [generated].filterMap (·.default) ≠ []) ∧
    Manifest.new ([draft] ++ [generated]) none = Manifest.new [generated] none := by
  intro draft generated
  have hp : ∀ p ∈ [draft].flatMap (·.permission), ∃ q ∈ [generated].flatMap (·.permission),
      q.identifier = p.identifier := by
    intro p hp
    simp only [draft, List.flatMap_cons, List.flatMap_nil, List.append_nil,
      List.mem_singleton] at hp
    subst hp
    exact ⟨_, List.mem_singleton_self _, rfl⟩
  have hs : ∀ s ∈ [draft].flatMap (·.set), ∃ t ∈ [generated].flatMap (·.set),
      t.identifier = s.identifier := by
    simp [draft]
  have hd : [draft].filterMap (·.default) ≠ [] → [generated].filterMap (·.default) ≠ [] :=
    fun _ => by simp [generated]
  exact ⟨hp, hs, hd, Manifest.new_append_of_redeclared _ _ _ hp hs hd⟩

/-- A table collected from two runs of declarations with no identifier in common does not
depend on which run comes first. -/
theorem fromIter_key_append_comm {α : Type} (key : α → String) {l₁ l₂ : List α}
    (h : ∀ a ∈ l₁, ∀ b ∈ l₂, key a ≠ key b) :
    BTreeMap.fromIter ((l₁ ++ l₂).map fun a => (key a, a)) =
      BTreeMap.fromIter ((l₂ ++ l₁).map fun a => (key a, a)) := by
  refine BTreeMap.ext fun k => ?_
  rw [get?_fromIter_key, get?_fromIter_key, List.reverse_append, List.reverse_append,
    List.find?_append, List.find?_append]
  cases h₁ : l₁.reverse.find? (key · = k) with
  | none => simp
  | some a =>
    cases h₂ : l₂.reverse.find? (key · = k) with
    | none => rfl
    | some b =>
      have ha := List.find?_some h₁
      have hb := List.find?_some h₂
      simp only [decide_eq_true_eq] at ha hb
      exact absurd (ha.trans hb.symm)
        (h a (List.mem_reverse.mp (List.mem_of_find?_eq_some h₁)) b
          (List.mem_reverse.mp (List.mem_of_find?_eq_some h₂)))

/-- **Files that do not conflict can be read in either order.**  When two runs of files
declare no permission and no set identifier in common, and at most one of them declares a
default, the manifest does not depend on which run comes first. -/
theorem Manifest.new_append_comm (fs₁ fs₂ : List (PermissionFile V T)) (g : Option JsonValue)
    (hp : ∀ p ∈ fs₁.flatMap (·.permission), ∀ q ∈ fs₂.flatMap (·.permission),
      p.identifier ≠ q.identifier)
    (hs : ∀ s ∈ fs₁.flatMap (·.set), ∀ t ∈ fs₂.flatMap (·.set), s.identifier ≠ t.identifier)
    (hd : fs₁.filterMap (·.default) = [] ∨ fs₂.filterMap (·.default) = []) :
    Manifest.new (fs₁ ++ fs₂) g = Manifest.new (fs₂ ++ fs₁) g := by
  rw [new_eq, new_eq]
  simp only [aggregate, List.flatMap_append, List.filterMap_append,
    fromIter_key_append_comm _ hp, fromIter_key_append_comm _ hs]
  rcases hd with hd | hd <;> simp [hd]

/-- A file granting `allow-read` with the default, and one granting `allow-write`. -/
theorem new_append_comm_readWrite :
    let read : PermissionFile JsonValue String :=
      ⟨some ⟨none, none, ["allow-read"]⟩, [], [⟨none, "allow-read", none, ⟨["read"], []⟩, {}, none⟩]⟩
    let write : PermissionFile JsonValue String :=
      ⟨none, [], [⟨none, "allow-write", none, ⟨["write"], []⟩, {}, none⟩]⟩
    (∀ p ∈ [read].flatMap (·.permission), ∀ q ∈ [write].flatMap (·.permission),
      p.identifier ≠ q.identifier) ∧
    (∀ s ∈ [read].flatMap (·.set), ∀ t ∈ [write].flatMap (·.set),
      s.identifier ≠ t.identifier) ∧
    ([read].filterMap (·.default) = [] ∨ [write].filterMap (·.default) = []) ∧
    Manifest.new ([read] ++ [write]) none = Manifest.new ([write] ++ [read]) none := by
  intro read write
  have hp : ∀ p ∈ [read].flatMap (·.permission), ∀ q ∈ [write].flatMap (·.permission),
      p.identifier ≠ q.identifier := by
    intro p hp q hq
    simp only [read, write, List.flatMap_cons, List.flatMap_nil, List.append_nil,
      List.mem_singleton] at hp hq
    subst hp hq
    decide
  have hs : ∀ s ∈ [read].flatMap (·.set), ∀ t ∈ [write].flatMap (·.set),
      s.identifier ≠ t.identifier := by
    simp [read]
  have hd : [read].filterMap (·.default) = [] ∨ [write].filterMap (·.default) = [] :=
    .inr (by simp [write])
  exact ⟨hp, hs, hd, Manifest.new_append_comm _ _ _ hp hs hd⟩

end Tauri.Acl
