import Tauri.Acl.Manifest
import Tauri.Acl.UrlPattern

/-!
# Embedding ACL values as Rust code

With the `build` feature the ACL types implement `quote::ToTokens`: `tauri-build` writes the
resolved ACL into the app as Rust expressions, which the app evaluates when it starts.  The
model reads each token stream as the Rust expression it parses to (`Expr α`, of type `α`) and
gives those expressions their meaning (`Expr.eval`: the value, or `none` when evaluating
panics).

What `to_tokens` writes:

* `Commands`, `Scopes`, `Permission`, `PermissionSet`, `DefaultPermission`, `Manifest`: a struct
  literal (`literal_struct!`) with a literal for each field;
* a version `v`: `::core::num::NonZeroU64::new(v.get()).unwrap()`;
* a table: `map_lit`, a block inserting each entry, in iteration order, into
  `BTreeMap::new()`;
* `ExecutionContext::Remote { url }`: `url.as_str().parse().unwrap()`.

The literal helpers of `tauri_utils::tokens` (`str_lit`, `vec_lit`, `opt_lit`, `map_lit`, ...)
are not among the files modelled; the class `Literals` bundles them with what the code each
one writes evaluates to, and `tokensLiterals` is one instance of it.

* `eval_versionLit`: the `unwrap` on a written version never panics;
* `embeds_permission`, `embeds_manifest`: every permission and every manifest evaluates back
  to itself, provided scope values and targets do; the tables are rebuilt entry by entry
  (`BTreeMap.fromIter_entries`).

The `DefaultPermission` literal names `::tauri::utils::acl::plugin::DefaultPermission`, and
`acl/mod.rs` declares no `plugin` module; the manifest writes its default permission as a
`PermissionSet`, so its literal does not go through that impl.
-/

namespace Tauri.Acl

open Serde

/-! ### Rust expressions -/

/-- The Rust expressions the `ToTokens` impls write, indexed by their type.  Each constructor
is the expression it is named after: `optionSome e` is `Some(e)`, `vecCons e rest` is
`vec![e, rest..]`, `mapInsert m k v` an `insert` in the block `map_lit` writes, and `commands`
to `manifest` and `local`, `remote` the struct and variant literals of the ACL types, with their
paths.  `lit a` is a literal that an impl outside the files modelled writes
(`serde_json::Value`'s, `Target`'s), standing for the value it evaluates to. -/
inductive Expr : Type → Type 1
  | str (s : String) : Expr String
  | u64 (n : UInt64) : Expr UInt64
  | lit {α : Type} (a : α) : Expr α
  | optionNone {α : Type} : Expr (Option α)
  | optionSome {α : Type} (e : Expr α) : Expr (Option α)
  | vecNil {α : Type} : Expr (List α)
  | vecCons {α : Type} (e : Expr α) (rest : Expr (List α)) : Expr (List α)
  | nonZeroU64New (e : Expr UInt64) : Expr (Option NonZeroU64)
  | unwrap {α : Type} (e : Expr (Option α)) : Expr α
  | parse {ε α : Type} (fromStr : String → Except ε α) (e : Expr String) : Expr (Except ε α)
  | unwrapResult {ε α : Type} (e : Expr (Except ε α)) : Expr α
  | mapNew {α : Type} : Expr (BTreeMap String α)
  | mapInsert {α : Type} (m : Expr (BTreeMap String α)) (k : Expr String) (v : Expr α) :
      Expr (BTreeMap String α)
  | commands (allow deny : Expr (List String)) : Expr Commands
  | scopes {V : Type} (allow deny : Expr (Option (List V))) : Expr (Scopes V)
  | permission {V T : Type} (version : Expr (Option NonZeroU64)) (identifier : Expr String)
      (description : Expr (Option String)) (commands : Expr Commands) (scope : Expr (Scopes V))
      (platforms : Expr (Option (List T))) : Expr (Permission V T)
  | permissionSet (identifier description : Expr String) (permissions : Expr (List String)) :
      Expr PermissionSet
  | defaultPermission (version : Expr (Option NonZeroU64)) (description : Expr (Option String))
      (permissions : Expr (List String)) : Expr DefaultPermission
  | manifest {V T : Type} (defaultPermission : Expr (Option PermissionSet))
      (permissions : Expr (BTreeMap String (Permission V T)))
      (permissionSets : Expr (BTreeMap String PermissionSet))
      (globalScopeSchema : Expr (Option JsonValue)) : Expr (Manifest V T)
  | local {P : Type} : Expr (ExecutionContext P)
  | remote {P : Type} (url : Expr (RemoteUrlPattern P)) : Expr (ExecutionContext P)

/-- What an expression evaluates to; `none` when it panics. -/
def Expr.eval : {α : Type} → Expr α → Option α
  | _, .str s => some s
  | _, .u64 n => some n
  | _, .lit a => some a
  | _, .optionNone => some none
  | _, .optionSome e => e.eval.map some
  | _, .vecNil => some []
  | _, .vecCons e rest => do pure ((← e.eval) :: (← rest.eval))
  | _, .nonZeroU64New e => e.eval.map fun n => if h : n = 0 then none else some ⟨n, h⟩
  | _, .unwrap e => e.eval.bind id
  | _, .parse fromStr e => e.eval.map fromStr
  | _, .unwrapResult e => e.eval.bind Except.toOption
  | _, .mapNew => some .new
  | _, .mapInsert m k v => do pure ((← m.eval).insert (← k.eval) (← v.eval))
  | _, .commands a d => do pure { allow := ← a.eval, deny := ← d.eval }
  | _, .scopes a d => do pure { allow := ← a.eval, deny := ← d.eval }
  | _, .permission v i d c s p => do
    pure { version := ← v.eval, identifier := ← i.eval, description := ← d.eval
           commands := ← c.eval, scope := ← s.eval, platforms := ← p.eval }
  | _, .permissionSet i d p => do
    pure { identifier := ← i.eval, description := ← d.eval, permissions := ← p.eval }
  | _, .defaultPermission v d p => do
    pure { version := ← v.eval, description := ← d.eval, permissions := ← p.eval }
  | _, .manifest d p s g => do
    pure { defaultPermission := ← d.eval, permissions := ← p.eval, permissionSets := ← s.eval
           globalScopeSchema := ← g.eval }
  | _, .local => some .local
  | _, .remote url => url.eval.map .remote

section Eval

variable {α : Type}

theorem mapM_eq_some_self {β : Type} {g : β → Option β} (h : ∀ b, g b = some b) (l : List β) :
    l.mapM g = some l := by
  induction l with
  | nil => rfl
  | cons b rest ih => rw [List.mapM_cons, h, ih]; rfl

theorem eval_foldr_vecCons {β : Type} (l : List β) (f : β → Expr α) :
    (l.foldr (fun b rest => Expr.vecCons (f b) rest) Expr.vecNil).eval =
      l.mapM fun b => (f b).eval := by
  induction l with
  | nil => rfl
  | cons b rest ih => rw [List.foldr_cons, List.mapM_cons, Expr.eval, ih]

/-- The key and the value of an entry, evaluated in turn. -/
def evalEntry {β : Type} (key : String → Expr String) (value : β → Expr α) (e : String × β) :
    Option (String × α) := do
  pure ((← (key e.1).eval), (← (value e.2).eval))

/-- A block of inserts evaluates to the map it starts from, extended by the entries. -/
theorem eval_foldl_mapInsert {β : Type} (l : List (String × β)) (key : String → Expr String)
    (value : β → Expr α) (m : Expr (BTreeMap String α)) :
    (l.foldl (fun m e => Expr.mapInsert m (key e.1) (value e.2)) m).eval =
      m.eval.bind fun m₀ => (l.mapM (evalEntry key value)).map m₀.extend := by
  induction l generalizing m with
  | nil =>
    rw [List.foldl_nil]
    cases m.eval <;> rfl
  | cons e rest ih =>
    rw [List.foldl_cons, ih, List.mapM_cons, Expr.eval, evalEntry]
    cases m.eval <;> cases (key e.1).eval <;> cases (value e.2).eval <;>
      cases rest.mapM (evalEntry key value) <;> rfl

end Eval

/-! ### The literal helpers -/

/-- The literal helpers of `tauri_utils::tokens`, with what the code each writes evaluates
to: `str_lit`, `opt_lit` (and `opt_lit_owned`, given the item's tokens), `opt_str_lit`,
`vec_lit`, `opt_vec_lit`, `map_lit` (the map given by its entries in iteration order, each
inserted in turn into a new map) and `json_value_lit`. -/
class Literals where
  strLit : String → Expr String
  optLit : {α : Type} → Option (Expr α) → Expr (Option α)
  optStrLit : Option String → Expr (Option String)
  vecLit : {β α : Type} → List β → (β → Expr α) → Expr (List α)
  optVecLit : {β α : Type} → Option (List β) → (β → Expr α) → Expr (Option (List α))
  mapLit : {β α : Type} → List (String × β) → (String → Expr String) → (β → Expr α) →
    Expr (BTreeMap String α)
  jsonValueLit : JsonValue → Expr JsonValue
  eval_strLit (s : String) : (strLit s).eval = some s
  eval_optLit {α : Type} (o : Option (Expr α)) :
    (optLit o).eval = o.elim (some none) fun e => e.eval.map some
  eval_optStrLit (o : Option String) : (optStrLit o).eval = some o
  eval_vecLit {β α : Type} (l : List β) (f : β → Expr α) :
    (vecLit l f).eval = l.mapM fun b => (f b).eval
  eval_optVecLit {β α : Type} (o : Option (List β)) (f : β → Expr α) :
    (optVecLit o f).eval = o.elim (some none) fun l => (l.mapM fun b => (f b).eval).map some
  eval_mapLit {β α : Type} (l : List (String × β)) (key : String → Expr String)
    (value : β → Expr α) :
    (mapLit l key value).eval =
      (l.mapM (evalEntry key value)).map BTreeMap.fromIter
  eval_jsonValueLit (v : JsonValue) : (jsonValueLit v).eval = some v

export Literals (strLit optLit optStrLit vecLit optVecLit mapLit jsonValueLit)

/-- The helpers as `tauri_utils::tokens` writes them: `s.into()`, `None` or `Some(..)`,
`vec![..]`, and for a map a block of `insert`s into `BTreeMap::new()`.  `json_value_lit` is
left a literal. -/
instance tokensLiterals : Literals where
  strLit := .str
  optLit o := o.elim .optionNone .optionSome
  optStrLit o := (o.map .str).elim .optionNone .optionSome
  vecLit l f := l.foldr (fun b rest => .vecCons (f b) rest) .vecNil
  optVecLit o f := (o.map fun l => l.foldr (fun b rest => .vecCons (f b) rest) .vecNil).elim
    .optionNone .optionSome
  mapLit l key value := l.foldl (fun m e => .mapInsert m (key e.1) (value e.2)) .mapNew
  jsonValueLit := .lit
  eval_strLit _ := rfl
  eval_optLit o := by cases o <;> rfl
  eval_optStrLit o := by cases o <;> rfl
  eval_vecLit := eval_foldr_vecCons
  eval_optVecLit o f := by cases o <;> simp [Expr.eval, eval_foldr_vecCons]
  eval_mapLit l key value := by
    rw [eval_foldl_mapInsert]
    cases l.mapM (evalEntry key value) <;> rfl
  eval_jsonValueLit _ := rfl

/-! ### `ToTokens` -/

/-- `quote::ToTokens`: the expression a value is written as. -/
class ToTokens (α : Type) where
  toTokens : α → Expr α

export ToTokens (toTokens)

/-- **Writing a value and evaluating what was written gives the value back.** -/
def Embeds (α : Type) [ToTokens α] : Prop := ∀ a : α, (toTokens a).eval = some a

/-- What the impls of `Permission` and `DefaultPermission` write for a version:
`::core::num::NonZeroU64::new(v.get()).unwrap()`. -/
def versionLit (v : NonZeroU64) : Expr NonZeroU64 :=
  let v := v.get
  .unwrap (.nonZeroU64New (.u64 v))

/-- **The `unwrap` of a written version never panics**: the number is not zero. -/
theorem eval_versionLit (v : NonZeroU64) : (versionLit v).eval = some v := by
  obtain ⟨n, hn⟩ := v
  simp [versionLit, Expr.eval, hn]

section Impls

variable [Literals] {V T : Type} [ToTokens V] [ToTokens T]

/-- `impl ToTokens for Commands`. -/
def Commands.toTokens (c : Commands) : Expr Commands :=
  let allow := vecLit c.allow strLit
  let deny := vecLit c.deny strLit
  .commands allow deny

instance : ToTokens Commands := ⟨Commands.toTokens⟩

/-- `impl ToTokens for Scopes`: each value writes itself (`identity`). -/
def Scopes.toTokens (s : Scopes V) : Expr (Scopes V) :=
  let allow := optVecLit s.allow ToTokens.toTokens
  let deny := optVecLit s.deny ToTokens.toTokens
  .scopes allow deny

instance : ToTokens (Scopes V) := ⟨Scopes.toTokens⟩

/-- `impl ToTokens for Permission`. -/
def Permission.toTokens (p : Permission V T) : Expr (Permission V T) :=
  let version := optLit (p.version.map versionLit)
  let identifier := strLit p.identifier
  let description := optStrLit p.description
  let commands := ToTokens.toTokens p.commands
  let scope := ToTokens.toTokens p.scope
  let platforms := optVecLit p.platforms ToTokens.toTokens
  .permission version identifier description commands scope platforms

instance : ToTokens (Permission V T) := ⟨Permission.toTokens⟩

/-- `impl ToTokens for PermissionSet`. -/
def PermissionSet.toTokens (s : PermissionSet) : Expr PermissionSet :=
  let identifier := strLit s.identifier
  let description := strLit s.description
  let permissions := vecLit s.permissions strLit
  .permissionSet identifier description permissions

instance : ToTokens PermissionSet := ⟨PermissionSet.toTokens⟩

/-- `impl ToTokens for DefaultPermission`. -/
def DefaultPermission.toTokens (d : DefaultPermission) : Expr DefaultPermission :=
  let version := optLit (d.version.map versionLit)
  let description := optStrLit d.description
  let permissions := vecLit d.permissions strLit
  .defaultPermission version description permissions

instance : ToTokens DefaultPermission := ⟨DefaultPermission.toTokens⟩

/-- `impl ToTokens for Manifest`: both tables through `map_lit`, keys by `str_lit` and values
writing themselves. -/
def Manifest.toTokens (m : Manifest V T) : Expr (Manifest V T) :=
  let defaultPermission := optLit (m.defaultPermission.map ToTokens.toTokens)
  let permissions := mapLit m.permissions.entries strLit ToTokens.toTokens
  let permissionSets := mapLit m.permissionSets.entries strLit ToTokens.toTokens
  let globalScopeSchema := optLit (m.globalScopeSchema.map jsonValueLit)
  .manifest defaultPermission permissions permissionSets globalScopeSchema

instance : ToTokens (Manifest V T) := ⟨Manifest.toTokens⟩

end Impls

/-! ### Written values evaluate back -/

section Helpers

variable [Literals] {β α : Type} {f : β → Expr β} (hf : ∀ b, (f b).eval = some b)
include hf

theorem eval_vecLit_of (l : List β) : (vecLit l f).eval = some l := by
  rw [Literals.eval_vecLit, mapM_eq_some_self hf]

theorem eval_optLit_map (o : Option β) : (optLit (o.map f)).eval = some o := by
  cases o <;> simp [Literals.eval_optLit, hf]

theorem eval_optVecLit_of (o : Option (List β)) : (optVecLit o f).eval = some o := by
  rw [Literals.eval_optVecLit]
  cases o with
  | none => rfl
  | some l => exact congrArg (Option.map some) (mapM_eq_some_self hf l)

theorem eval_mapLit_of (l : List (String × β)) :
    (mapLit l strLit f).eval = some (BTreeMap.fromIter l) := by
  rw [Literals.eval_mapLit, mapM_eq_some_self fun e => by simp [evalEntry, Literals.eval_strLit, hf]]
  rfl

end Helpers

section Embeds

variable [Literals] {V T : Type} [ToTokens V] [ToTokens T]

theorem embeds_commands : Embeds Commands := fun c => by
  simp [toTokens, Commands.toTokens, Expr.eval, eval_vecLit_of Literals.eval_strLit]

theorem embeds_scopes (hV : Embeds V) : Embeds (Scopes V) := fun s => by
  simp [toTokens, Scopes.toTokens, Expr.eval, eval_optVecLit_of hV]

theorem embeds_permissionSet : Embeds PermissionSet := fun s => by
  simp [toTokens, PermissionSet.toTokens, Expr.eval, Literals.eval_strLit,
    eval_vecLit_of Literals.eval_strLit]

theorem embeds_permission (hV : Embeds V) (hT : Embeds T) : Embeds (Permission V T) := fun p => by
  have hc : (Commands.toTokens p.commands).eval = some p.commands := embeds_commands p.commands
  have hs : (Scopes.toTokens p.scope).eval = some p.scope := embeds_scopes hV p.scope
  simp only [toTokens, Permission.toTokens]
  rw [Expr.eval]
  simp only [hc, hs, eval_optLit_map eval_versionLit, Literals.eval_strLit,
    Literals.eval_optStrLit, eval_optVecLit_of hT]
  rfl

/-- **Every manifest is embedded faithfully**: the code `to_tokens` writes for it evaluates,
without panicking, to the same default permission, the same two tables and the same schema,
provided scope values and targets are written faithfully. -/
theorem embeds_manifest (hV : Embeds V) (hT : Embeds T) : Embeds (Manifest V T) := fun m => by
  have hp : ∀ p, (Permission.toTokens p).eval = some p := embeds_permission hV hT
  have hs : ∀ s, (PermissionSet.toTokens s).eval = some s := embeds_permissionSet
  simp only [toTokens, Manifest.toTokens]
  rw [Expr.eval]
  simp only [eval_optLit_map hs, eval_mapLit_of hp, eval_mapLit_of hs,
    BTreeMap.fromIter_entries, eval_optLit_map Literals.eval_jsonValueLit]
  rfl

end Embeds

/-- A string writes itself as a string literal. -/
instance : ToTokens String := ⟨.str⟩

/-- Manifests whose scope values and targets are strings, written by the helpers of
`tauri_utils::tokens`. -/
theorem embeds_manifest_string :
    Embeds String ∧ Embeds String ∧ Embeds (Manifest String String) :=
  ⟨fun _ => rfl, fun _ => rfl, embeds_manifest (fun _ => rfl) fun _ => rfl⟩

/-! ### Execution contexts -/

section Context

variable {E P : Type} (parseConstructorString : String → Except E UrlPatternInit)
  (parse : UrlPatternInit → Except E P)

/-- `impl ToTokens for ExecutionContext`.  The `parse()` it writes resolves to
`RemoteUrlPattern::from_str`. -/
def ExecutionContext.toTokens : ExecutionContext P → Expr (ExecutionContext P)
  | .local => .local
  | .remote url =>
    let url := url.text
    .remote (.unwrapResult
      (.parse (RemoteUrlPattern.fromStr parseConstructorString parse) (.str url)))

end Context

end Tauri.Acl
