import Mathlib.Data.String.Basic

/-!
# Remote URL patterns and execution contexts

`RemoteUrlPattern` (`acl/mod.rs`) wraps a compiled `urlpattern::UrlPattern` and the text it was
parsed from.  `from_str` parses the text into a `UrlPatternInit`, completes three of its
components, and compiles it:

* an absent or empty `search` becomes `*`, and so does an absent or empty `hash`;
* an absent, empty or root (`/`) `pathname` becomes `*`.

Two patterns are equal when their eight compiled components are, whatever texts they were
parsed from.  The `urlpattern` crate (its constructor-string parser, its compiler and its
matcher) is not among the files modelled; the three functions are the section's variables.
-/

namespace Tauri.Acl

/-- `urlpattern::UrlPatternInit`: the components the text gave, each absent or a pattern. -/
structure UrlPatternInit where
  protocol : Option String
  username : Option String
  password : Option String
  hostname : Option String
  port : Option String
  pathname : Option String
  search : Option String
  hash : Option String
  baseUrl : Option String
  deriving DecidableEq, Repr

/-- The completion `from_str` applies before compiling. -/
def completeInit (init : UrlPatternInit) : UrlPatternInit :=
  let init := if (init.search.map String.isEmpty).getD true then
    { init with search := some "*" } else init
  let init := if (init.hash.map String.isEmpty).getD true then
    { init with hash := some "*" } else init
  if (init.pathname.map fun p => p.isEmpty || p == "/").getD true then
    { init with pathname := some "*" } else init

/-! ### Patterns -/

/-- The component patterns of a compiled `urlpattern::UrlPattern`, as its `protocol()`,
`username()`, ..., `hash()` return them. -/
structure UrlPatternComponents where
  protocol : String
  username : String
  password : String
  hostname : String
  port : String
  pathname : String
  search : String
  hash : String
  deriving DecidableEq, Repr

/-- `RemoteUrlPattern(Arc<UrlPattern>, String)`: a compiled pattern and its source text. -/
structure RemoteUrlPattern (P : Type) where
  pattern : P
  text : String

section Patterns

variable {E P U : Type} (parseConstructorString : String → Except E UrlPatternInit)
  (parse : UrlPatternInit → Except E P) (components : P → UrlPatternComponents)
  (patternTest : P → U → Except E Bool)

/-- `RemoteUrlPattern::from_str`. -/
def RemoteUrlPattern.fromStr (s : String) : Except E (RemoteUrlPattern P) := do
  let init ← parseConstructorString s
  let pattern ← parse (completeInit init)
  pure ⟨pattern, s⟩

/-- `RemoteUrlPattern::test`: a matcher error is no match. -/
def RemoteUrlPattern.test (p : RemoteUrlPattern P) (url : U) : Bool :=
  match patternTest p.pattern url with
  | .ok b => b
  | .error _ => false

/-- `impl PartialEq for RemoteUrlPattern`: the eight components, one by one. -/
def RemoteUrlPattern.eq (a b : RemoteUrlPattern P) : Bool :=
  let x := components a.pattern
  let y := components b.pattern
  x.protocol == y.protocol && x.username == y.username && x.password == y.password &&
    x.hostname == y.hostname && x.port == y.port && x.pathname == y.pathname &&
    x.search == y.search && x.hash == y.hash

end Patterns

/-- `ExecutionContext`: the app's own content, or a remote URL matching a pattern. -/
inductive ExecutionContext (P : Type)
  | local
  | remote (url : RemoteUrlPattern P)

/-- `#[default] Local`. -/
instance {P : Type} : Inhabited (ExecutionContext P) := ⟨.local⟩

end Tauri.Acl
