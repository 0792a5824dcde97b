import Mathlib.Data.String.Basic

/-!
# The CLI's `Result`

The CLI returns `anyhow::Result`.  A command ends with a value, with an error it returns
(`?`, `bail!`, `Err(anyhow!(..))`), or with a panic (`unwrap`, `expect` on `None`).  The model
keeps the two kinds of failure apart, so that "never panics" can be stated: `NoPanic` for a
command's result, `RunNoPanic` for a run over a state.  A sequence does not panic when its
parts do not (`NoPanic.bind`), and errors mapped from a library call are not panics
(`noPanic_mapError`).
-/

namespace Tauri.Cli

/-- How a command fails: an error returned to the caller, or a panic, each with its message. -/
inductive Failure
  | error (msg : String)
  | panic (msg : String)
  deriving DecidableEq, Repr

/-- The failure is not a panic. -/
def Failure.IsError : Failure → Prop
  | .error _ => True
  | .panic _ => False

/-- The command did not panic: it returned a value or an error. -/
def NoPanic {α : Type} (r : Except Failure α) : Prop := ∀ f, r = .error f → f.IsError

/-- A run over a state did not panic: it returned, or failed with an error, in some state. -/
def RunNoPanic {σ α : Type} (r : EStateM.Result Failure σ α) : Prop :=
  ∀ f s, r = .error f s → f.IsError

section NoPanic

variable {α β : Type}

@[simp] theorem noPanic_ok (a : α) : NoPanic (.ok a : Except Failure α) := nofun

@[simp] theorem noPanic_pure (a : α) : NoPanic (pure a : Except Failure α) := nofun

@[simp] theorem noPanic_error (msg : String) : NoPanic (.error (.error msg) : Except Failure α) :=
  fun _ h => by cases h; trivial

@[simp] theorem noPanic_throw (msg : String) :
    NoPanic (throw (.error msg) : Except Failure α) := noPanic_error msg

@[simp] theorem not_noPanic_panic (msg : String) :
    ¬NoPanic (.error (.panic msg) : Except Failure α) := fun h => h _ rfl

@[simp] theorem runNoPanic_ok {σ : Type} (a : α) (s : σ) :
    RunNoPanic (.ok a s : EStateM.Result Failure σ α) := nofun

@[simp] theorem runNoPanic_error {σ : Type} (msg : String) (s : σ) :
    RunNoPanic (.error (.error msg) s : EStateM.Result Failure σ α) :=
  fun _ _ h => by cases h; trivial

/-- Errors raised by a library call and mapped into the CLI's errors are not panics. -/
@[simp] theorem noPanic_mapError (x : Except String α) (f : String → String) :
    NoPanic (x.mapError fun cause => .error (f cause)) := by
  cases x <;> simp [Except.mapError]

/-- A sequence does not panic when its first part does not, nor its rest after any value the
first part returns. -/
theorem NoPanic.bind {x : Except Failure α} {f : α → Except Failure β} (hx : NoPanic x)
    (hf : ∀ a, x = .ok a → NoPanic (f a)) : NoPanic (x >>= f) := by
  cases x with
  | error e => exact fun f' h => hx f' (by cases h; rfl)
  | ok a => exact hf a rfl

end NoPanic

/-- `Option::expect`. -/
def expect {α : Type} (o : Option α) (msg : String) : Except Failure α :=
  match o with
  | some a => .ok a
  | none => .error (.panic msg)

/-- `Option::unwrap`. -/
def unwrap {α : Type} (o : Option α) : Except Failure α :=
  expect o "called `Option::unwrap()` on a `None` value"

/-- `Result::unwrap`. -/
def unwrapResult {α : Type} (r : Except String α) : Except Failure α :=
  match r with
  | .ok a => .ok a
  | .error e => .error (.panic s!"called `Result::unwrap()` on an `Err` value: {e}")

@[simp] theorem expect_some {α : Type} (a : α) (msg : String) : expect (some a) msg = .ok a := rfl

@[simp] theorem unwrap_some {α : Type} (a : α) : unwrap (some a) = .ok a := rfl

/-- Indexing within bounds and unwrapping does not panic. -/
theorem noPanic_unwrap_getElem? {α : Type} {l : List α} {i : Nat} (h : i < l.length) :
    NoPanic (unwrap l[i]?) := by
  simp [List.getElem?_eq_getElem h]

end Tauri.Cli
