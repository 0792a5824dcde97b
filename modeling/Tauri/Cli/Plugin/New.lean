import Tauri.Cli.Result

/-!
# `tauri plugin new`

`plugin/new.rs` makes the directory of a new plugin and hands over to `plugin init`.  The
conversion into the options of `init` unwraps `directory`, which the command line may leave
out; `command` fills it in first, with `tauri-plugin-<name>` under the working directory.

* `command_spec`: the errors of `current_dir` and `create_dir_all` are returned, and otherwise
  `init` runs with the directory as written or the one just made;
* `command_noPanic`: so `init` runs in `tauri-plugin-<name>` under the working directory when
  no directory is written, the `unwrap` never fires, and the command panics only if `init`
  does.
-/

namespace Tauri.Cli.Plugin

/-- `plugin::new::Options`, the command line of `tauri plugin new`.  Paths are strings. -/
structure Options where
  pluginName : String
  noApi : Bool
  tauri : Bool
  directory : Option String
  tauriPath : Option String
  author : Option String
  android : Bool
  ios : Bool
  mobile : Bool
  deriving DecidableEq, Repr

/-- `plugin::init::Options`, as far as `new` fills it. -/
structure InitOptions where
  pluginName : Option String
  noApi : Bool
  tauri : Bool
  directory : String
  tauriPath : Option String
  author : Option String
  android : Bool
  ios : Bool
  mobile : Bool
  deriving DecidableEq, Repr

/-- `impl From<Options> for init::Options`: `directory` is unwrapped. -/
def Options.into (o : Options) : Except Failure InitOptions := do
  let directory ← unwrap o.directory
  pure { pluginName := some o.pluginName, noApi := o.noApi, tauri := o.tauri, directory,
         tauriPath := o.tauriPath, author := o.author, android := o.android, ios := o.ios,
         mobile := o.mobile }

/-- What `command` gets from the file system: `std::env::current_dir()`,
`std::fs::create_dir_all(path)`, and `Path::join` followed by `display().to_string()`. -/
structure Env where
  currentDir : Except String String
  createDirAll : String → Except String Unit
  join : String → String → String

/-- `plugin::new::command`; `init` is `plugin::init::command`. -/
def command (init : InitOptions → Except Failure Unit) (env : Env) (options : Options) :
    Except Failure Unit := do
  let cwd ← env.currentDir.mapError .error
  let options ← match options.directory with
    | some dir => do
      (env.createDirAll (env.join cwd dir)).mapError .error
      pure options
    | none => do
      let target := env.join cwd s!"tauri-plugin-{options.pluginName}"
      (env.createDirAll target).mapError .error
      pure { options with directory := some target }
  init (← options.into)

/-- The options `init` receives once `directory` is known. -/
def Options.withDirectory (o : Options) (directory : String) : InitOptions :=
  { pluginName := some o.pluginName, noApi := o.noApi, tauri := o.tauri, directory,
    tauriPath := o.tauriPath, author := o.author, android := o.android, ios := o.ios,
    mobile := o.mobile }

@[simp] theorem Options.into_some (o : Options) (dir : String) (h : o.directory = some dir) :
    o.into = .ok (o.withDirectory dir) := by
  simp [Options.into, h, Options.withDirectory, bind, Except.bind, pure, Except.pure]

section Command

variable (init : InitOptions → Except Failure Unit) (env : Env) (options : Options)

/-- The directory `command` makes: the one written, or `tauri-plugin-<name>`, under the
working directory `cwd`. -/
def targetDir (cwd : String) : String :=
  env.join cwd (options.directory.getD s!"tauri-plugin-{options.pluginName}")

/-- **`plugin new` makes the plugin's directory and runs `init` in it.**  An error of
`current_dir` or `create_dir_all` is returned; otherwise `init` gets the directory as written,
or the one just made when none was. -/
theorem command_spec :
    command init env options =
      match env.currentDir with
      | .error e => .error (.error e)
      | .ok cwd =>
        match env.createDirAll (targetDir env options cwd) with
        | .error e => .error (.error e)
        | .ok () => init (options.withDirectory
            (options.directory.getD (targetDir env options cwd))) := by
  unfold command targetDir
  cases env.currentDir with
  | error e => rfl
  | ok cwd =>
    cases hd : options.directory with
    | some dir =>
      cases hc : env.createDirAll (env.join cwd dir) <;>
        simp [Except.mapError, bind, Except.bind, pure, Except.pure, hd, hc]
    | none =>
      cases hc : env.createDirAll (env.join cwd s!"tauri-plugin-{options.pluginName}") <;>
        simp [Except.mapError, bind, Except.bind, pure, Except.pure, hc, Options.withDirectory]

/-- **`plugin new` runs `init` in the plugin's directory, and never panics on its own.**  Once
the working directory is known and the directory made, `init` gets the directory as written or,
when none was, `tauri-plugin-<name>` under the working directory; so the `unwrap` of
`directory` never fires, and the command panics only if `init` does. -/
theorem command_noPanic (hinit : ∀ o, NoPanic (init o)) :
    NoPanic (command init env options) ∧
    ∀ cwd, env.currentDir = .ok cwd →
      (options.directory = none →
        env.createDirAll (env.join cwd s!"tauri-plugin-{options.pluginName}") = .ok () →
        command init env options =
          init (options.withDirectory (env.join cwd s!"tauri-plugin-{options.pluginName}"))) ∧
      (∀ dir, options.directory = some dir → env.createDirAll (env.join cwd dir) = .ok () →
        command init env options = init (options.withDirectory dir)) := by
  refine ⟨?_, fun cwd hcwd => ⟨fun hd hc => ?_, fun dir hd hc => ?_⟩⟩
  · rw [command_spec]
    split
    · simp
    · split
      · simp
      · exact hinit _
  · simp [command_spec, hcwd, targetDir, hd, hc]
  · simp [command_spec, hcwd, targetDir, hd, hc]

end Command

/-- A plugin named `camera`, made in the working directory `/home`. -/
theorem command_noPanic_camera :
    let env : Env := ⟨.ok "/home", fun _ => .ok (), fun a b => a ++ "/" ++ b⟩
    let options : Options := ⟨"camera", false, false, none, none, none, false, false, false⟩
    let init : InitOptions → Except Failure Unit := fun _ => .ok ()
    (∀ o, NoPanic (init o)) ∧ NoPanic (command init env options) ∧
    ∀ cwd, env.currentDir = .ok cwd →
      (options.directory = none →
        env.createDirAll (env.join cwd s!"tauri-plugin-{options.pluginName}") = .ok () →
        command init env options =
          init (options.withDirectory (env.join cwd s!"tauri-plugin-{options.pluginName}"))) ∧
      (∀ dir, options.directory = some dir → env.createDirAll (env.join cwd dir) = .ok () →
        command init env options = init (options.withDirectory dir)) := by
  intro env options init
  have hinit : ∀ o, NoPanic (init o) := fun _ => noPanic_ok _
  exact ⟨hinit, command_noPanic init env options hinit⟩

end Tauri.Cli.Plugin
