import Tauri.Cli.Result

/-!
# The iOS configuration

`get_config` (`mobile/ios/mod.rs`) fills the raw Apple configuration of the project, builds the
configuration from it with `AppleConfig::from_raw(..).unwrap()`, and returns it with the
metadata that goes with it.  The development team is the first of

* the `APPLE_DEVELOPMENT_TEAM` environment variable,
* `bundle > iOS > developmentTeam` of the Tauri configuration,
* the code signing team found on the machine, when there is exactly one;

and the features are the CLI's, followed by the ones the command passes.

`AppleConfig::from_raw` belongs to `cargo_mobile2` and is a parameter; the `set_var` calls and
the `log::warn!` lines are not modelled.
-/

namespace Tauri.Cli.Ios

/-- `cargo_mobile2::apple::teams::Team`. -/
structure Team where
  name : String
  id : String
  deriving DecidableEq, Repr

/-- The part of `CliOptions` that `get_config` reads. -/
structure CliOptions where
  features : Option (List String)
  args : List String
  deriving DecidableEq, Repr

/-- The fields of `apple::config::Raw` that `get_config` sets; the rest are `Default`. -/
structure RawAppleConfig where
  developmentTeam : Option String
  iosFeatures : Option (List String)
  bundleVersion : Option String
  bundleVersionShort : Option String
  iosVersion : Option String
  deriving DecidableEq, Repr

/-- The `ios` platform of `apple::config::Metadata`, as far as `get_config` sets it. -/
structure ApplePlatform where
  cargoArgs : Option (List String)
  features : Option (List String)
  deriving DecidableEq, Repr

/-- `TARGET_IOS_VERSION`. -/
def targetIosVersion : String := "13.0"

/-- `ios_options`: the CLI options, with the passed features appended to the CLI's
(`get_or_insert(Vec::new()).extend_from_slice(features)`). -/
def iosOptions (cliOptions : CliOptions) (features : Option (List String)) : CliOptions :=
  match features with
  | some features => { cliOptions with features := some (cliOptions.features.getD [] ++ features) }
  | none => cliOptions

/-- The last `or_else` of `development_team`: the only team found, if there is one. -/
def soleTeam (teams : List Team) : Except Failure (Option String) :=
  match teams.length with
  | 0 => pure none
  | 1 => do pure (some (← unwrap teams.head?).id)
  | _ => pure none

/-- `development_team`: the environment variable, else the configured team, else the sole
team of `find_development_teams().unwrap_or_default()`. -/
def developmentTeam (envTeam configTeam : Option String)
    (findDevelopmentTeams : Except String (List Team)) : Except Failure (Option String) :=
  match envTeam with
  | some team => pure (some team)
  | none =>
    match configTeam with
    | some team => pure (some team)
    | none =>
      soleTeam (match findDevelopmentTeams with | .ok teams => teams | .error _ => [])

/-- `get_config`; `fromRaw` is `AppleConfig::from_raw(app.clone(), Some(raw))`. -/
def getConfig {AppleConfig : Type} (fromRaw : RawAppleConfig → Except String AppleConfig)
    (envTeam configTeam : Option String) (findDevelopmentTeams : Except String (List Team))
    (version : Option String) (features : Option (List String)) (cliOptions : CliOptions) :
    Except Failure (AppleConfig × ApplePlatform) := do
  let iosOptions := iosOptions cliOptions features
  let raw : RawAppleConfig :=
    { developmentTeam := ← developmentTeam envTeam configTeam findDevelopmentTeams
      iosFeatures := iosOptions.features
      bundleVersion := version
      bundleVersionShort := version
      iosVersion := some targetIosVersion }
  let config ← unwrapResult (fromRaw raw)
  pure (config, { cargoArgs := some iosOptions.args, features := iosOptions.features })

end Tauri.Cli.Ios
