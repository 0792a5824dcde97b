import Tauri.Collections.BTreeMap
import Tauri.Serde.Json
import Tauri.Acl.Types
import Tauri.Acl.Manifest
import Tauri.Acl.Aggregation
import Tauri.Acl.RoundTrip
import Tauri.Acl.UrlPattern
import Tauri.Acl.Tokens
import Tauri.Cli.Result
import Tauri.Cli.Ios.DevicePrompt
import Tauri.Cli.Ios.Config
import Tauri.Cli.Ios.MergePlist
import Tauri.Cli.Plugin.New
import Tauri.Macros.Mobile
