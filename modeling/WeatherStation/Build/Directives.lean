import WeatherStation.Build.DotEnv
import WeatherStation.Config.Settings

/-!
# `WeatherStation.Build.Directives`: what the build is told

Before the firmware is built, its default settings are taken from the environment, with a file
of environment variables behind it, and printed as directives for the build tool. The firmware
is compiled with the values that the directives set (`built`). For the chip, the linker gets a
script, and the same program serves as the linker's error handler: called with the kind of an
error and the name it is about, it prints a hint.
-/

set_option autoImplicit false

namespace WeatherStation.Build

open DotEnv

/-- The variables that hold default settings, with the values that stand in for empty ones. -/
def settingVariables : List (String × String) :=
  [("WIFI_SSID", Config.Built.plain.wifiSsid), ("WIFI_PASSWORD", Config.Built.plain.wifiPassword),
    ("WLAB_MQTT_BROKER", Config.Built.plain.brokerHost),
    ("WLAB_MQTT_PORT", Config.Built.plain.brokerPort),
    ("WLAB_NAME", Config.Built.plain.stationName), ("WLAB_TIMEZONE", Config.Built.plain.timezone),
    ("WLAB_LATITUDE", Config.Built.plain.latitude),
    ("WLAB_LONGITUDE", Config.Built.plain.longitude)]

/-- The variable that is set when the build is for the chip. -/
def chipVariable : String := "CARGO_FEATURE_ESP32C3"

/-- What goes on after the directives. -/
inductive Ending where
  /-- The program ends with an exit code, after printing lines as an error message. -/
  | exit (code : UInt8) (hint : List String)
  /-- The linker named no symbol. -/
  | missingArgument
  deriving DecidableEq, Repr

/-- The output of the program. -/
structure Report where
  directives : List String
  ending : Ending
  deriving DecidableEq, Repr

/-- The value of a setting's variable without the blanks around it; a blank one counts as not
set. -/
def settingValue (env : Environment) (name fallback : String) : String :=
  match env.lookup name with
  | some value => if (Text.trimmed value).isEmpty then fallback else Text.trimmed value
  | none => fallback

/-- The directives of one setting. -/
def settingDirectives (env : Environment) (name fallback : String) : List String :=
  ["cargo:rerun-if-env-changed=" ++ name,
    "cargo:rustc-env=" ++ name ++ "=" ++ settingValue env name fallback]

/-- What is said about the file. -/
def fileDirectives : Option LineError → String
  | none => "cargo:warning=Loaded .env file"
  | some e => "cargo:warning=Failed to load .env file: " ++ e.message

/-- A warning if there is no network to join. -/
def networkWarning (env : Environment) : List String :=
  if (Text.trimmed ((env.lookup "WIFI_SSID").getD "")).isEmpty then
    ["cargo:warning=WIFI_SSID is empty - WiFi will not be configured"]
  else []

/-- The hint for an undefined symbol. -/
def symbolHint (symbol : String) : List String :=
  if symbol = "_stack_start" then ["", "💡 Is the linker script `linkall.x` missing?", ""]
  else if symbol = "esp_wifi_preempt_enable" ∨ symbol = "esp_wifi_preempt_yield_task" ∨
      symbol = "esp_wifi_preempt_task_create" then
    ["", "💡 `esp-wifi` has no scheduler enabled. Make sure you have the " ++
      "`builtin-scheduler` feature enabled, or that you provide an external scheduler.", ""]
  else []

/-- What the error handler does with its arguments. -/
def handleLinkerError : List String → Ending
  | kind :: symbol :: _ =>
    if kind = "undefined-symbol" then .exit 0 (symbolHint symbol) else .exit 1 []
  | _ => .missingArgument

/-- The part for the chip: the linker's script and error handler, or the handling of an error
when there are arguments. -/
def chipReport (arguments : List String) (program : String) : Report :=
  if arguments.isEmpty then
    { directives :=
        ["cargo:rustc-link-arg=--error-handling-script=" ++ program,
          "cargo:rustc-link-arg=-Tlinkall.x"]
      ending := .exit 0 [] }
  else { directives := [], ending := handleLinkerError arguments }

/-- The environment with the variables of a file behind it. -/
def environmentWith (env : Environment) (file : Option String) : Environment :=
  match file with
  | some text => load env (parse text).1
  | none => env

/-- The defaults that the station is built with: the compiler finds them in the variables that the
directives set. -/
def built (env : Environment) (file : Option String) : Config.Built :=
  let env := environmentWith env file
  { wifiSsid := settingValue env "WIFI_SSID" Config.Built.plain.wifiSsid
    wifiPassword := settingValue env "WIFI_PASSWORD" Config.Built.plain.wifiPassword
    brokerHost := settingValue env "WLAB_MQTT_BROKER" Config.Built.plain.brokerHost
    brokerPort := settingValue env "WLAB_MQTT_PORT" Config.Built.plain.brokerPort
    stationName := settingValue env "WLAB_NAME" Config.Built.plain.stationName
    timezone := settingValue env "WLAB_TIMEZONE" Config.Built.plain.timezone
    latitude := settingValue env "WLAB_LATITUDE" Config.Built.plain.latitude
    longitude := settingValue env "WLAB_LONGITUDE" Config.Built.plain.longitude }

/-- What the program prints, in an environment, with or without a file of variables. -/
def report (env : Environment) (file : Option String) (arguments : List String)
    (program : String) : Report :=
  let fileLine := (file.map fun text => fileDirectives (parse text).2).toList
  let env := environmentWith env file
  let directives := "cargo:rerun-if-changed=.env" :: fileLine ++
    settingVariables.flatMap (fun (name, fallback) => settingDirectives env name fallback) ++
    networkWarning env
  if (env.lookup chipVariable).isSome then
    let chip := chipReport arguments program
    { chip with directives := directives ++ chip.directives }
  else { directives, ending := .exit 0 [] }

/-- The variables that a report depends on. -/
def relevantVariables (file : Option String) : List String :=
  chipVariable :: settingVariables.map (·.1) ++
    ((file.map fun text => names (parse text).1).getD [])

end WeatherStation.Build
