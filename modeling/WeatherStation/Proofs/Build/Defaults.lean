import Mathlib.Data.List.Basic
import Mathlib.Data.List.Induction
import WeatherStation.Build.Directives

/-!
# `WeatherStation.Proofs.Build.Defaults`: where a default setting comes from

The build takes each default setting from the environment, from the file of variables or from a
fallback. The rule is that the environment comes before the file, and that a blank value counts as
not set. The file is loaded into the environment first, and there a variable that is set to nothing
is set. So a blank variable hides the file's value.

* `fileValue`: the value that the lines of a file give to a variable, said without an environment
  that changes from line to line. `lookup_load` compares the two: loading a file adds exactly the
  variables that the environment does not have.
* `resolved`: the rule. `settingValue_load` compares it with what the build computes.
* `emitted_report`: the settings are among the directives of a report, each once and in order,
  whatever else the report says. `emitted_built`: they are what the station is built with.

`defaults_emitted` says for every environment and every file what the build emits, and when that is
not what the rule asks for.
-/

set_option autoImplicit false

namespace WeatherStation.Proofs.Build

open WeatherStation.Build WeatherStation.Build.DotEnv

/-! ### The values of a file -/

/-- The value that the lines of a file, latest first, give to a variable. The first line that sets
it counts. A variable in a value stands for its value in the environment, else for the one that the
lines before give to it, else for nothing. -/
def fileValue (env : Environment) : List Assignment → String → Option String
  | [], _ => none
  | a :: earlier, name =>
    fileValue env earlier name <|>
      if a.key = name then
        some (String.join (a.value.map fun piece =>
          match piece with
          | .char c => String.singleton c
          | .variable v => (env.lookup v <|> fileValue env earlier v).getD ""))
      else none

/-- An assignment adds its variable, if the environment does not have it. -/
theorem lookup_assign (env : Environment) (a : Assignment) (name : String) :
    (assign env a).lookup name =
      (env.lookup name <|> if a.key = name then some (expand env a.value) else none) := by
  rw [assign]
  by_cases hname : a.key = name
  · subst hname
    cases hbefore : env.lookup a.key with
    | some value => simp [hbefore]
    | none => simp [hbefore, List.lookup_append]
  · have hother : [(a.key, expand env a.value)].lookup name = none := by
      simp [List.lookup_cons, beq_eq_false_iff_ne.mpr (Ne.symm hname)]
    split <;> simp [List.lookup_append, hother]

/-- Loading a file adds exactly the variables that the environment does not have. The induction is
from the last line, for a line is read in the environment that the lines before it have made. -/
theorem lookup_load (env : Environment) (lines : List Assignment) (name : String) :
    (load env lines).lookup name = (env.lookup name <|> fileValue env lines.reverse name) := by
  -- The last line is read in what the lines before have left.
  induction lines using List.reverseRecOn generalizing name with
  | nil => simp [load, fileValue]
  | append_singleton earlier a ih =>
    have hload : load env (earlier ++ [a]) = assign (load env earlier) a := by
      simp [load]
    have hexpand : expand (load env earlier) a.value =
        String.join (a.value.map fun piece =>
          match piece with
          | .char c => String.singleton c
          | .variable v => (env.lookup v <|> fileValue env earlier.reverse v).getD "") := by
      rw [expand]
      congr 1
      refine List.map_congr_left fun piece _ => ?_
      rcases piece with c | v
      · rfl
      · dsimp only
        rw [ih]
    rw [hload, lookup_assign, ih, hexpand, List.reverse_append, List.reverse_singleton,
      List.singleton_append, fileValue]
    simp [Option.or_assoc]

/-! ### The rule -/

/-- A value without the blanks around it, if there is more to it than blanks. -/
def nonBlank? (value : Option String) : Option String :=
  (value.map Text.trimmed).filter fun text => text ≠ ""

/-- The value that the rule asks for. The environment comes before the file and the file before the
fallback, and a blank value counts as not set. -/
def resolved (inEnvironment inFile : Option String) (fallback : String) : String :=
  (nonBlank? inEnvironment <|> nonBlank? inFile).getD fallback

/-- The environment has a blank value for a variable. -/
def SetToNothing (env : Environment) (name : String) : Prop :=
  ∃ value, env.lookup name = some value ∧ Text.trimmed value = ""

instance (env : Environment) (name : String) : Decidable (SetToNothing env name) :=
  decidable_of_iff ((env.lookup name).map Text.trimmed = some "") (by simp [SetToNothing])

/-- A blank value is as good as none. -/
theorem nonBlank?_of_blank {value : String} (h : Text.trimmed value = "") :
    nonBlank? (some value) = none := by
  simp [nonBlank?, Option.filter, h]

/-- Any other value counts, without the blanks around it. -/
theorem nonBlank?_of_ne {value : String} (h : Text.trimmed value ≠ "") :
    nonBlank? (some value) = some (Text.trimmed value) := by
  simp [nonBlank?, Option.filter, h]

/-- What the build computes for a setting, in terms of the rule. It looks at one environment, into
which the file has gone already. -/
theorem settingValue_eq (env : Environment) (name fallback : String) :
    settingValue env name fallback = (nonBlank? (env.lookup name)).getD fallback := by
  rw [settingValue]
  cases env.lookup name with
  | none => rfl
  | some value =>
    by_cases hblank : Text.trimmed value = ""
    · simp [nonBlank?_of_blank hblank, hblank]
    · simp [nonBlank?_of_ne hblank, hblank]

/-- Of a variable that is set to nothing the rule asks what the file says. This is the case in which
the build does not keep to it. -/
theorem resolved_of_nothing {env : Environment} {name : String} (h : SetToNothing env name)
    (inFile : Option String) (fallback : String) :
    resolved (env.lookup name) inFile fallback = (nonBlank? inFile).getD fallback := by
  obtain ⟨value, hlookup, hblank⟩ := h
  simp [resolved, hlookup, nonBlank?_of_blank hblank]

/-- Behind a file the rule is kept, unless the environment sets the variable to nothing. Then the
fallback is taken, whatever stands in the file. -/
theorem settingValue_load (env : Environment) (lines : List Assignment) (name fallback : String) :
    settingValue (load env lines) name fallback =
      if SetToNothing env name then fallback
      else resolved (env.lookup name) (fileValue env lines.reverse name) fallback := by
  rw [settingValue_eq, lookup_load, resolved]
  cases hlookup : env.lookup name with
  | none => simp [SetToNothing, hlookup, nonBlank?]
  | some value =>
    by_cases hblank : Text.trimmed value = ""
    · simp [SetToNothing, hlookup, nonBlank?_of_blank hblank, hblank]
    · simp [SetToNothing, hlookup, nonBlank?_of_ne hblank, hblank]

/-! ### The directives -/

/-- How a directive begins that sets a variable for the compiler. -/
def settingMark : String := "cargo:rustc-env="

/-- The directives that set variables, in order. -/
def emitted (directives : List String) : List String :=
  directives.filter fun d => settingMark.toList.isPrefixOf d.toList

/-- What two reports set, one behind the other. -/
theorem emitted_append (first second : List String) :
    emitted (first ++ second) = emitted first ++ emitted second :=
  List.filter_append ..

/-- A setting has one directive that sets it. -/
theorem emitted_setting (env : Environment) (name fallback : String) :
    emitted (settingDirectives env name fallback) =
      [settingMark ++ name ++ "=" ++ settingValue env name fallback] := by
  simp [emitted, settingDirectives, settingMark]

/-- The directives about the file set no variable. -/
theorem emitted_file (error : Option LineError) : emitted [fileDirectives error] = [] := by
  cases error with
  | none =>
    show emitted ["cargo:warning=Loaded .env file"] = []
    simp [emitted, settingMark]
  | some e =>
    show emitted ["cargo:warning=Failed to load .env file: " ++ e.message] = []
    simp [emitted, settingMark]

/-- The warning about the network sets no variable. -/
theorem emitted_warning (env : Environment) : emitted (networkWarning env) = [] := by
  unfold networkWarning
  by_cases hblank : (Text.trimmed ((env.lookup "WIFI_SSID").getD "")).isEmpty = true
  · rw [if_pos hblank]
    simp [emitted, settingMark]
  · rw [if_neg hblank]
    rfl

/-- The report for the chip sets no variable. -/
theorem emitted_chip (arguments : List String) (program : String) :
    emitted (chipReport arguments program).directives = [] := by
  rw [chipReport]
  cases arguments.isEmpty <;> simp [emitted, settingMark]

/-- Whatever else a report says, it sets the variables of the settings, each once and in order. -/
theorem emitted_report (env : Environment) (file : Option String) (arguments : List String)
    (program : String) :
    emitted (report env file arguments program).directives =
      settingVariables.map fun (name, fallback) =>
        settingMark ++ name ++ "=" ++ settingValue (environmentWith env file) name fallback := by
  generalize hloaded : environmentWith env file = loaded
  have hhead : ∀ directives, emitted ("cargo:rerun-if-changed=.env" :: directives) =
      emitted directives := by
    intro directives
    simp [emitted, settingMark]
  have hfile : emitted (file.map fun text => fileDirectives (parse text).2).toList = [] := by
    cases file with
    | none => rfl
    | some text => exact emitted_file _
  have hsettings : emitted (settingVariables.flatMap fun (name, fallback) =>
        settingDirectives loaded name fallback) =
      settingVariables.map fun (name, fallback) =>
        settingMark ++ name ++ "=" ++ settingValue loaded name fallback := by
    rw [emitted, List.filter_flatMap, List.map_eq_flatMap]
    refine List.flatMap_congr fun setting _ => ?_
    exact emitted_setting loaded setting.1 setting.2
  have hcommon : emitted ("cargo:rerun-if-changed=.env" ::
      (file.map fun text => fileDirectives (parse text).2).toList ++
      settingVariables.flatMap (fun (name, fallback) => settingDirectives loaded name fallback) ++
      networkWarning loaded) =
      settingVariables.map fun (name, fallback) =>
        settingMark ++ name ++ "=" ++ settingValue loaded name fallback := by
    rw [List.cons_append, List.cons_append, hhead, emitted_append, emitted_append, hfile,
      hsettings, emitted_warning, List.nil_append, List.append_nil]
  rw [report, hloaded]
  -- What the chip adds sets nothing.
  cases hchip : (loaded.lookup chipVariable).isSome with
  | false => simpa using hcommon
  | true =>
    simp only [if_true]
    rw [emitted_append, hcommon, emitted_chip, List.append_nil]

/-- The texts of a build, in the order of the variables that they come from. -/
def texts (b : Config.Built) : List String :=
  [b.wifiSsid, b.wifiPassword, b.brokerHost, b.brokerPort, b.stationName, b.timezone, b.latitude,
    b.longitude]

/-- The station is built with the values that the report sets. So what a setting is when nothing is
stored goes back to the environment and the file. -/
theorem emitted_built (env : Environment) (file : Option String) (arguments : List String)
    (program : String) :
    emitted (report env file arguments program).directives =
      List.zipWith (fun (name, _) value => settingMark ++ name ++ "=" ++ value) settingVariables
        (texts (built env file)) := by
  rw [emitted_report]
  rfl

/-- Where nothing is set, it is built with the fallbacks. -/
example : built [] none = .plain := rfl

/-- The assignments of a file as far as it can be read, latest first; none without a file. -/
def linesOf (file : Option String) : List Assignment :=
  (file.elim [] fun text => (parse text).1).reverse

/-- For every environment, with or without a file of variables, in every way the program is called:

1. It emits one value for each of the settings, in order. That is the value of the rule, except that
   a variable which the environment sets to nothing gets the fallback.
2. So the rule is broken exactly for the variables that the environment sets to nothing and for
   which the file has a value of its own, other than the fallback. -/
theorem defaults_emitted (env : Environment) (file : Option String) (arguments : List String)
    (program : String) :
    let asked := fun name fallback =>
      resolved (env.lookup name) (fileValue env (linesOf file) name) fallback
    let given := fun name fallback =>
      if SetToNothing env name then fallback else asked name fallback
    emitted (report env file arguments program).directives =
        settingVariables.map (fun (name, fallback) =>
          settingMark ++ name ++ "=" ++ given name fallback) ∧
      ∀ name fallback, given name fallback ≠ asked name fallback ↔
        SetToNothing env name ∧
          ∃ value, nonBlank? (fileValue env (linesOf file) name) = some value ∧
            value ≠ fallback := by
  intro asked given
  have hgiven : ∀ name fallback,
      settingValue (environmentWith env file) name fallback = given name fallback := by
    intro name fallback
    cases file with
    | none => exact settingValue_load env [] name fallback
    | some text => exact settingValue_load env (parse text).1 name fallback
  constructor
  · rw [emitted_report]
    simp only [hgiven]
  · intro name fallback
    -- Only a variable that is set to nothing gets another value than the rule asks for, and only if
    -- the file has one.
    by_cases hnothing : SetToNothing env name
    · have hasked : asked name fallback =
          (nonBlank? (fileValue env (linesOf file) name)).getD fallback :=
        resolved_of_nothing hnothing _ fallback
      have hfallback : given name fallback = fallback := if_pos hnothing
      rw [hasked, hfallback]
      cases nonBlank? (fileValue env (linesOf file) name) with
      | none => simp
      | some value => simp [hnothing, eq_comm]
    · simp [given, hnothing]

/-- A blank variable hides the file's value, for which the rule asks. -/
example :
    settingValue (environmentWith [("WLAB_NAME", " ")] (some "WLAB_NAME=Kitchen")) "WLAB_NAME"
        "Station Name" = "Station Name" ∧
      resolved (some " ") (some "Kitchen") "Station Name" = "Kitchen" := by
  decide +kernel

end WeatherStation.Proofs.Build
