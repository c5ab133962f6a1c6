import QueryRegression.Json.Printer
import QueryRegression.Json.Reader
import QueryRegression.Policy.Settings.Json
import QueryRegression.Toml.Printer
import QueryRegression.Toml.Reader
import QueryRegression.Yaml.Printer
import QueryRegression.Yaml.Reader

/-!
# Settings as documents

Settings are kept in files of three formats; the extension of a file's name tells which. A setting
of an unknown name is passed over, and one that is left out is missing.
-/

namespace QueryRegression

/-- The formats of files with settings. -/
inductive SettingsFormat where
  | toml
  | yaml
  | json
deriving DecidableEq

/-- The format of a file with the given extension. -/
def SettingsFormat.ofExtension (extension : Option String) : SettingsFormat :=
  match extension with
  | some "toml" => .toml
  | some "yaml" | some "yml" => .yaml
  | _ => .json

/-- The part of a file's name after its last point, which does not stand at the beginning. -/
def extensionOf (fileName : String) : Option String :=
  let reversed := fileName.toList.reverse
  match reversed.dropWhile (· ≠ '.') with
  | _ :: _ :: _ => some (.ofList (reversed.takeWhile (· ≠ '.')).reverse)
  | _ => none

namespace Settings

/-! ## TOML -/

/-- The text of a value. -/
def tomlText? : Toml → Option String
  | .string s => some s
  | _ => none

/-- The natural number of a value. -/
def tomlNat? : Toml → Option Nat
  | .integer n => if 0 ≤ n then some n.toNat else none
  | _ => none

/-- Reads an optional setting. -/
def tomlSetting? {α : Type} (members : Toml.Members) (read : Toml → Option α) (name : String) :
    Option (Option α) :=
  match members.lookup name with
  | none => some none
  | some value => (read value).map some

/-- Reads settings from a TOML document. -/
def ofToml? (members : Toml.Members) : Option Settings := do
  let text? := tomlSetting? members tomlText?
  return ⟨← text? "allowed_divergence", ← text? "execute_exceed_percent",
    ← text? "execute_time_minimum", ← tomlSetting? members tomlNat? "time_for_one_query_ms",
    ← text? "result_mode"⟩

/-- The line of a setting that is not missing. -/
def tomlLine (name : String) (value : Option String) : String :=
  value.elim "" fun value => name ++ " = " ++ value ++ "\n"

/-- The settings as a TOML document, which has no numbers of more than 63 bits. -/
def toToml (s : Settings) : Except Error String :=
  if s.timeForOneQuery.any (2 ^ 63 ≤ ·) then .error (.serialization "the number is too large")
  else
    .ok (tomlLine "allowed_divergence" (s.allowedDivergence.map Toml.quoted) ++
      tomlLine "execute_exceed_percent" (s.exceedPercent.map Toml.quoted) ++
      tomlLine "execute_time_minimum" (s.minimumTime.map Toml.quoted) ++
      tomlLine "time_for_one_query_ms" (s.timeForOneQuery.map toString) ++
      tomlLine "result_mode" (s.resultMode.map Toml.quoted))

/-! ## YAML -/

/-- The text of a scalar. -/
def yamlText? : Yaml → Option String
  | .scalar _ _ _ text => some text
  | _ => none

/-- The natural number of a scalar. Scalars without quotes are numbers whatever their tag. -/
def yamlNat? : Yaml → Option Nat
  | .scalar _ tag style text =>
    if style = .plain ∨ style = .literal ∧ tag = some Yaml.integerTag then Yaml.natOfText? text
    else none
  | _ => none

/-- Reads the value of a setting, which null stands for the lack of. -/
def yamlValue? {α : Type} (read : Yaml → Option α) (value : Yaml) : Option (Option α) :=
  match value with
  | .scalar _ none .plain text => if Yaml.isNullText text then some none else (read value).map some
  | .scalar _ (some tag) .plain text =>
    if tag ≠ Yaml.nullTag then (read value).map some
    else if Yaml.isNullWord text then some none
    else none
  | _ => (read value).map some

/-- Reads an optional setting, which occurs at most once; the keys of the entries are texts. -/
def yamlSetting? {α : Type} (entries : List (String × Yaml)) (read : Yaml → Option α)
    (name : String) : Option (Option α) :=
  match entries.filter (·.1 = name) with
  | [] => some none
  | [(_, value)] => yamlValue? read value
  | _ => none

/-- Reads settings from a YAML document. One without content has no settings. -/
def ofYaml? (root : Yaml) : Option Settings :=
  match root with
  | .mapping _ entries => do
    let entries ← entries.mapM fun (key, value) => do
      return (← (root.resolve? key).bind yamlText?, ← root.resolve? value)
    let text? := yamlSetting? entries yamlText?
    return ⟨← text? "allowed_divergence", ← text? "execute_exceed_percent",
      ← text? "execute_time_minimum", ← yamlSetting? entries yamlNat? "time_for_one_query_ms",
      ← text? "result_mode"⟩
  | .scalar _ _ _ "" => some .empty
  | _ => none

/-- The entry of a setting, of which the value ends in a line break if there is one. -/
def yamlEntry (name : String) (value : Option String) : String :=
  name ++ ": " ++ value.getD "null\n"

/-- The settings as a YAML document. -/
def toYaml (s : Settings) : String :=
  yamlEntry "allowed_divergence" (s.allowedDivergence.map Yaml.written) ++
    yamlEntry "execute_exceed_percent" (s.exceedPercent.map Yaml.written) ++
    yamlEntry "execute_time_minimum" (s.minimumTime.map Yaml.written) ++
    yamlEntry "time_for_one_query_ms" (s.timeForOneQuery.map fun n => toString n ++ "\n") ++
    yamlEntry "result_mode" (s.resultMode.map Yaml.written)

/-! ## Files -/

/-- Reads settings in a format. -/
def read? (format : SettingsFormat) (content : String) : Option Settings :=
  match format with
  | .toml => (Toml.parse? content).bind ofToml?
  | .yaml => (Yaml.parse? content).bind ofYaml?
  | .json => (Json.parse? content).bind ofJson?

/-- Loads the settings from a file of the given name and content, if there is one. -/
def load (fileName : String) (content : Option String) : Except Error Settings :=
  match content with
  | none => .error (.io "No such file or directory (os error 2)")
  | some content =>
    match read? (.ofExtension (extensionOf fileName)) content with
    | some s => .ok s
    | none => .error (.serialization "the document holds no settings")

/-- The content of a file of the given name with the settings. -/
def save (s : Settings) (fileName : String) : Except Error String :=
  match SettingsFormat.ofExtension (extensionOf fileName) with
  | .toml => s.toToml
  | .yaml => .ok s.toYaml
  | .json => .ok s.toJson.pretty

end Settings
end QueryRegression
