import BatchLens.Json.Printer
import BatchLens.Json.Reader
import BatchLens.Json.Record
import BatchLens.Settings.Basic

/-!
# Settings as JSON

Settings are records in which every field has a default. The written form has all fields in
order, and the log filter only if there is one.
-/

namespace BatchLens

namespace CompletionSettings

/-- Reads what completion offers. -/
def ofJson? (json : Json) : Option CompletionSettings :=
  match json.fields? ["keywords", "environment_variables", "document_variables"] with
  | some [keywords, environmentVariables, documentVariables] => do
      let keywords ← keywords.withDefault true Json.bool?
      let environmentVariables ← environmentVariables.withDefault true Json.bool?
      let documentVariables ← documentVariables.withDefault true Json.bool?
      some { keywords, environmentVariables, documentVariables }
  | _ => none

/-- Writes what completion offers. -/
def toJson (settings : CompletionSettings) : Json :=
  .object [
    Json.member "keywords" (.bool settings.keywords),
    Json.member "environment_variables" (.bool settings.environmentVariables),
    Json.member "document_variables" (.bool settings.documentVariables)]

end CompletionSettings

namespace HoverSettings

/-- Reads what hover texts show. -/
def ofJson? (json : Json) : Option HoverSettings :=
  match json.fields? ["split_path", "show_expanded"] with
  | some [splitPath, showExpanded] => do
      let splitPath ← splitPath.withDefault true Json.bool?
      let showExpanded ← showExpanded.withDefault true Json.bool?
      some { splitPath, showExpanded }
  | _ => none

/-- Writes what hover texts show. -/
def toJson (settings : HoverSettings) : Json :=
  .object [
    Json.member "split_path" (.bool settings.splitPath),
    Json.member "show_expanded" (.bool settings.showExpanded)]

end HoverSettings

namespace PairingSettings

/-- Reads whether pairs are closed. -/
def ofJson? (json : Json) : Option PairingSettings :=
  match json.fields? ["enabled"] with
  | some [enabled] => do
      let enabled ← enabled.withDefault true Json.bool?
      some { enabled }
  | _ => none

/-- Writes whether pairs are closed. -/
def toJson (settings : PairingSettings) : Json :=
  .object [Json.member "enabled" (.bool settings.enabled)]

end PairingSettings

namespace Settings

/-- Reads all settings. -/
def ofJson? (json : Json) : Option Settings :=
  match json.fields? ["completion", "quick_info", "type_through", "log_filter"] with
  | some [completion, hover, pairing, logFilter] => do
      let completion ← completion.withDefault {} CompletionSettings.ofJson?
      let hover ← hover.withDefault {} HoverSettings.ofJson?
      let pairing ← pairing.withDefault {} PairingSettings.ofJson?
      let logFilter ← logFilter.withDefault none (Json.nullable? Json.string?)
      some { completion, hover, pairing, logFilter }
  | _ => none

/-- Writes all settings. -/
def toJson (settings : Settings) : Json :=
  .object ([
    Json.member "completion" settings.completion.toJson,
    Json.member "quick_info" settings.hover.toJson,
    Json.member "type_through" settings.pairing.toJson] ++
    (settings.logFilter.map fun filter => Json.member "log_filter" (.string filter)).toList)

/-- The settings that a text spells. -/
def parse? (text : Text) : Option Settings := do
  let json ← Json.parse? text
  ofJson? json

/-- The settings in one line. -/
def compact (settings : Settings) : Text := settings.toJson.compact

/-- The settings with one field a line. -/
def pretty (settings : Settings) : Text := settings.toJson.pretty

end Settings

end BatchLens
