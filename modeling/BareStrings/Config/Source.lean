import BareStrings.Config.Options
import BareStrings.Yaml.Load

namespace BareStrings.Config

open BareStrings.Rule BareStrings.Text

/-- Why a file gives no options. What a text cannot spell is told apart from a malformed text. -/
inductive ConfigError where
  | malformed (file : List Char)
  | content (cause : Yaml.LoadError)
  | notMapping (file : List Char)
  | options (cause : OptionsError)

/-- The wording of a configuration error. -/
def ConfigError.message : ConfigError → String
  | .malformed file => "Failed to parse options file " ++ String.ofList file
  | .content cause => cause.message
  | .notMapping file => "Options file " ++ String.ofList file ++ " is not a mapping"
  | .options cause => cause.message

/-- Whether an error tells that the configuration breaks its rules. -/
def ConfigError.isRuleBroken : ConfigError → Bool
  | .malformed _ | .notMapping _ => true
  | .content _ => false
  | .options cause => cause.isRuleBroken

/-- The options in the text of a file, or nothing if the text holds no data. -/
def optionsOfText? (file text : List Char) : Except ConfigError (Option Options) := do
  match Yaml.load text with
  | .error .malformed => throw (.malformed file)
  | .error cause => throw (.content cause)
  | .ok data =>
    if data.root = .null then return none
    match data.root.collection? data.collections with
    | some (.mapping _) => return some (← (optionsOf data).mapError .options)
    | _ => throw (.notMapping file)

end BareStrings.Config
