import BareStrings.Yaml.Error

namespace BareStrings.Yaml

open BareStrings.Text

/-- A tag as it is written: a handle that stands for the beginning of the tag, and the rest. -/
structure TagName where
  handle : Option (List Char)
  suffix : List Char
deriving DecidableEq

/-- A directive before a document: the major version of the language, what a tag handle stands for,
or one that is passed over. -/
inductive Directive where
  | version (major : Nat)
  | handle (name start : List Char)
  | unknown
deriving DecidableEq

/-- A token. The last case stands where no token can be read. -/
inductive Token where
  | directive (value : Directive)
  | documentStart
  | documentEnd
  | blockSequenceStart
  | blockMappingStart
  | blockEnd
  | flowSequenceStart
  | flowSequenceEnd
  | flowMappingStart
  | flowMappingEnd
  | blockEntry
  | flowEntry
  | key
  | value
  | alias (name : List Char)
  | anchor (name : List Char)
  | tag (name : TagName)
  | scalar (text : List CodePoint) (isPlain : Bool)
  | broken (cause : LoadError)
deriving DecidableEq

end BareStrings.Yaml
