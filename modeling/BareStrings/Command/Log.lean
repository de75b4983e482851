import BareStrings.Text.Order

namespace BareStrings.Command

open BareStrings.Text

/-- Something that a run tells. -/
inductive LogEntry where
  | noOptions (file : List Char)
  | skipped (file : List Char)
  | linting (file : List Char)
  | resolved (tag : List Char) (attributes : List (List CodePoint))
  | counted (file : List Char) (count : Nat)
  | nothingFound

/-- A log entry as a line. -/
def LogEntry.line : LogEntry → List Char
  | .noOptions file =>
    "DEBUG i18nlint.config: No options found at ".toList ++ file ++ ", using defaults\n".toList
  | .skipped file =>
    "DEBUG i18nlint.cli: Skipping ".toList ++ file ++ ": no <template> block\n".toList
  | .linting file => "DEBUG i18nlint.cli: Linting ".toList ++ file ++ ['\n']
  | .resolved tag attributes =>
    "DEBUG i18nlint.rules.no_bare_strings: Resolved target attributes for <".toList ++ tag ++
      ">: ".toList ++ quotedList (sortedCodes attributes) ++ ['\n']
  | .counted file count =>
    "DEBUG i18nlint.rules.no_bare_strings: ".toList ++ file ++ ": ".toList ++ decimal count ++
      " bare string(s)\n".toList
  | .nothingFound => "INFO i18nlint.cli: No template files found\n".toList

end BareStrings.Command
