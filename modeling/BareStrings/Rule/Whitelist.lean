import BareStrings.Regex.Parse
import BareStrings.Text.Split

namespace BareStrings.Rule

open BareStrings.Text

/-- Finds whitelisted texts: an expression that matches any one of them. -/
structure Whitelist where
  expression : Regex

namespace Whitelist

/-- The source of an expression that matches any of the given texts, the earlier ones first. -/
def source (entries : List (List CodePoint)) : List CodePoint :=
  joinWith [CodePoint.ofChar '|'] (entries.map Regex.escapeText)

/-- The whitelist of the given texts. -/
def ofEntries (entries : List (List CodePoint)) : Except Regex.SyntaxError Whitelist := do
  return ⟨(← Regex.parse {} (source entries)).regex⟩

/-- A text without script blanks at its ends and without whitelisted texts. -/
def strip (whitelist : Whitelist) (text : List CodePoint) : List CodePoint :=
  trimBy isScriptBlank (whitelist.expression.removeAll (trimBy isScriptBlank text))

/-- Whether something is left of a text. -/
def isBare (whitelist : Whitelist) (text : List CodePoint) : Bool :=
  !(whitelist.strip text).isEmpty

end Whitelist

end BareStrings.Rule
