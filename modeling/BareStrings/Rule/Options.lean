import BareStrings.Text.CodePoint

namespace BareStrings.Rule

open BareStrings.Text

/-- What the rule leaves alone and where it looks: texts that may stay untranslated, the attributes
to check by tag selectors, and the directives to check. -/
structure Options where
  whitelist : List (List CodePoint)
  attributes : List (List CodePoint × List (List CodePoint))
  directives : List (List CodePoint)
deriving DecidableEq

namespace Options

/-- Punctuation and symbols that need no translation. -/
def defaultWhitelist : List (List CodePoint) :=
  (codePoints ['(', ')', ',', '.', '&', '+', '-', '=', '*', '/', '#', '%', '!', '?', ':', '[', ']', '\x7b',
    '\x7d', '<', '>', '·', '•', '‐', '–', '—', '−', '|']).map fun code => [code]

/-- The attributes that assistive technology and browsers show to users. -/
def defaultAttributes : List (List CodePoint × List (List CodePoint)) :=
  [(wording "/.+/",
      ["title", "aria-label", "aria-placeholder", "aria-roledescription", "aria-valuetext"].map wording),
    (wording "input", [wording "placeholder"]),
    (wording "img", [wording "alt"])]

/-- The directives that set text. -/
def defaultDirectives : List (List CodePoint) := [wording "v-text"]

/-- The options that hold when none are given. -/
def default : Options := ⟨defaultWhitelist, defaultAttributes, defaultDirectives⟩

/-- Enters a value for a key. A key that is there keeps its place and gets the new value. -/
def enter {α : Type} (key : List CodePoint) (value : α) :
    List (List CodePoint × α) → List (List CodePoint × α)
  | [] => [(key, value)]
  | (name, old) :: rest =>
    if name = key then (key, value) :: rest else (name, old) :: enter key value rest

/-- Entries with each key once: where it first occurs, with its last value. -/
def entries {α : Type} (pairs : List (List CodePoint × α)) : List (List CodePoint × α) :=
  pairs.foldl (fun found pair => enter pair.1 pair.2 found) []

end Options

end BareStrings.Rule
