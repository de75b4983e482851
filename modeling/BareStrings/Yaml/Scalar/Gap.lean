import BareStrings.Yaml.Character

namespace BareStrings.Yaml

/-- What has been read of a scalar since its last visible character. The last case is a line end
that was escaped: it leaves nothing behind. -/
inductive Gap where
  | none
  | blanks (run : List Char)
  | breaks (first : Char) (more : List Char)
  | joined (more : List Char)
deriving DecidableEq

namespace Gap

/-- The gap with another blank. Blanks around line ends are dropped. -/
def blank (c : Char) : Gap → Gap
  | .none => .blanks [c]
  | .blanks run => .blanks (run ++ [c])
  | gap => gap

/-- The gap with another line end. -/
def lineEnd (c : Char) : Gap → Gap
  | .none | .blanks _ => .breaks (keptBreak c) []
  | .breaks first more => .breaks first (more ++ [keptBreak c])
  | .joined more => .joined (more ++ [keptBreak c])

/-- What a gap between two visible characters stands for. -/
def text : Gap → List Char
  | .none => []
  | .blanks run => run
  | .breaks first more =>
    if first ≠ '\n' then first :: more else if more.isEmpty then [' '] else more
  | .joined more => more

/-- Whether a gap goes over a line end. -/
def crossesLine : Gap → Bool
  | .breaks .. => true
  | _ => false

end Gap

end BareStrings.Yaml
