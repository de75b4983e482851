import BareStrings.Markup.Error
import BareStrings.Markup.Node
import BareStrings.Text.Split

namespace BareStrings.Markup

open BareStrings.Text

/-- A piece of text as it stands in the source. -/
inductive Piece where
  | text (raw : List Char)
  | mustache (body : List Char)
deriving DecidableEq

namespace Piece

/-- What opens an interpolation. -/
def opening : List Char := ['\x7b', '\x7b']

/-- What closes an interpolation. -/
def closing : List Char := ['\x7d', '\x7d']

/-- The source of a piece. -/
def raw : Piece → List Char
  | .text raw => raw
  | .mustache body => opening ++ body ++ closing

/-- A text piece, unless there is no text. -/
def ofText (raw : List Char) : List Piece := if raw.isEmpty then [] else [.text raw]

/-- The text before the first interpolation, the inside of that, and what follows it. -/
def cut? (source : List Char) : Option (List Char × List Char × List Char) := do
  let (before, inside) ← cutAt? opening source
  let (body, after) ← cutAt? closing inside
  return (before, body, after)

/-- Cutting loses nothing. -/
theorem cut?_eq_some {source before body after : List Char}
    (h : cut? source = some (before, body, after)) :
    source = before ++ (mustache body).raw ++ after := by
  simp only [cut?, Option.bind_eq_bind, Option.bind_eq_some_iff, Option.pure_def,
    Option.some.injEq, Prod.mk.injEq, Prod.exists] at h
  obtain ⟨_, inside, hopen, _, _, hclose, rfl, rfl, rfl⟩ := h
  rw [cutAt?_eq_some hopen, cutAt?_eq_some hclose]
  simp [raw]

/-- The pieces of a text in order. -/
def ofSource (source : List Char) : List Piece :=
  match hcut : cut? source with
  | none => ofText source
  | some (before, body, after) =>
    have : after.length < source.length := by
      rw [cut?_eq_some hcut]
      simp [raw, opening]
      omega
    ofText before ++ .mustache body :: ofSource after
termination_by source.length

/-- The node of a piece that begins at a place. -/
def toNode (position : Position) : Piece → Except MarkupError Node
  | .text raw => do return .text (← decodeText raw) position
  | .mustache body => do return .interpolation (← readExpression (← decodeText body)) position

/-- The nodes of pieces that follow one another from a place on. -/
def toNodes (position : Position) : List Piece → Except MarkupError (List Node)
  | [] => .ok []
  | piece :: pieces => do
    let node ← piece.toNode position
    let nodes ← toNodes (position.advance piece.raw) pieces
    return node :: nodes

end Piece

/-- The nodes of a text that begins at a place. -/
def textNodes (position : Position) (raw : List Char) : Except MarkupError (List Node) :=
  Piece.toNodes position (Piece.ofSource raw)

end BareStrings.Markup
