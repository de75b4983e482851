import BareStrings.Text.CodePoint
import BareStrings.Text.Numeral
import BareStrings.Unicode.Printable

namespace BareStrings.Text

/-- Apostrophes enclose a text, unless it holds one and no quotation mark. -/
def quoteFor (text : List Char) : Char :=
  if text.contains '\'' && !text.contains '"' then '"' else '\''

/-- One character between the given quotes. -/
def quotedChar (quote c : Char) : List Char :=
  if c = quote ∨ c = '\\' then ['\\', c]
  else if c = '\t' then ['\\', 't']
  else if c = '\n' then ['\\', 'n']
  else if c = '\r' then ['\\', 'r']
  else if Unicode.isPrintable c.toNat then [c]
  else if c.toNat < 0x100 then '\\' :: 'x' :: hexadecimal 2 c.toNat
  else if c.toNat < 0x10000 then '\\' :: 'u' :: hexadecimal 4 c.toNat
  else '\\' :: 'U' :: hexadecimal 8 c.toNat

/-- A text in quotes. -/
def quoted (text : List Char) : List Char :=
  let quote := quoteFor text
  quote :: text.flatMap (quotedChar quote) ++ [quote]

/-- One code point between the given quotes. A surrogate has no visible form. -/
def quotedCode (quote : Char) (code : CodePoint) : List Char :=
  match code.toChar? with
  | some c => quotedChar quote c
  | none => '\\' :: 'u' :: hexadecimal 4 code.val

/-- Code points in quotes. -/
def quotedCodes (codes : List CodePoint) : List Char :=
  let quote := quoteFor (codes.filterMap CodePoint.toChar?)
  quote :: codes.flatMap (quotedCode quote) ++ [quote]

/-- Code points as they are printed. A surrogate cannot be, and its number stands for it. -/
def printed (codes : List CodePoint) : String :=
  String.ofList (codes.flatMap fun code =>
    match code.toChar? with
    | some c => [c]
    | none => '\\' :: 'u' :: hexadecimal 4 code.val)

/-- One byte between the given quotes. Those beyond ASCII have no visible form. -/
def quotedByte (quote : Char) (byte : UInt8) : List Char :=
  if byte < 0x80 then quotedChar quote (Char.ofNat byte.toNat)
  else '\\' :: 'x' :: hexadecimal 2 byte.toNat

/-- Bytes in quotes, behind the sign of bytes. -/
def quotedBytes (bytes : List UInt8) : List Char :=
  let quote := quoteFor (bytes.map fun byte => Char.ofNat byte.toNat)
  'b' :: quote :: bytes.flatMap (quotedByte quote) ++ [quote]

end BareStrings.Text
