import BareStrings.Text.CodePoint

namespace BareStrings.Text.Base64

/-- The six bits that a character stands for. -/
def sextet? (c : Char) : Option Nat :=
  if 'A' ≤ c ∧ c ≤ 'Z' then some (c.toNat - 'A'.toNat)
  else if 'a' ≤ c ∧ c ≤ 'z' then some (c.toNat - 'a'.toNat + 26)
  else if '0' ≤ c ∧ c ≤ '9' then some (c.toNat - '0'.toNat + 52)
  else if c = '+' then some 62
  else if c = '/' then some 63
  else none

/-- Reads on with `pending` bits left over, which are the lowest ones of `low`, behind `pads` signs
of padding since the last of them. Two bits less are pending with each character of a group of four,
so the padding that completes the group is known from them. Bits that are still pending at the end
are an error. -/
def decodeFrom? (pending low pads : Nat) : List Char → Option (List UInt8)
  | [] => if pending = 0 then some [] else none
  | '=' :: rest =>
    if pending = 4 ∧ pads = 1 ∨ pending = 2 then some []
    else decodeFrom? pending low (if pending = 4 then pads + 1 else pads) rest
  | c :: rest =>
    match sextet? c with
    | none => decodeFrom? pending low pads rest
    | some bits =>
      let value := low * 64 + bits
      match pending with
      | 0 => decodeFrom? 6 bits 0 rest
      | 6 => (decodeFrom? 4 (value % 16) 0 rest).map (UInt8.ofNat (value / 16) :: ·)
      | 4 => (decodeFrom? 2 (value % 4) 0 rest).map (UInt8.ofNat (value / 4) :: ·)
      | _ => (decodeFrom? 0 0 0 rest).map (UInt8.ofNat value :: ·)

/-- The bytes that a text stands for. A group of four that is neither full nor padded is refused. -/
def decode? (text : List Char) : Option (List UInt8) := decodeFrom? 0 0 0 text

end BareStrings.Text.Base64
