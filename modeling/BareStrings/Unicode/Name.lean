import BareStrings.Text.Numeral
import BareStrings.Text.Split
import BareStrings.Unicode.Name.Aliases
import BareStrings.Unicode.Name.Historic
import BareStrings.Unicode.Name.Letters
import BareStrings.Unicode.Name.Pictures
import BareStrings.Unicode.Name.Symbols
import BareStrings.Unicode.Span

namespace BareStrings.Unicode

open BareStrings.Text

/-- The code point of a name among the entries of a list, of which the next one has the given code
point if it does not tell another. `before` is the name before it, in words. -/
def findName (wanted : List (List Char)) :
    (entries : List (List Char)) → (code : Nat) → (before : List (List Char)) → Option Nat
  | [], _, _ => none
  | [] :: entries, code, before => findName wanted entries code before
  | (mark :: entry) :: entries, code, before =>
    let told := entry.takeWhile (· != ' ')
    let (code, shared, words) :=
      if mark = '@' then
        let rest := (entry.drop told.length).tail
        (ofDigits 16 told, rest.take 1, rest.tail)
      else (code, [mark], entry)
    let name := before.take (ofDigits 10 shared) ++ if words.isEmpty then [] else splitOn ' ' words
    if name = wanted then some code else findName wanted entries (code + 1) name

/-- The code point of a listed name. -/
def listedName? (name : List Char) : Option Nat :=
  let wanted := splitOn ' ' name
  [letterNames, symbolNames, pictureNames, historicNames, aliasNames].findSome? fun lines =>
    findName wanted (lines.flatMap fun line => splitOn ',' line.toList) 0 []

/-- The beginnings of names that go on with the code point, and the code points that have them. -/
def numberedNames : List (String × List (Nat × Nat)) := [
  ("CJK COMPATIBILITY IDEOGRAPH-", [(0xF900, 0xFA6D), (0xFA70, 0xFAD9), (0x2F800, 0x2FA1D)]),
  ("KHITAN SMALL SCRIPT CHARACTER-", [(0x18B00, 0x18CD5)]),
  ("NUSHU CHARACTER-", [(0x1B170, 0x1B2FB)])]

/-- Capital letters of ASCII for small ones. -/
def asciiCapitals (text : List Char) : List Char := text.map Char.toUpper

/-- The code point of a name that ends in it. It is written in capitals without needless zeros. -/
def numberedName? (name : List Char) : Option Nat :=
  numberedNames.findSome? fun (start, spans) => do
    let digits ← start.toList.isPrefixOf? name
    let code := ofDigits 16 digits
    if inSpans spans code && asciiCapitals (hexadecimal 4 code) == digits then some code else none

/-- The unified ideographs. -/
def ideographSpans : List (Nat × Nat) := [
  (0x3400, 0x4DBF), (0x4E00, 0x9FFF), (0x20000, 0x2A6DF), (0x2A700, 0x2B738), (0x2B740, 0x2B81D),
  (0x2B820, 0x2CEA1), (0x2CEB0, 0x2EBE0), (0x30000, 0x3134A)]

/-- The unified ideograph whose code point has these four or five digits. -/
def ideographNumbered? (digits : List Char) : Option Nat :=
  let isDigit (c : Char) : Bool := isHexDigit c && !('a' ≤ c && c ≤ 'f')
  let code := ofDigits 16 digits
  if (digits.length == 4 || digits.length == 5) && digits.all isDigit && inSpans ideographSpans code
  then some code
  else none

/-- The sounds that a Korean syllable begins with. -/
def leadingSounds : List String :=
  ["G", "GG", "N", "D", "DD", "R", "M", "B", "BB", "S", "SS", "", "J", "JJ", "C", "K", "T", "P",
    "H"]

/-- The vowels of a Korean syllable. -/
def vowelSounds : List String :=
  ["A", "AE", "YA", "YAE", "EO", "E", "YEO", "YE", "O", "WA", "WAE", "OE", "YO", "U", "WEO", "WE",
    "WI", "YU", "EU", "YI", "I"]

/-- The sounds that a Korean syllable ends with. -/
def trailingSounds : List String :=
  ["", "G", "GG", "GS", "N", "NJ", "NH", "D", "L", "LG", "LM", "LB", "LS", "LT", "LP", "LH", "M",
    "B", "BS", "S", "SS", "NG", "J", "C", "K", "T", "P", "H"]

/-- The longest of some sounds that a text begins with, by its number, and the rest of the text. -/
def longestSound? (sounds : List String) (text : List Char) : Option (Nat × List Char) :=
  let found := sounds.zipIdx.filterMap fun (sound, index) =>
    (sound.toList.isPrefixOf? text).map fun rest => (index, rest)
  found.foldl (fun best next =>
    match best with
    | some (_, rest) => if next.2.length < rest.length then some next else best
    | none => some next) none

/-- The Korean syllable with these sounds. Each sound is the longest that fits. -/
def syllable? (sounds : List Char) : Option Nat := do
  let (lead, rest) ← longestSound? leadingSounds sounds
  let (vowel, rest) ← longestSound? vowelSounds rest
  let (trail, rest) ← longestSound? trailingSounds rest
  if rest.isEmpty then some (0xAC00 + (lead * 21 + vowel) * 28 + trail) else none

/-- The character with a name. Capitals and small letters are the same, but for ideographs and
Korean syllables. -/
def characterNamed? (name : List Char) : Option Nat :=
  match "HANGUL SYLLABLE ".toList.isPrefixOf? name,
    "CJK UNIFIED IDEOGRAPH-".toList.isPrefixOf? name with
  | some sounds, _ => syllable? sounds
  | none, some digits => ideographNumbered? digits
  | none, none =>
    let name := asciiCapitals name
    (numberedName? name).or (listedName? name)

end BareStrings.Unicode
