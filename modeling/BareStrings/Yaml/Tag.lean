import BareStrings.Yaml.Numeral
import BareStrings.Yaml.Timestamp

namespace BareStrings.Yaml

open BareStrings.Text

/-- The tag of one of the common kinds of data. -/
def kindTag (name : String) : List Char := "tag:yaml.org,2002:".toList ++ name.toList

/-- A word in small letters, with a capital first, or in capitals. -/
def spellings (word : String) : List (List Char) :=
  let small := word.toList
  [small, (small.take 1).map Char.toUpper ++ small.drop 1, small.map Char.toUpper]

/-- The words for truth values. -/
def truthWords : List (String × Bool) :=
  [("yes", true), ("no", false), ("true", true), ("false", false), ("on", true), ("off", false)]

/-- Whether a text is spelled like a truth value. -/
def isTruthForm (text : List Char) : Bool :=
  truthWords.any fun (word, _) => (spellings word).contains text

/-- Whether a text is spelled like the absence of data. -/
def isNullForm (text : List Char) : Bool := text == ['~'] || (spellings "null").contains text

/-- Signs that no plain scalar consists of, and that mean nothing as a scalar of another kind. -/
def isLoneSign (text : List Char) : Bool := text == ['!'] || text == ['&'] || text == ['*']

/-- The tag of the kind that a text without a line end is spelled like. -/
def formTag (text : List Char) : List Char :=
  if isTruthForm text then kindTag "bool"
  else if isFloatForm text then kindTag "float"
  else if isIntegerForm text then kindTag "int"
  else if text = ['<', '<'] then kindTag "merge"
  else if isNullForm text then kindTag "null"
  else if (TimeText.ofText? text).any TimeText.isPlainForm then kindTag "timestamp"
  else if text = ['='] then kindTag "value"
  else if isLoneSign text then kindTag "yaml"
  else kindTag "str"

/-- A text without the line feed at its end. -/
def withoutFinalBreak (text : List Char) : List Char :=
  if text.getLast? = some '\n' then text.dropLast else text

/-- The tag of the kind that a scalar is spelled like. A line feed behind the spelling makes no
difference, and no text at all is the absence of data. -/
def spelledTag (codes : List CodePoint) : List Char :=
  match spelledText? codes with
  | none => kindTag "str"
  | some [] => kindTag "null"
  | some text => formTag (withoutFinalBreak text)

/-- The tag that says nothing. A node with it has the tag of what it is spelled like. -/
def emptyTag : List Char := ['!']

/-- The tag of a scalar with a tag as it is written, if there is one. -/
def scalarTag (written : Option (List Char)) (codes : List CodePoint) (isPlain : Bool) :
    List Char :=
  match written with
  | none => if isPlain then spelledTag codes else kindTag "str"
  | some tag => if tag = emptyTag then spelledTag codes else tag

/-- The tag of a collection with a tag as it is written, if there is one. -/
def collectionTag (written : Option (List Char)) (kind : String) : List Char :=
  (written.filter (· ≠ emptyTag)).getD (kindTag kind)

end BareStrings.Yaml
