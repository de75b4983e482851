import BareStrings.Text.Quoted
import BareStrings.Text.Split

namespace BareStrings.Text

/-- Whether a text is before another in the order of code points. -/
def isBefore (a b : List Char) : Bool := a.lex b fun c d => decide (c.toNat < d.toNat)

/-- The different texts of a list of code points in order. -/
def sortedCodes (texts : List (List CodePoint)) : List (List CodePoint) :=
  texts.eraseDups.mergeSort fun a b => !b.lex a

/-- Items in square brackets. -/
def bracketed (items : List (List Char)) : List Char :=
  '[' :: joinWith [',', ' '] items ++ [']']

/-- Quoted texts in square brackets. -/
def quotedList (texts : List (List CodePoint)) : List Char := bracketed (texts.map quotedCodes)

end BareStrings.Text
