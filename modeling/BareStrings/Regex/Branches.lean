import BareStrings.Regex.Basic

namespace BareStrings.Regex

open BareStrings.Text

/-- Whether two items are the same form without parts. Forms with parts are never taken for the
same. -/
def sameItem : Regex → Regex → Bool
  | .char a negated rule, .char b negated' rule' => a == b && negated == negated' && rule == rule'
  | .any lineFeeds, .any lineFeeds' => lineFeeds == lineFeeds'
  | .set items negated rule, .set items' negated' rule' =>
    items == items' && negated == negated' && rule == rule'
  | .anchor condition, .anchor condition' => condition == condition'
  | .backref index rule, .backref index' rule' => index == index' && rule == rule'
  | _, _ => false

/-- Whether a branch begins with an item. -/
def beginsWith (item : Regex) (branch : List Regex) : Bool := branch.head?.any (sameItem item)

/-- What a branch and some others begin with alike, and what is left of them. -/
def commonItems (first : List Regex) (others : List (List Regex)) :
    List Regex × List (List Regex) :=
  match first with
  | [] => ([], [] :: others)
  | item :: items =>
    if others.all (beginsWith item) then
      let (common, rests) := commonItems items (others.map List.tail)
      (item :: common, rests)
    else ([], (item :: items) :: others)

/-- The members of the set that a branch of one character is. -/
def setMembers? : List Regex → Option (List SetItem)
  | [.char code false _] => some [.one code]
  | [.set items false _] => some items
  | _ => none

/-- The items of an expression that is read in several branches under a case rule. -/
def joinBranches (rule : CaseRule) : List (List Regex) → List Regex
  | [] => []
  | [branch] => branch
  | first :: others =>
    let (common, rests) := commonItems first others
    match rests.mapM setMembers? with
    | some members => common ++ [.set members.flatten.eraseDups false rule]
    | none => common ++ [firstOf (rests.map sequence)]

end BareStrings.Regex
