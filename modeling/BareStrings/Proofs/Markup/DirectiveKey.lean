import BareStrings.Markup.DirectiveKey
import BareStrings.Proofs.Text.Split
import Mathlib.Data.List.Basic

namespace BareStrings.Markup.DirectiveKey

open BareStrings.Text

/-- The characters that end the name of a directive. -/
def nameEnds : List Char := [':', '.', '[']

/-- What can be the name of a directive. -/
structure IsName (name : List Char) : Prop where
  ne_nil : name ≠ []
  free : ∀ c ∈ name, c ∉ nameEnds

/-- What can be an argument. Dots may stand in brackets only. -/
inductive IsArgument : List Char → Prop where
  | plain {argument : List Char} (hsome : argument ≠ []) (hdots : '.' ∉ argument)
      (hbracket : argument.head? ≠ some '[') : IsArgument argument
  | bracketed {inside : List Char} (hinside : ']' ∉ inside) : IsArgument ('[' :: inside ++ [']'])

/-- What can be a modifier. -/
structure IsModifier (modifier : List Char) : Prop where
  ne_nil : modifier ≠ []
  no_dot : '.' ∉ modifier

/-- A directive that can be spelled out. -/
structure Spellable (key : DirectiveKey) : Prop where
  name : IsName key.name
  argument : ∀ argument ∈ key.argument, IsArgument argument
  modifiers : ∀ modifier ∈ key.modifiers, IsModifier modifier

/-- Modifiers with a dot in front of each. -/
def dotted (modifiers : List (List Char)) : List Char := modifiers.flatMap ('.' :: ·)

/-- The long form of a directive. -/
def spelled (key : DirectiveKey) : List Char :=
  'v' :: '-' :: (key.name ++ (key.argument.elim [] (':' :: ·) ++ dotted key.modifiers))

/-- The signs that stand for a directive, each with the name that it is short for. -/
def shorthands : List (Char × List Char) :=
  [(':', "bind".toList), ('@', "on".toList), ('#', "slot".toList)]

/-- A name that begins like the long form of a directive: where the directive's own name ends, there is an
argument, a modifier or nothing. -/
def IsLong (rawName : List Char) : Prop :=
  ∃ name rest, rawName = 'v' :: '-' :: (name ++ rest) ∧ IsName name ∧ ∀ c ∈ rest.head?, c = ':' ∨ c = '.'

variable {name rawName text argument : List Char} {modifiers : List (List Char)}

private theorem endsName_iff {c : Char} : endsName c = true ↔ c ∈ nameEnds := by
  simp [endsName, nameEnds, or_assoc]

private theorem head?_dotted {c : Char} (hc : c ∈ (dotted modifiers).head?) : c = '.' := by
  cases modifiers with
  | nil => cases hc
  | cons modifier modifiers => exact (Option.some.inj hc).symm

private theorem modifiersOf_dotted (hmodifiers : ∀ modifier ∈ modifiers, IsModifier modifier) :
    modifiersOf (dotted modifiers) = modifiers := by
  have hsplit : splitOn '.' ([] ++ dotted modifiers) = [] :: modifiers :=
    splitOn_flatMap List.not_mem_nil fun modifier hmodifier => (hmodifiers modifier hmodifier).no_dot
  have hkept : ∀ modifier ∈ modifiers, (!modifier.isEmpty) = true := by
    intro modifier hmodifier
    simpa using (hmodifiers modifier hmodifier).ne_nil
  rw [List.nil_append] at hsplit
  rw [modifiersOf, hsplit, List.filter_cons_of_neg (by simp), List.filter_eq_self.2 hkept]

private theorem bracketed?_of_head (hhead : text.head? ≠ some '[') : bracketed? text = none := by
  unfold bracketed?
  split
  · exact absurd rfl hhead
  · rfl

/-- An argument in square brackets is taken whole, up to the end or the first modifier. -/
private theorem bracketed?_append {inside rest : List Char} (hinside : ']' ∉ inside)
    (hrest : ∀ c ∈ rest.head?, c = '.') :
    bracketed? ('[' :: inside ++ [']'] ++ rest) = some ('[' :: inside ++ [']'], rest) := by
  have hopen : ∀ c ∈ inside, (c != ']') = true := by
    intro c hc
    simpa using ne_of_mem_of_not_mem hc hinside
  have hends : rest.head?.all (· == '.') = true := by
    simpa [Option.all_eq_true] using hrest
  obtain ⟨htake, hdrop⟩ := takeWhile_append_of_head hopen (']' :: rest) (by simp)
  have htext : '[' :: inside ++ [']'] ++ rest = '[' :: (inside ++ ']' :: rest) := by simp
  rw [htext, bracketed?, hdrop, htake]
  exact if_pos hends

/-- An argument ends where the modifiers begin. -/
theorem splitArgument_append (hargument : IsArgument argument) {rest : List Char}
    (hrest : ∀ c ∈ rest.head?, c = '.') : splitArgument (argument ++ rest) = (argument, rest) := by
  cases hargument with
  | plain hsome hdots hbracket =>
    have hinside : ∀ c ∈ argument, (c != '.') = true := by
      intro c hc
      simpa using ne_of_mem_of_not_mem hc hdots
    have hhead : (argument ++ rest).head? ≠ some '[' := by
      rwa [List.head?_append_of_ne_nil _ hsome]
    obtain ⟨htake, hdrop⟩ := takeWhile_append_of_head hinside rest (by simpa using hrest)
    rw [splitArgument, bracketed?_of_head hhead, Option.getD_none, htake, hdrop]
  | bracketed hinside =>
    rw [splitArgument, bracketed?_append hinside hrest, Option.getD_some]

private theorem ofArgument_append (hargument : IsArgument argument)
    (hmodifiers : ∀ modifier ∈ modifiers, IsModifier modifier) :
    ofArgument name rawName (argument ++ dotted modifiers) = ⟨name, some argument, modifiers, rawName⟩ := by
  have hsome : argument.isEmpty = false := by
    cases hargument with
    | plain hsome _ _ => simpa using hsome
    | bracketed _ => rfl
  rw [ofArgument, splitArgument_append hargument fun c hc => head?_dotted hc]
  simp [hsome, modifiersOf_dotted hmodifiers]

private theorem IsName.cut (hname : IsName name) (rest : List Char) (hrest : ∀ c ∈ rest.head?, c ∈ nameEnds) :
    ((name ++ rest).takeWhile fun c => !endsName c) = name ∧
      ((name ++ rest).dropWhile fun c => !endsName c) = rest := by
  apply takeWhile_append_of_head
  · intro c hc
    simpa [← endsName_iff] using hname.free c hc
  · intro c hc
    simpa [← endsName_iff] using hrest c hc

private theorem IsName.ofLong?_argument (hname : IsName name) (rawName rest : List Char) :
    ofLong? rawName (name ++ ':' :: rest) = some (ofArgument name rawName rest) := by
  obtain ⟨htake, hdrop⟩ := hname.cut (':' :: rest) (by simp [nameEnds])
  rw [ofLong?, htake, hdrop]
  exact if_neg (by simpa using hname.ne_nil)

/-- A name with modifiers behind it is a directive without an argument. -/
private theorem IsName.ofLong?_modifiers (hname : IsName name) (rawName : List Char) {rest : List Char}
    (hrest : ∀ c ∈ rest.head?, c = '.') :
    ofLong? rawName (name ++ rest) = some ⟨name, none, modifiersOf rest, rawName⟩ := by
  have hends : ∀ c ∈ rest.head?, c ∈ nameEnds := by
    intro c hc
    simp [nameEnds, hrest c hc]
  obtain ⟨htake, hdrop⟩ := hname.cut rest hends
  rw [ofLong?, htake, hdrop, if_neg (by simpa using hname.ne_nil)]
  cases rest with
  | nil => rfl
  | cons c rest =>
    obtain rfl := hrest c rfl
    rfl

/-- The long form is refused only if there is no name in it or the name ends at a bracket. -/
theorem ofLong?_eq_none_iff : ofLong? rawName text = none ↔
    ¬∃ name rest, text = name ++ rest ∧ IsName name ∧ ∀ c ∈ rest.head?, c = ':' ∨ c = '.' := by
  constructor
  · rintro hnone ⟨name, rest, rfl, hname, hrest⟩
    by_cases hcolon : rest.head? = some ':'
    · obtain ⟨rest, rfl⟩ := List.head?_eq_some_iff.1 hcolon
      rw [hname.ofLong?_argument] at hnone
      cases hnone
    · have hdot : ∀ c ∈ rest.head?, c = '.' := by
        intro c hc
        refine (hrest c hc).resolve_left ?_
        rintro rfl
        exact hcolon hc
      rw [hname.ofLong?_modifiers _ hdot] at hnone
      cases hnone
  · intro hlong
    have htext := List.takeWhile_append_dropWhile (p := fun c => !endsName c) (l := text)
    by_cases hempty : (text.takeWhile fun c => !endsName c) = []
    · simp [ofLong?, hempty]
    have hname : IsName (text.takeWhile fun c => !endsName c) := by
      refine ⟨hempty, fun c hc => ?_⟩
      simpa [← endsName_iff] using List.mem_takeWhile_imp hc
    cases hrest : text.dropWhile fun c => !endsName c with
    | nil => exact absurd ⟨_, _, htext.symm, hname, by simp [hrest]⟩ hlong
    | cons c rest =>
      have hends : c ∈ nameEnds := by
        have hstop := List.head?_dropWhile_not (fun c => !endsName c) text
        rw [hrest] at hstop
        simpa [← endsName_iff] using hstop
      have hbracket : c = '[' := by
        by_contra hother
        refine hlong ⟨_, _, htext.symm, hname, ?_⟩
        simpa [hrest, nameEnds, hother] using hends
      subst hbracket
      simp [ofLong?, hempty, hrest]

/-- A key that can be spelled is read back from its spelling. -/
private theorem parse?_spelled {key : DirectiveKey} (hkey : key.Spellable) :
    parse? key.spelled = some { key with rawName := key.spelled } := by
  obtain ⟨name, argument, modifiers, rawName⟩ := key
  obtain ⟨hname, hargument, hmodifiers⟩ := hkey
  cases argument with
  | none =>
    have hdot : ∀ c ∈ (dotted modifiers).head?, c = '.' := fun c hc => head?_dotted hc
    have hread := hname.ofLong?_modifiers (spelled ⟨name, none, modifiers, rawName⟩) hdot
    rw [modifiersOf_dotted hmodifiers] at hread
    exact hread
  | some argument =>
    have hread := hname.ofLong?_argument (spelled ⟨name, some argument, modifiers, rawName⟩)
      (argument ++ dotted modifiers)
    rw [ofArgument_append (hargument argument rfl) hmodifiers] at hread
    exact hread

private theorem isName_of_mem_shorthands {entry : Char × List Char} (hentry : entry ∈ shorthands) :
    IsName entry.2 := by
  have hall : ∀ entry ∈ shorthands, entry.2 ≠ [] ∧ entry.2.any endsName = false := by
    decide
  obtain ⟨hsome, hfree⟩ := hall entry hentry
  exact ⟨hsome, fun c hc hends => List.any_eq_false.1 hfree c hc (endsName_iff.2 hends)⟩

private theorem parse?_sign {entry : Char × List Char} (hentry : entry ∈ shorthands) (rest : List Char) :
    parse? (entry.1 :: rest) = some (ofArgument entry.2 (entry.1 :: rest) rest) := by
  simp only [shorthands, List.mem_cons, List.not_mem_nil, or_false] at hentry
  rcases hentry with rfl | rfl | rfl <;> rfl

/-- A shorthand is read like the directive that it is short for, whatever follows. -/
theorem parse?_shorthand {entry : Char × List Char} (hentry : entry ∈ shorthands) (rest : List Char) :
    ∃ key : DirectiveKey, key.name = entry.2 ∧
      parse? (entry.1 :: rest) = some { key with rawName := entry.1 :: rest } ∧
      parse? ('v' :: '-' :: (entry.2 ++ ':' :: rest)) =
        some { key with rawName := 'v' :: '-' :: (entry.2 ++ ':' :: rest) } :=
  ⟨ofArgument entry.2 (entry.1 :: rest) rest, rfl, parse?_sign hentry rest,
    (isName_of_mem_shorthands hentry).ofLong?_argument _ rest⟩

/-- A name is no directive exactly if it begins with no shorthand and is not spelled as a long form. -/
private theorem parse?_eq_none_iff :
    parse? rawName = none ↔ (∀ entry ∈ shorthands, rawName.head? ≠ some entry.1) ∧ ¬IsLong rawName := by
  by_cases hsign : ∃ entry ∈ shorthands, rawName.head? = some entry.1
  · obtain ⟨entry, hentry, hhead⟩ := hsign
    obtain ⟨rest, rfl⟩ := List.head?_eq_some_iff.1 hhead
    rw [parse?_sign hentry]
    refine iff_of_false (Option.some_ne_none _) ?_
    exact fun hother => hother.1 entry hentry hhead
  have hother : ∀ entry ∈ shorthands, rawName.head? ≠ some entry.1 :=
    fun entry hentry hhead => hsign ⟨entry, hentry, hhead⟩
  rw [and_iff_right hother]
  by_cases hfront : ∃ text, rawName = 'v' :: '-' :: text
  · obtain ⟨text, rfl⟩ := hfront
    rw [parse?, ofLong?_eq_none_iff, IsLong]
    simp
  · have hlong : ¬IsLong rawName := by
      rintro ⟨name, rest, rfl, _, _⟩
      exact hfront ⟨_, rfl⟩
    refine iff_of_true ?_ hlong
    unfold parse?
    split
    · exact absurd ⟨_, rfl⟩ hfront
    · exact absurd rfl (hother (':', _) List.mem_cons_self)
    · exact absurd rfl (hother ('@', _) (List.mem_cons_of_mem _ List.mem_cons_self))
    · exact absurd rfl (hother ('#', _) (List.mem_cons_of_mem _ (List.mem_cons_of_mem _ List.mem_cons_self)))
    · rfl

/-- A directive that is spelled out is read back. The three signs are read like the directives that they are
short for, with the same argument and modifiers. No other names are those of directives. -/
theorem parse?_spellings :
    (∀ key : DirectiveKey, key.Spellable → parse? key.spelled = some { key with rawName := key.spelled }) ∧
    (∀ entry ∈ shorthands, ∀ rest, ∃ key : DirectiveKey, key.name = entry.2 ∧
      parse? (entry.1 :: rest) = some { key with rawName := entry.1 :: rest } ∧
      parse? ('v' :: '-' :: (entry.2 ++ ':' :: rest)) =
        some { key with rawName := 'v' :: '-' :: (entry.2 ++ ':' :: rest) }) ∧
    ∀ rawName, parse? rawName = none ↔
      (∀ entry ∈ shorthands, rawName.head? ≠ some entry.1) ∧ ¬IsLong rawName := by
  refine ⟨?_, ?_, ?_⟩
  · intro key hkey
    exact parse?_spelled hkey
  · intro entry hentry rest
    exact parse?_shorthand hentry rest
  · intro rawName
    exact parse?_eq_none_iff

/-- A bracketed argument with dots and a colon, and two modifiers; and a bracket that does not end an
argument, which is divided at the dot in it. -/
theorem parse?_spellings_brackets :
    let key : DirectiveKey :=
      ⟨"on".toList, some "[a.b:c]".toList, ["stop".toList, "once".toList], "v-on:[a.b:c].stop.once".toList⟩
    let rest := "[a.b]c".toList
    (key.Spellable ∧ key.spelled = key.rawName ∧ parse? key.rawName = some key) ∧
    ((':', "bind".toList) ∈ shorthands ∧ ∃ key : DirectiveKey, key.name = "bind".toList ∧
      parse? (':' :: rest) = some { key with rawName := ':' :: rest } ∧
      parse? ("v-bind:".toList ++ rest) = some { key with rawName := "v-bind:".toList ++ rest }) ∧
    (parse? "v-on[a]".toList = none ↔
      (∀ entry ∈ shorthands, "v-on[a]".toList.head? ≠ some entry.1) ∧ ¬IsLong "v-on[a]".toList) := by
  intro key rest
  obtain ⟨hspelled, hshort, hnone⟩ := parse?_spellings
  have hkey : key.Spellable := by
    have hargument : IsArgument "[a.b:c]".toList := @IsArgument.bracketed "a.b:c".toList (by decide)
    have hname : ('@', key.name) ∈ shorthands := by decide
    refine ⟨isName_of_mem_shorthands hname, ?_, ?_⟩
    · rintro argument hmem
      obtain rfl := Option.some.inj hmem
      exact hargument
    · rintro modifier hmem
      have hall : ∀ modifier ∈ key.modifiers, modifier ≠ [] ∧ '.' ∉ modifier := by decide
      obtain ⟨hsome, hdot⟩ := hall modifier hmem
      exact ⟨hsome, hdot⟩
  have hbind : (':', "bind".toList) ∈ shorthands := by decide
  exact ⟨⟨hkey, rfl, hspelled key hkey⟩, ⟨hbind, hshort _ hbind rest⟩, hnone _⟩

end BareStrings.Markup.DirectiveKey
