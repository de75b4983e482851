import BareStrings.Files.Templates
import BareStrings.Proofs.Text.Split
import Mathlib.Data.Char
import Mathlib.Data.List.Forall2
import Mathlib.Data.List.Lex
import Mathlib.Data.List.Sort
import Mathlib.Data.List.TakeWhile

namespace BareStrings

namespace Text

private theorem isBefore_iff {a b : List Char} : isBefore a b = true ↔ a < b := by
  have horder : (fun c d : Char => decide (c.toNat < d.toNat) = true) = (· < ·) := by
    funext c d
    rw [decide_eq_true_eq]
    rfl
  rw [isBefore, List.lex_eq_true_iff_lex, horder]
  rfl

private theorem lex_isBefore_iff {a b : List (List Char)} : a.lex b isBefore = true ↔ a < b := by
  rw [List.lex_eq_true_iff_lex]
  simp only [isBefore_iff]
  rfl

private theorem nodup_eraseDups {α : Type} [BEq α] [LawfulBEq α] : ∀ items : List α, items.eraseDups.Nodup
  | [] => List.nodup_nil
  | item :: items => by
    rw [List.eraseDups_cons, List.nodup_cons]
    exact ⟨by simp, nodup_eraseDups (items.filter fun other => !other == item)⟩
termination_by items => items.length
decreasing_by exact Nat.lt_succ_of_le (List.length_filter_le _ _)

end Text

namespace Files

open BareStrings.Text

/-- The path that the first components of a path make. -/
def Path.upTo (path : Path) (before : List Name) : Path := { path with components := before }

private theorem byteCount_append (front rest : List Char) :
    byteCount (front ++ rest) = byteCount front + byteCount rest := by
  simp [byteCount]

/-- The text of a path up to some component stands at the front of that of the path. -/
private theorem Path.text_upTo {path : Path} {before after : List Name}
    (hsplit : path.components = before ++ after) :
    (path.upTo before).text = ['.'] ∨ (path.upTo before).text <+: path.text := by
  by_cases hempty : path.root.isEmpty && before.isEmpty
  · exact .inl (if_pos hempty)
  · have hbefore : (path.upTo before).text = path.root ++ joinWith ['/'] before := if_neg hempty
    have hpath : path.text = path.root ++ joinWith ['/'] path.components := by
      refine if_neg fun hnone => hempty ?_
      simp only [hsplit, Bool.and_eq_true, List.isEmpty_iff, List.append_eq_nil_iff] at hnone ⊢
      exact ⟨hnone.1, hnone.2.1⟩
    rw [hbefore, hpath, hsplit]
    exact .inr ((List.prefix_append_right_inj _).2 (joinWith_prefix_append _ _ _))

private theorem Path.upTo_isShort {path : Path} {before after : List Name}
    (hsplit : path.components = before ++ after)
    (hshort : byteCount path.text ≤ pathLimit) : byteCount (path.upTo before).text ≤ pathLimit := by
  obtain hdot | ⟨more, hmore⟩ := Path.text_upTo hsplit
  · rw [hdot]
    decide
  · rw [← hmore, byteCount_append] at hshort
    omega

private theorem Path.upTo_isPlain {path : Path} {before after : List Name}
    (hsplit : path.components = before ++ after)
    (hplain : '\x00' ∉ path.text) : '\x00' ∉ (path.upTo before).text := by
  obtain hdot | hbegins := Path.text_upTo hsplit
  · rw [hdot]
    decide
  · exact fun hnull => hplain (hbegins.subset hnull)

namespace FileTree

variable {tree : FileTree} {suffixes : List (List Char)} {root : Path} {location relative : Location}

/-- Where a path without a root begins. -/
def startOf (tree : FileTree) (path : Path) : Location := if path.root.isEmpty then tree.workingDirectory else []

private theorem locate_eq_walk (hplain : '\x00' ∉ root.text) (hshort : byteCount root.text ≤ pathLimit) :
    tree.locate root = tree.walk root.text (tree.startOf root) root.components := by
  rw [locate, if_neg (by simpa using hplain), if_neg (by simpa [Path.isTooLong] using hshort), startOf]

/-- The text of a path is there for the errors only. -/
theorem walk_eq_ok_congr {text other : List Char} {here : Location} {names : List Name} :
    tree.walk text here names = .ok location ↔ tree.walk other here names = .ok location := by
  induction names generalizing here with
  | nil => rfl
  | cons name names ih =>
    rw [walk, walk]
    split
    · simp
    · simp
    · split
      · simp
      · exact ih

/-- A walk over components comes to a directory where the next of them is too long to be looked up. -/
def StopsAtLongName (tree : FileTree) (text : List Char) (here : Location) (names : List Name) : Prop :=
  ∃ before name after location, names = before ++ name :: after ∧ tree.walk text here before = .ok location ∧
    tree.entryAt? location = some .directory ∧ nameLimit < byteCount name

/-- Behind a name that is short enough, a walk stops at a long one exactly if it does from where that name
leads. -/
private theorem stopsAtLongName_cons_iff {text : List Char} {here : Location} {name : Name}
    {names : List Name}
    (hentry : tree.entryAt? here = some .directory) (hshort : ¬nameLimit < byteCount name) :
    tree.StopsAtLongName text here (name :: names) ↔
      tree.StopsAtLongName text (if name = up then here.dropLast else here ++ [name]) names := by
  constructor
  · rintro ⟨before, long, after, location, hsplit, hwalk, hstop, hlong⟩
    obtain ⟨rfl, hnames⟩ | ⟨others, rfl, hnames⟩ := List.cons_eq_append_iff.1 hsplit
    · obtain ⟨rfl, -⟩ := List.cons_eq_cons.1 hnames
      exact absurd hlong hshort
    · rw [walk, hentry] at hwalk
      simp only [if_neg hshort] at hwalk
      exact ⟨others, long, after, location, hnames, hwalk, hstop, hlong⟩
  · rintro ⟨before, long, after, location, rfl, hwalk, hstop, hlong⟩
    refine ⟨name :: before, long, after, location, rfl, ?_, hstop, hlong⟩
    rw [walk, hentry]
    simpa only [if_neg hshort] using hwalk

/-- A walk that leaves the directories stops at no long name. -/
private theorem not_stopsAtLongName {text : List Char} {here : Location}
    (hentry : tree.entryAt? here ≠ some .directory)
    (names : List Name) : ¬tree.StopsAtLongName text here names := by
  rintro ⟨before, name, after, location, rfl, hwalk, hstop, -⟩
  cases before with
  | nil =>
    cases hwalk
    exact hentry hstop
  | cons other before =>
    rw [walk] at hwalk
    split at hwalk
    · cases hwalk
    · cases hwalk
    · exact hentry ‹_›

/-- Whatever keeps a walk from its end, it is a name that is too long only if a directory was reached with
it. -/
theorem walk_eq_nameTooLong_iff {path text : List Char} {here : Location} {names : List Name} :
    tree.walk path here names = .error (.nameTooLong text) ↔
      text = path ∧ tree.StopsAtLongName path here names := by
  fun_induction walk tree path here names with
  | case1 here =>
    refine iff_of_false (by simp) fun ⟨_, before, name, after, _, hsplit, _⟩ => ?_
    exact List.append_ne_nil_of_right_ne_nil before (List.cons_ne_nil name after) hsplit.symm
  | case2 here name names hentry =>
    exact iff_of_false (by simp) fun h => not_stopsAtLongName (by simp [hentry]) _ h.2
  | case3 here name names content hentry =>
    exact iff_of_false (by simp) fun h => not_stopsAtLongName (by simp [hentry]) _ h.2
  | case4 here name names hentry hlong =>
    simp only [Except.error.injEq, FileError.nameTooLong.injEq]
    exact ⟨fun hsame => ⟨hsame.symm, [], name, names, here, rfl, rfl, hentry, hlong⟩, fun h => h.1.symm⟩
  | case5 here name names hentry hshort ih => rw [ih, stopsAtLongName_cons_iff hentry hshort]

/-- A name of a path is too long, and the directory where it is looked up is there. -/
def LooksUpLongName (tree : FileTree) (path : Path) : Prop :=
  ∃ before name after location, path.components = before ++ name :: after ∧
    tree.find (path.upTo before) = .ok (some (location, .directory)) ∧ nameLimit < byteCount name

/-- Something is found at a root exactly where the walk along its components ends. -/
private theorem find_eq_ok_iff {entry : Entry} (hplain : '\x00' ∉ root.text)
    (hshort : byteCount root.text ≤ pathLimit) : tree.find root = .ok (some (location, entry)) ↔
      tree.walk root.text (tree.startOf root) root.components = .ok location ∧
        tree.entryAt? location = some entry := by
  rw [find, locate_eq_walk hplain hshort]
  split
  · simp [*]
  · simp [*]
  · rename_i found hwalk
    simp only [hwalk, Except.ok.injEq, Option.map_eq_some_iff, Prod.mk.injEq]
    constructor
    · rintro ⟨other, hentry, rfl, rfl⟩
      exact ⟨rfl, hentry⟩
    · rintro ⟨rfl, hentry⟩
      exact ⟨entry, hentry, rfl, rfl⟩

/-- The walk stops at a long name exactly if it looks one up in a directory. -/
private theorem stopsAtLongName_iff (hplain : '\x00' ∉ root.text) (hshort : byteCount root.text ≤ pathLimit) :
    tree.StopsAtLongName root.text (tree.startOf root) root.components ↔ tree.LooksUpLongName root := by
  have hfind {before after : List Name} (hsplit : root.components = before ++ after) (location : Location) :
      tree.find (root.upTo before) = .ok (some (location, .directory)) ↔
        tree.walk root.text (tree.startOf root) before = .ok location ∧
          tree.entryAt? location = some .directory := by
    rw [find_eq_ok_iff (Path.upTo_isPlain hsplit hplain) (Path.upTo_isShort hsplit hshort)]
    exact and_congr_left' walk_eq_ok_congr
  constructor
  · rintro ⟨before, name, after, location, hsplit, hwalk, hstop, hlong⟩
    exact ⟨before, name, after, location, hsplit, (hfind hsplit location).2 ⟨hwalk, hstop⟩, hlong⟩
  · rintro ⟨before, name, after, location, hsplit, hreach, hlong⟩
    obtain ⟨hwalk, hstop⟩ := (hfind hsplit location).1 hreach
    exact ⟨before, name, after, location, hsplit, hwalk, hstop, hlong⟩

/-- Looking for a path fails only because of its limits: its text is too long, or a name of it is where it is
looked up. A path with a null character is never there. -/
theorem find_eq_error_iff {cause : FileError} :
    tree.find root = .error cause ↔ cause = .nameTooLong root.text ∧ '\x00' ∉ root.text ∧
      (pathLimit < byteCount root.text ∨ tree.LooksUpLongName root) := by
  by_cases hplain : '\x00' ∈ root.text
  · simp [find, locate, hplain]
  · by_cases hlong : pathLimit < byteCount root.text
    · simp [find, locate, hplain, hlong, Path.isTooLong, eq_comm]
    · rw [find, locate_eq_walk hplain (Nat.le_of_not_lt hlong),
        ← stopsAtLongName_iff hplain (Nat.le_of_not_lt hlong)]
      have hstop : tree.StopsAtLongName root.text (tree.startOf root) root.components ↔
          tree.walk root.text (tree.startOf root) root.components = .error (.nameTooLong root.text) := by
        rw [walk_eq_nameTooLong_iff, eq_self, true_and]
      rw [hstop]
      split
      · rename_i path hwalk
        obtain ⟨rfl, -⟩ := walk_eq_nameTooLong_iff.1 hwalk
        simp [hwalk, hplain, eq_comm]
      · rename_i other hother hwalk
        exact iff_of_false (by simp) fun h => h.2.2.elim hlong fun hlooked =>
          hother _ (Except.error.inj (hwalk.symm.trans hlooked))
      · rename_i found hwalk
        exact iff_of_false (by simp) fun h => h.2.2.elim hlong fun hlooked => nomatch hwalk.symm.trans hlooked

/-- What is found stands at the location that the path leads to. -/
theorem locate_of_find {entry : Entry} (hfind : tree.find root = .ok (some (location, entry))) :
    tree.locate root = .ok location ∧ tree.entryAt? location = some entry := by
  unfold find at hfind
  split at hfind
  · cases hfind
  · cases hfind
  · rename_i found hlocate
    obtain ⟨other, hentry, hsame⟩ := Option.map_eq_some_iff.1 (Except.ok.inj hfind)
    cases hsame
    exact ⟨hlocate, hentry⟩

private theorem isShort_of_find {entry : Entry} (hfind : tree.find root = .ok (some (location, entry))) :
    byteCount root.text ≤ pathLimit := by
  have hlocate := (locate_of_find hfind).1
  unfold locate at hlocate
  split at hlocate
  · cases hlocate
  · split at hlocate
    · cases hlocate
    · rename_i hshort
      simpa [Path.isTooLong] using hshort

private theorem mem_below_of_entryAt? {entry : Entry}
    (hentry : tree.entryAt? (location ++ relative) = some entry)
    (hne : relative ≠ []) : relative ∈ tree.below location := by
  have hlookup : tree.entries.lookup (location ++ relative) = some entry := by
    rw [entryAt?] at hentry
    · exact hentry
    · exact fun hnil => hne (List.append_eq_nil_iff.1 hnil).2
  obtain ⟨before, after, hsplit, _⟩ := List.lookup_eq_some_iff.1 hlookup
  refine List.mem_filterMap.2 ⟨(location ++ relative, entry), by simp [hsplit], ?_⟩
  rw [isPrefixOf?_append, Option.filter_some, if_pos (by simpa using hne)]

/-- A template of a directory: a file at any depth with one of the endings, and with nothing on the way to it
that is skipped. -/
def IsTemplate (tree : FileTree) (suffixes : List (List Char)) (root : Path) (location relative : Location) :
    Prop :=
  (∃ content, tree.entryAt? (location ++ relative) = some (.file content)) ∧
    (∀ name ∈ relative, name ∉ skippedNames) ∧ (root.below relative).suffix ∈ suffixes

private theorem suffix_below (hne : relative ≠ []) :
    (root.below relative).suffix = Path.suffixOf (relative.getLast?.getD []) := by
  rw [Path.suffix, Path.below, List.getLast?_append_of_ne_nil _ hne]

private theorem ne_nil_of_mem_below (hmem : relative ∈ tree.below location) : relative ≠ [] := by
  obtain ⟨entry, _, hentry⟩ := List.mem_filterMap.1 hmem
  obtain ⟨_, hne⟩ := Option.filter_eq_some_iff.1 hentry
  simpa using hne

/-- What is collected below a root are its templates. -/
private theorem mem_templatesBelow_iff (hfind : tree.find root = .ok (some (location, .directory))) :
    relative ∈ tree.templatesBelow suffixes location ↔ tree.IsTemplate suffixes root location relative := by
  have hfile : ((tree.entryAt? (location ++ relative)).any fun entry => !entry.isDirectory) = true ↔
      ∃ content, tree.entryAt? (location ++ relative) = some (.file content) := by
    cases tree.entryAt? (location ++ relative) with
    | none => simp
    | some entry => cases entry <;> simp [Entry.isDirectory]
  rw [templatesBelow, List.mem_mergeSort, List.mem_eraseDups, List.mem_filter, isTemplateBelow,
    Bool.and_eq_true, Bool.and_eq_true, hfile]
  simp only [List.all_eq_true, List.contains_eq_mem, Bool.not_eq_true', decide_eq_false_iff_not,
    decide_eq_true_eq]
  constructor
  · rintro ⟨hbelow, ⟨hkept, hsuffix⟩, hcontent⟩
    exact ⟨hcontent, hkept, suffix_below (ne_nil_of_mem_below hbelow) ▸ hsuffix⟩
  · rintro ⟨⟨content, hcontent⟩, hkept, hsuffix⟩
    have hne : relative ≠ [] := by
      rintro rfl
      rw [List.append_nil, (locate_of_find hfind).2] at hcontent
      cases hcontent
    rw [suffix_below hne] at hsuffix
    exact ⟨mem_below_of_entryAt? hcontent hne, ⟨hkept, hsuffix⟩, content, hcontent⟩

/-- The templates below a root come in order, each of them once. -/
private theorem pairwise_templatesBelow (tree : FileTree) (suffixes : List (List Char))
    (location : Location) : (tree.templatesBelow suffixes location).Pairwise (· < ·) := by
  have horder (a b : Location) : (!b.lex a isBefore) = true ↔ a ≤ b := by
    rw [Bool.not_eq_true', ← Bool.not_eq_true, lex_isBefore_iff, not_lt]
  rw [templatesBelow]
  generalize ((tree.below location).filter (tree.isTemplateBelow suffixes location)) = found
  have hsorted : (found.eraseDups.mergeSort fun a b => !b.lex a isBefore).Pairwise (· ≤ ·) := by
    refine (List.pairwise_mergeSort ?_ ?_ _).imp fun {a b} h => (horder a b).1 h
    · intro a b c hab hbc
      rw [horder] at *
      exact hab.trans hbc
    · intro a b
      rw [Bool.or_eq_true, horder, horder]
      exact le_total a b
  have hnodup := (List.mergeSort_perm found.eraseDups fun a b => !b.lex a isBefore).nodup_iff.2
    (nodup_eraseDups found)
  exact (hsorted.and hnodup).imp fun h => lt_of_le_of_ne h.1 h.2

/-- What is searched below a location are its directories. -/
private theorem mem_directoriesBelow_iff :
    relative ∈ tree.directoriesBelow location ↔
      relative ≠ [] ∧ tree.entryAt? (location ++ relative) = some .directory := by
  have hdirectory : (tree.entryAt? (location ++ relative)).any Entry.isDirectory = true ↔
      tree.entryAt? (location ++ relative) = some .directory := by
    cases tree.entryAt? (location ++ relative) with
    | none => simp
    | some entry => cases entry <;> simp [Entry.isDirectory]
  rw [directoriesBelow, List.mem_filter, hdirectory]
  constructor
  · exact fun ⟨hbelow, hentry⟩ => ⟨ne_nil_of_mem_below hbelow, hentry⟩
  · exact fun ⟨hne, hentry⟩ => ⟨mem_below_of_entryAt? hentry hne, hentry⟩

/-- Paths are looked at one by one, up to the first that is too long. -/
theorem upToTooLong_cases (paths : List Path) :
    (∀ path ∈ paths, byteCount path.text ≤ pathLimit) ∧ upToTooLong paths = (paths, none) ∨
      ∃ path ∈ paths, pathLimit < byteCount path.text ∧ ∃ part, part <+: paths ∧
        upToTooLong paths = (part, some (.nameTooLong path.text)) := by
  cases hfound : paths.find? Path.isTooLong with
  | none =>
    have hshort : ∀ path ∈ paths, path.isTooLong = false := by simpa using List.find?_eq_none.1 hfound
    have hall : paths.takeWhile (!·.isTooLong) = paths :=
      List.takeWhile_eq_self_iff.2 fun path hpath => by rw [hshort path hpath]; rfl
    refine .inl ⟨fun path hpath => ?_, by rw [upToTooLong, hfound, hall]; rfl⟩
    simpa [Path.isTooLong] using hshort path hpath
  | some path =>
    have hlong : pathLimit < byteCount path.text := by simpa [Path.isTooLong] using List.find?_some hfound
    exact .inr ⟨path, List.mem_of_find?_eq_some hfound, hlong, _, List.takeWhile_prefix _,
      by rw [upToTooLong, hfound]; rfl⟩

/-- What a search yields for a root that can be looked at: a file with one of the endings, nothing where
nothing is, and the templates of a directory. -/
inductive Yields (tree : FileTree) (suffixes : List (List Char)) (root : Path) : List Path → Prop
  | file {location : Location} {content : ByteArray}
      (hfind : tree.find root = .ok (some (location, .file content))) :
      Yields tree suffixes root (if root.suffix ∈ suffixes then [root] else [])
  | missing (hfind : tree.find root = .ok none) : Yields tree suffixes root []
  | directory {location : Location} {block : List Path}
      (hfind : tree.find root = .ok (some (location, .directory)))
      (hsorted : block.Pairwise fun a b => a.components < b.components)
      (hmem : ∀ path, path ∈ block ↔
        ∃ relative, path = root.below relative ∧ tree.IsTemplate suffixes root location relative) :
      Yields tree suffixes root block

/-- A path that a search looks at, below a root or the root itself, and that is too long for it: by its
text, or by a name that is looked up in a directory. A name below a file, or where nothing is, is not looked
up. -/
inductive TooLong (tree : FileTree) (suffixes : List (List Char)) (root : Path) : Path → Prop
  | root (hplain : '\x00' ∉ root.text) (hlong : pathLimit < byteCount root.text) : TooLong tree suffixes root root
  | name (hplain : '\x00' ∉ root.text) (hname : tree.LooksUpLongName root) : TooLong tree suffixes root root
  | directory {location relative : Location} (hfind : tree.find root = .ok (some (location, .directory)))
      (hbelow : tree.entryAt? (location ++ relative) = some .directory)
      (hlong : pathLimit < byteCount (root.below relative).text) :
      TooLong tree suffixes root (root.below relative)
  | template {location relative : Location} (hfind : tree.find root = .ok (some (location, .directory)))
      (hbelow : tree.IsTemplate suffixes root location relative)
      (hlong : pathLimit < byteCount (root.below relative).text) :
      TooLong tree suffixes root (root.below relative)

/-- A root can be searched if no path that is looked at for it is too long. -/
def Searchable (tree : FileTree) (suffixes : List (List Char)) (root : Path) : Prop :=
  ∀ path, ¬tree.TooLong suffixes root path

/-- The templates of a directory are what a search yields for it. -/
theorem yields_templatesBelow (hfind : tree.find root = .ok (some (location, .directory))) :
    tree.Yields suffixes root ((tree.templatesBelow suffixes location).map root.below) := by
  refine .directory hfind ?_ fun path => ?_
  · refine List.pairwise_map.2 ((tree.pairwise_templatesBelow suffixes location).imp fun h => ?_)
    exact List.append_left_lt h
  · simp only [List.mem_map, mem_templatesBelow_iff hfind, and_comm, eq_comm]

/-- Below a root that is found, only directories and templates can be too far down. -/
theorem TooLong.below {result : Option (Location × Entry)} {path : Path}
    (htooLong : tree.TooLong suffixes root path) (hfind : tree.find root = .ok result) :
    ∃ location relative, result = some (location, .directory) ∧ pathLimit < byteCount (root.below relative).text ∧
      (tree.entryAt? (location ++ relative) = some .directory ∨
        tree.IsTemplate suffixes root location relative) := by
  have hfound {cause : FileError} : tree.find root ≠ .error cause := by
    rw [hfind]
    exact nofun
  cases htooLong with
  | root hplain hlong => exact absurd (find_eq_error_iff.2 ⟨rfl, hplain, .inl hlong⟩) hfound
  | name hplain hname => exact absurd (find_eq_error_iff.2 ⟨rfl, hplain, .inr hname⟩) hfound
  | directory hdirectory hbelow hlong =>
    exact ⟨_, _, Except.ok.inj (hfind.symm.trans hdirectory), hlong, .inl hbelow⟩
  | template hdirectory hbelow hlong =>
    exact ⟨_, _, Except.ok.inj (hfind.symm.trans hdirectory), hlong, .inr hbelow⟩

/-- A root can be searched if no path of a directory or a template below it is too long. -/
private theorem searchable_of_directory (hfind : tree.find root = .ok (some (location, .directory)))
    (hdirectories : ∀ path ∈ (tree.directoriesBelow location).map root.below, byteCount path.text ≤ pathLimit)
    (htemplates : ∀ path ∈ (tree.templatesBelow suffixes location).map root.below, byteCount path.text ≤ pathLimit) :
    tree.Searchable suffixes root := by
  intro path htooLong
  obtain ⟨other, relative, hother, hlong, hbelow⟩ := htooLong.below hfind
  cases hother
  refine Nat.not_le_of_lt hlong ?_
  obtain hdirectory | htemplate := hbelow
  · by_cases hne : relative = []
    · rw [hne, Path.below, List.append_nil]
      exact isShort_of_find hfind
    · exact hdirectories _ (List.mem_map_of_mem (mem_directoriesBelow_iff.2 ⟨hne, hdirectory⟩))
  · exact htemplates _ (List.mem_map_of_mem ((mem_templatesBelow_iff hfind).2 htemplate))

/-- A root breaks a search off because of a path that is too long. What is found there before is the
beginning of what the search would yield. -/
structure BreaksOff (tree : FileTree) (suffixes : List (List Char)) (root : Path) (part : List Path)
    (path : Path) : Prop where
  tooLong : tree.TooLong suffixes root path
  begins : part = [] ∨ ∃ block, tree.Yields suffixes root block ∧ part <+: block

/-- A directory gives all templates below it, or breaks off at the first path that is too long. -/
private theorem templatesAt_directory (hfind : tree.find root = .ok (some (location, .directory))) :
    (tree.Searchable suffixes root ∧ tree.templatesAt suffixes root =
        ((tree.templatesBelow suffixes location).map root.below, none)) ∨
      ∃ part path, tree.BreaksOff suffixes root part path ∧
        tree.templatesAt suffixes root = (part, some (.nameTooLong path.text)) := by
  rw [templatesAt, hfind]
  obtain ⟨hdirectories, hlisted⟩ | ⟨path, hpath, hlong, part, _, hlisted⟩ :=
    upToTooLong_cases ((tree.directoriesBelow location).map root.below)
  · obtain ⟨htemplates, hlooked⟩ | ⟨path, hpath, hlong, part, hpart, hlooked⟩ :=
      upToTooLong_cases ((tree.templatesBelow suffixes location).map root.below)
    · exact .inl ⟨searchable_of_directory hfind hdirectories htemplates, by simp only [hlisted, hlooked]⟩
    · obtain ⟨relative, hbelow, rfl⟩ := List.mem_map.1 hpath
      have htooLong : tree.TooLong suffixes root (root.below relative) :=
        .template hfind ((mem_templatesBelow_iff hfind).1 hbelow) hlong
      exact .inr ⟨part, _, ⟨htooLong, .inr ⟨_, yields_templatesBelow hfind, hpart⟩⟩, by simp only [hlisted, hlooked]⟩
  · obtain ⟨relative, hbelow, rfl⟩ := List.mem_map.1 hpath
    have htooLong : tree.TooLong suffixes root (root.below relative) :=
      .directory hfind (mem_directoriesBelow_iff.1 hbelow).2 hlong
    exact .inr ⟨[], _, ⟨htooLong, .inl rfl⟩, by simp only [hlisted]⟩

/-- A root that can be searched yields what it should, and any other breaks the search off. -/
theorem templatesAt_cases (tree : FileTree) (suffixes : List (List Char)) (root : Path) :
    (tree.Searchable suffixes root ∧
        ∃ block, tree.Yields suffixes root block ∧ tree.templatesAt suffixes root = (block, none)) ∨
      ∃ part path, tree.BreaksOff suffixes root part path ∧
        tree.templatesAt suffixes root = (part, some (.nameTooLong path.text)) := by
  have hnothing {result : Option (Location × Entry)} (hfind : tree.find root = .ok result)
      (hresult : ∀ location, result ≠ some (location, .directory)) : tree.Searchable suffixes root :=
    fun path htooLong =>
      have ⟨location, _, hdirectory, _⟩ := htooLong.below hfind
      hresult location hdirectory
  cases hfind : tree.find root with
  | error cause =>
    obtain ⟨rfl, hplain, hlimit⟩ := find_eq_error_iff.1 hfind
    have htooLong : tree.TooLong suffixes root root := hlimit.elim (.root hplain) (.name hplain)
    exact .inr ⟨[], root, ⟨htooLong, .inl rfl⟩, by rw [templatesAt, hfind]⟩
  | ok result =>
    match result, hfind with
    | none, hfind => exact .inl ⟨hnothing hfind (by simp), [], .missing hfind, by rw [templatesAt, hfind]⟩
    | some (location, .file content), hfind =>
      exact .inl ⟨hnothing hfind (by simp), _, .file hfind, by simp [templatesAt, hfind]⟩
    | some (location, .directory), hfind =>
      obtain ⟨hsearch, hfound⟩ | hbreaks := templatesAt_directory hfind
      · exact .inl ⟨hsearch, _, yields_templatesBelow hfind, hfound⟩
      · exact .inr hbreaks

end FileTree

end Files

end BareStrings
