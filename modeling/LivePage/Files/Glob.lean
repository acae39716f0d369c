/-
Patterns of paths.

A pattern is read like a relative path and matched component by component
below a base directory. In a component `*` stands for any characters, `?`
for one, and brackets for one of a set; a component `**` stands for the
directory itself and every directory below. A slash at the end keeps
directories only. Components without wildcards need only exist; one that is
too long for a name is a fault. All this goes by code points, as patterns
and names are raw text.

* `Wildcard`, `matchesName` — patterns of names;
* `Pattern.ofText` — reads a pattern;
* `FileTree.glob` — the paths that match below a base.
-/
import LivePage.Files.Tree

namespace LivePage

/-! ### Sets of code points -/

/-- An item of a set of code points. -/
inductive SetItem where
  /-- One code point. -/
  | single (c : Point)
  /-- All code points from one to another. -/
  | range (first last : Point)
deriving DecidableEq, Repr

namespace SetItem

/-- Whether a code point belongs to the item. -/
def accepts (c : Point) : SetItem → Bool
  | single d => c == d
  | range first last => first.number ≤ c.number && c.number ≤ last.number

/-- Whether the item is a range whose ends are in the wrong order. -/
def isInverted : SetItem → Bool
  | single _ => false
  | range first last => last.number < first.number

/-- The items of a written set. -/
def ofText : RawText → List SetItem
  | [] => []
  | first :: .char '-' :: last :: rest => range first last :: ofText rest
  | c :: rest => single c :: ofText rest

end SetItem

/-- A set of code points, or the complement of one. -/
structure PointSet where
  /-- Whether the set is the complement of the items. -/
  negated : Bool
  /-- The items. -/
  items : List SetItem
deriving DecidableEq, Repr

/-- Whether a code point belongs to the set. -/
def PointSet.accepts (s : PointSet) (c : Point) : Bool :=
  s.items.any (·.accepts c) != s.negated

/-- The set that is written between brackets. A `!` at the start negates; inverted ranges are
left out first. -/
def PointSet.ofText (body : RawText) : PointSet :=
  match body with
  | .char '!' :: rest => ⟨true, (SetItem.ofText rest).filter (!·.isInverted)⟩
  | _ =>
    match (SetItem.ofText body).filter (!·.isInverted) with
    | .single (.char '!') :: items => ⟨true, items⟩
    | .range (.char '!') last :: items => ⟨true, .single '-' :: .single last :: items⟩
    | items => ⟨false, items⟩

/-! ### Patterns of names -/

/-- A part of a pattern of names. -/
inductive Wildcard where
  /-- Any code points. -/
  | many
  /-- Any one code point. -/
  | one
  /-- One code point of a set. -/
  | among (set : PointSet)
  /-- This code point. -/
  | literal (c : Point)
deriving DecidableEq, Repr

/-- The set in brackets at the start of a text that follows an opening bracket, and the rest. A
closing bracket that comes first belongs to the set. -/
def splitBracket (t : RawText) : Option (RawText × RawText) :=
  let (bang, t) : RawText × RawText :=
    match t with
    | .char '!' :: rest => (['!'], rest)
    | t => ([], t)
  let (bracket, t) : RawText × RawText :=
    match t with
    | .char ']' :: rest => ([']'], rest)
    | t => ([], t)
  match t.dropWhile (· != .char ']') with
  | [] => none
  | _ :: rest => some (bang ++ bracket ++ t.takeWhile (· != .char ']'), rest)

/-- The parts of a pattern of names. -/
def wildcardsFrom : Nat → RawText → List Wildcard
  | 0, _ => []
  | _, [] => []
  | fuel + 1, .char '*' :: rest => .many :: wildcardsFrom fuel rest
  | fuel + 1, .char '?' :: rest => .one :: wildcardsFrom fuel rest
  | fuel + 1, .char '[' :: rest =>
    match splitBracket rest with
    | some (body, after) => .among (.ofText body) :: wildcardsFrom fuel after
    | none => .literal '[' :: wildcardsFrom fuel rest
  | fuel + 1, c :: rest => .literal c :: wildcardsFrom fuel rest

/-- The parts of a pattern of names. -/
def wildcards (t : RawText) : List Wildcard :=
  wildcardsFrom t.length t

/-- For each place in a list, whether it holds there or further on. -/
def holdsFrom : List Bool → List Bool
  | [] => []
  | b :: rest =>
    let later := holdsFrom rest
    (b || later.headD false) :: later

/-- Whether a part that stands for one code point stands for this one. -/
def Wildcard.accepts (c : Point) : Wildcard → Bool
  | many => false
  | one => true
  | among set => set.accepts c
  | literal d => c == d

/-- For each ending of a name, from the whole name to the empty one, whether it matches. -/
def endingsMatching (name : RawText) : List Wildcard → List Bool
  | [] => name.map (fun _ => false) ++ [true]
  | .many :: ws => holdsFrom (endingsMatching name ws)
  | w :: ws =>
    List.zipWith (fun c matching => w.accepts c && matching) name
      ((endingsMatching name ws).drop 1) ++ [false]

/-- Whether a name matches. -/
def matchesName (ws : List Wildcard) (name : RawText) : Bool :=
  (endingsMatching name ws).headD false

/-! ### Patterns of paths -/

/-- A component of a pattern. -/
inductive PatternPart where
  /-- The directory itself and every directory below. -/
  | deep
  /-- A name with wildcards. -/
  | wild (ws : List Wildcard)
  /-- This name. -/
  | exact (name : RawText)
deriving DecidableEq, Repr

/-- A pattern of paths. -/
structure Pattern where
  /-- Its components. -/
  parts : List PatternPart
  /-- Whether only directories match. -/
  directories : Bool
deriving DecidableEq, Repr

/-- Why a pattern is refused. -/
inductive PatternFault where
  /-- The pattern is empty. -/
  | empty
  /-- The pattern begins at the root. -/
  | notRelative
  /-- Two stars stand inside a longer component. -/
  | stars
  /-- The pattern has no component. -/
  | noComponent
  /-- The pattern has no component but a slash at its end. -/
  | onlySlash
deriving DecidableEq, Repr

/-- The wording of a fault. -/
def PatternFault.message : PatternFault → Text
  | .empty => "Unacceptable pattern: ''".toList
  | .notRelative => "Non-relative patterns are unsupported".toList
  | .stars => "Invalid pattern: '**' can only be an entire path component".toList
  | .noComponent => "tuple index out of range".toList
  | .onlySlash => "'_TerminatingSelector' object has no attribute 'select_from'".toList

/-- Whether two stars stand next to each other. -/
def hasTwoStars : RawText → Bool
  | [] => false
  | c :: rest => (c == '*' && rest.head? == some (.char '*')) || hasTwoStars rest

/-- Reads a component. -/
def PatternPart.ofText (t : RawText) : Except PatternFault PatternPart :=
  if t = raw "**" then .ok .deep
  else if hasTwoStars t then .error .stars
  else if t.any fun c => c == '*' || c == '?' || c == '[' then .ok (.wild (wildcards t))
  else .ok (.exact t)

/-- Reads a pattern. -/
def Pattern.ofText (t : RawText) : Except PatternFault Pattern := do
  if t.isEmpty then .error .empty
  let path := Path.ofText t
  if path.anchor != .relative then .error .notRelative
  let directories := t.getLast? == some slash
  if path.parts.isEmpty then
    .error (if directories then .onlySlash else .noComponent)
  let parts ← path.parts.mapM PatternPart.ofText
  .ok ⟨parts, directories⟩

namespace FileTree

/-- The directories below a place, as components from there. -/
def directoriesBelow (tree : FileTree) (here : Location) : List (List RawText) :=
  tree.entries.filterMap fun entry =>
    match entry.2 with
    | .directory =>
      if here.isPrefixOf entry.1 && here.length < entry.1.length then
        some (entry.1.drop here.length)
      else none
    | .file _ => none

/-- Whether something, or with `directory` a directory, is there. -/
def fits (directory : Bool) : Option Entry → Bool
  | none => false
  | some .directory => true
  | some (.file _) => !directory

/-- The paths that match below the directory at a path. -/
def select (tree : FileTree) (directories : Bool) :
    List PatternPart → Path → Except FileFault (List Path)
  | [], path => .ok [path]
  | part :: rest, path => do
    let directory := directories || !rest.isEmpty
    match part with
    | .exact name =>
      if fits directory (← tree.look? (path.child name)) then
        tree.select directories rest (path.child name)
      else .ok []
    | .wild ws =>
      let here ← tree.locate path
      let names := (tree.children here).filter fun name =>
        matchesName ws name && fits directory (tree.find? (here ++ [name]))
      let found ← names.mapM fun name => tree.select directories rest (path.child name)
      .ok found.flatten
    | .deep =>
      let here ← tree.locate path
      let found ← ([] :: tree.directoriesBelow here).mapM fun names =>
        tree.select directories rest ⟨path.anchor, path.parts ++ names⟩
      .ok found.flatten

/-- The paths that match a pattern below a base directory, each once. -/
def glob (tree : FileTree) (base : Path) (pattern : Pattern) : Except FileFault (List Path) := do
  if (← tree.look? base) = some .directory then
    .ok (← tree.select pattern.directories pattern.parts base).eraseDups
  else .ok []

end FileTree

end LivePage
