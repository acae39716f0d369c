/-
Paths of files.

A path is relative or begins at the root. It is normalised when it is
read: repeated slashes, a slash at the end and `.` components vanish, and
`..` stays. Exactly two slashes at the start are kept apart from one; three
or more are one. An empty path is `.`.

The system takes a path as it is written: `.` must stand after a directory,
and so must a slash at the end. Paths are raw text, as a configuration
gives them.

* `Path.ofText`, `Path.text` — reading and writing;
* `Path.join`, `Path.parent` — paths from paths;
* `writtenParts`, `parentText`, `ancestors` — paths as they are written;
* `Location`, `Path.resolve` — absolute places, with `..` folded.
-/
import LivePage.Text.Raw

namespace LivePage

/-- Where a path begins. -/
inductive Anchor where
  /-- At the working directory. -/
  | relative
  /-- At the root. -/
  | root
  /-- At the root, written with two slashes. -/
  | doubleRoot
deriving DecidableEq, Repr

/-- A normalised path. -/
structure Path where
  /-- Where it begins. -/
  anchor : Anchor
  /-- Its components: none is empty or `.`, and none holds a slash. -/
  parts : List RawText
deriving DecidableEq, Repr

/-- What stands between two components. -/
def slash : Point :=
  '/'

/-- The component that stays in a directory. -/
def samePlace : RawText :=
  raw "."

/-- The component that leads one directory up. -/
def upward : RawText :=
  raw ".."

/-- The components of a written path. -/
def pathParts (t : RawText) : List RawText :=
  (cut (· == slash) t).filter fun part => !part.isEmpty && part != samePlace

/-- Where a written path begins. -/
def Anchor.ofText (t : RawText) : Anchor :=
  match (t.takeWhile (· == slash)).length with
  | 0 => .relative
  | 2 => .doubleRoot
  | _ => .root

/-- The slashes at the start of a path. -/
def Anchor.text : Anchor → RawText
  | .relative => []
  | .root => [slash]
  | .doubleRoot => [slash, slash]

namespace Path

/-- Reads a path. -/
def ofText (t : RawText) : Path :=
  ⟨.ofText t, pathParts t⟩

/-- Writes a path. -/
def text (p : Path) : RawText :=
  match p.anchor, p.parts with
  | .relative, [] => samePlace
  | anchor, parts => anchor.text ++ List.intercalate [slash] parts

/-- The path `p` seen from `base`; a path from the root stays as it is. -/
def join (base p : Path) : Path :=
  match p.anchor with
  | .relative => ⟨base.anchor, base.parts ++ p.parts⟩
  | _ => p

/-- A path with one more component. -/
def child (p : Path) (name : RawText) : Path :=
  ⟨p.anchor, p.parts ++ [name]⟩

/-- The path without its last component. -/
def parent (p : Path) : Path :=
  ⟨p.anchor, p.parts.dropLast⟩

end Path

/-! ### Paths as they are written -/

/-- The components of a path as it is written. -/
def writtenParts (t : RawText) : List RawText :=
  (cut (· == slash) t).filter (!·.isEmpty)

/-- The components that opening a path as it is written leads through. A slash at the end stays
in a directory. -/
def openedParts (t : RawText) : List RawText :=
  if t.getLast? = some slash then writtenParts t ++ [samePlace] else writtenParts t

/-- Whether the last component of a path as it is written stays in the directory before it. -/
def staysInPlace (t : RawText) : Bool :=
  (writtenParts t).getLast? == some samePlace

/-- A text without the slashes at its end, unless it has nothing else. -/
def withoutFinalSlashes (t : RawText) : RawText :=
  if t.all (· == slash) then t else (t.reverse.dropWhile (· == slash)).reverse

/-- What a written path has before its last slash. -/
def parentText (t : RawText) : RawText :=
  withoutFinalSlashes (t.reverse.dropWhile (· != slash)).reverse

/-- The ways to each component but the last one, with what stands before them. -/
def ancestorsFrom (before : RawText) : List RawText → List RawText
  | [] => []
  | [_] => []
  | part :: rest =>
    let here := before ++ part
    if part.isEmpty then ancestorsFrom (here ++ [slash]) rest
    else here :: ancestorsFrom (here ++ [slash]) rest

/-- The written paths to each component but the last one. -/
def ancestors (t : RawText) : List RawText :=
  ancestorsFrom [] (cut (· == slash) (withoutFinalSlashes t))

/-- An absolute place, as its components from the root. No component is `.` or `..`. -/
abbrev Location := List RawText

namespace Location

/-- The place that a component leads to: `..` leads up, and stays at the root; `.` stays. -/
def step (here : Location) (part : RawText) : Location :=
  if part = upward then here.dropLast
  else if part = samePlace then here
  else here ++ [part]

/-- A place as a path. -/
def path (here : Location) : Path :=
  ⟨.root, here⟩

/-- A place as text. -/
def text (here : Location) : RawText :=
  here.path.text

end Location

/-- The place where a path begins, with a working directory. -/
def Anchor.start (anchor : Anchor) (working : Location) : Location :=
  match anchor with
  | .relative => working
  | _ => []

/-- The place that a path names, with a working directory. Components need not exist. -/
def Path.resolve (working : Location) (p : Path) : Location :=
  p.parts.foldl Location.step (p.anchor.start working)

/-- A path with one more component, where `..` takes the last one back. It stays if there is
nothing to take back, and at the root it leads nowhere. -/
def Path.extend (p : Path) (part : RawText) : Path :=
  if part = upward then
    match p.parts.getLast?, p.anchor with
    | none, .relative => p.child upward
    | none, _ => p
    | some last, _ => if last = upward then p.child upward else p.parent
  else p.child part

end LivePage
