/-
The configuration of a live page.

A configuration lists sources with their destinations, patterns of further
files whose changes matter, the seconds that the files must be quiet before
a rebuild, and the frame of the documents. Paths are seen from the
directory of the configuration. What is checked first fails first: the
root, the presence of `write`, the seconds, `write` and `watch`.

* `Config` — a configuration;
* `Config.ofValue` — the configuration that a value stands for;
* `Config.load` — the configuration in a file;
* `ConfigFault` — why there is none.
-/
import LivePage.Build
import LivePage.Files.Glob
import LivePage.Yaml.Load

namespace LivePage

open Yaml (Value)

/-- A configuration. -/
structure Config where
  /-- Sources with their destinations. -/
  pairs : Pairs
  /-- Further files whose changes matter, each once. -/
  watch : List Path
  /-- The seconds of quiet before a rebuild. -/
  debounce : Double
  /-- The frame of the documents. -/
  frame : Frame
deriving DecidableEq, Repr

/-- Why there is no configuration. -/
inductive ConfigFault where
  /-- A file cannot be read or looked for. -/
  | file (fault : FileFault)
  /-- The text is not read. -/
  | text (fault : Yaml.Fault)
  /-- The root is no mapping. -/
  | rootNotMapping
  /-- There is no `write`. -/
  | noWrite
  /-- The seconds are of a kind that no number is. -/
  | debounceKind (value : Value)
  /-- The seconds are a text that is no number. -/
  | debounceText (t : RawText)
  /-- The seconds are an integer beyond all doubles. -/
  | debounceTooLarge
  /-- The seconds are zero or less. -/
  | debounceNotPositive
  /-- What is to be written is no list. -/
  | writeNotList
  /-- An entry of what is to be written lacks its source or its destination. -/
  | badEntry (shown : Text)
  /-- Nothing is to be written. -/
  | nothingToWrite
  /-- What is to be watched is no list. -/
  | watchNotList
  /-- A pattern is refused. -/
  | pattern (fault : PatternFault)
  /-- A value that is to be a text has an integer with too many digits. -/
  | integerTooLong

/-- The kind of a value, as messages name it. -/
def kindName : Value → Text
  | .null => "NoneType".toList
  | .bool _ => "bool".toList
  | .int _ => "int".toList
  | .float _ => "float".toList
  | .text _ => "str".toList
  | .list _ => "list".toList
  | .map _ => "dict".toList
  | .other kind _ _ => kind

/-- The wording of a fault; a text that breaks the rules of its notation has none. -/
def ConfigFault.message? : ConfigFault → Option Text
  | .file fault => some fault.message
  | .text fault => fault.message?
  | .rootNotMapping => some "Config root must be a mapping".toList
  | .noWrite => some "Config needs a 'write' list".toList
  | .debounceKind value =>
    some ("float() argument must be a string or a real number, not '".toList ++
      kindName value ++ ['\''])
  | .debounceText t => some ("could not convert string to float: ".toList ++ quote t)
  | .debounceTooLarge => some "int too large to convert to float".toList
  | .debounceNotPositive => some "debounce must be a positive number of seconds".toList
  | .writeNotList => some "write must be a list of \x7bsrc, dst\x7d mappings".toList
  | .badEntry shown => some ("write entry must have src and dst: ".toList ++ shown)
  | .nothingToWrite => some "write must list at least one source".toList
  | .watchNotList => some "watch must be a list of glob patterns".toList
  | .pattern fault => some fault.message
  | .integerTooLong =>
    some ("Exceeds the limit (4300 digits) for integer string conversion; " ++
      "use sys.set_int_max_str_digits() to increase the limit").toList

namespace Config

/-- The seconds of quiet if none are given. -/
def defaultDebounce : Double :=
  .finite false Double.fullMantissa (-53)

/-- The value of a key of a mapping. -/
def valueOf? (key : String) (entries : List (Value × Value)) : Option Value :=
  Table.get? (.text (raw key)) entries

/-- The number that a value stands for. -/
def seconds : Value → Except ConfigFault Double
  | .bool b => .ok (.ofNat (if b then 1 else 0))
  | .int n =>
    match Double.ofInt? n with
    | some d => .ok d
    | none => .error .debounceTooLarge
  | .float d => .ok d
  | .text t =>
    match t.text?.bind Double.ofText? with
    | some d => .ok d
    | none => .error (.debounceText t)
  | value => .error (.debounceKind value)

/-- The seconds of quiet of a mapping. What is no number passes the check. -/
def debounceOf (entries : List (Value × Value)) : Except ConfigFault Double := do
  let d ←
    match valueOf? "debounce" entries with
    | none => .ok defaultDebounce
    | some value => seconds value
  if d.isNonPositive then .error .debounceNotPositive else .ok d

/-- A value as a text. -/
def textOf (value : Value) : Except ConfigFault RawText :=
  match value.asText? with
  | some t => .ok t
  | none => .error .integerTooLong

/-- Why an entry is refused that lacks its source or its destination. -/
def refusalOf (value : Value) : ConfigFault :=
  match value.shown? with
  | some shown => .badEntry shown
  | none => .integerTooLong

/-- The source and the destination of an entry. -/
def sidesOf? : Value → Option (Value × Value)
  | .map entries => do some (← valueOf? "src" entries, ← valueOf? "dst" entries)
  | _ => none

/-- The pair that an entry stands for, with its paths seen from a base. -/
def pairOf (base : Path) (value : Value) : Except ConfigFault (Path × Path) :=
  match sidesOf? value with
  | some (src, dst) => do
    .ok (base.join (.ofText (← textOf src)), base.join (.ofText (← textOf dst)))
  | none => .error (refusalOf value)

/-- The pairs that a value stands for. -/
def pairsOf (base : Path) : Value → Except ConfigFault Pairs
  | .list entries => do
    let pairs ← entries.mapM (pairOf base)
    if pairs.isEmpty then .error .nothingToWrite else .ok (Table.ofList pairs)
  | _ => .error .writeNotList

/-- The paths that match a value's pattern below a base. -/
def matchesOf (tree : FileTree) (base : Path) (value : Value) :
    Except ConfigFault (List Path) := do
  let pattern ← (Pattern.ofText (← textOf value)).mapError .pattern
  (tree.glob base pattern).mapError .file

/-- The further files that a value stands for. -/
def watchOf (tree : FileTree) (base : Path) : Option Value → Except ConfigFault (List Path)
  | none | some .null => .ok []
  | some (.list patterns) => do
    let found ← patterns.mapM (matchesOf tree base)
    .ok found.flatten.eraseDups
  | some _ => .error .watchNotList

/-- The text of a key, or a default if it is absent. -/
def textOrDefault (key : String) (default : RawText) (entries : List (Value × Value)) :
    Except ConfigFault RawText :=
  match valueOf? key entries with
  | some value => textOf value
  | none => .ok default

/-- The configuration that a mapping stands for. -/
def ofEntries (tree : FileTree) (base : Path) (entries : List (Value × Value)) :
    Except ConfigFault Config :=
  match valueOf? "write" entries with
  | none => .error .noWrite
  | some write => do
    let debounce ← debounceOf entries
    let pairs ← pairsOf base write
    let watch ← watchOf tree base (valueOf? "watch" entries)
    let frame : Frame := {}
    let lang ← textOrDefault "lang" frame.lang entries
    let dir ← textOrDefault "dir" frame.dir entries
    .ok { pairs, watch, debounce, frame := ⟨lang, dir⟩ }

/-- The configuration that a value stands for, with its paths seen from a base. Nothing at all
counts as an empty mapping. -/
def ofValue (tree : FileTree) (base : Path) : Value → Except ConfigFault Config
  | .null => ofEntries tree base []
  | .map entries => ofEntries tree base entries
  | _ => .error .rootNotMapping

/-- The configuration in a file, whose text is read by a reader. -/
def load (tree : FileTree) (path : Path) (read : Yaml.Reader := Yaml.load) :
    Except ConfigFault Config := do
  let t ← (tree.readText path).mapError .file
  let value ← (read t).mapError .text
  ofValue tree path.parent value

end Config

end LivePage
