/-
Requests on the command line.

There is one positional argument, the configuration, and two options:
`-h` or `--help`, and `--once`. A long option may be shortened as long as
one option only begins so. Every argument before the first `--` is told
apart before any of them acts; from there on all are positional. Then they
act in order, and an option that asks for help ends the reading. What is
left over is reported at the end, and only if nothing is missing.

* `Argument.ofText` — tells arguments apart;
* `Request` — what is asked for;
* `Request.ofArguments` — reads a command line;
* `UsageFault.message`, `usageText`, `helpText` — what the user is told.
-/
import LivePage.Text.Digit
import LivePage.Text.Quoted

namespace LivePage

/-- The options. -/
inductive Flag where
  /-- Asks for help. -/
  | help
  /-- Asks for one build. -/
  | once
deriving DecidableEq, Repr

/-- An option as messages name it. -/
def Flag.name : Flag → Text
  | .help => "-h/--help".toList
  | .once => "--once".toList

/-- The long name of an option. -/
def Flag.longName : Flag → Text
  | .help => "--help".toList
  | .once => "--once".toList

/-- What is wrong with a command line. -/
inductive UsageFault where
  /-- There is no configuration. -/
  | missing
  /-- Arguments are left over. -/
  | unrecognized (arguments : List Text)
  /-- An option is given a value. -/
  | valueGiven (flag : Flag) (value : Text)
  /-- Several options begin so. -/
  | ambiguous (argument : Text) (flags : List Flag)
deriving DecidableEq, Repr

/-- The wording of a fault. -/
def UsageFault.message : UsageFault → Text
  | .missing => "the following arguments are required: config".toList
  | .unrecognized arguments =>
    "unrecognized arguments: ".toList ++ List.intercalate [' '] arguments
  | .valueGiven flag value =>
    "argument ".toList ++ flag.name ++ ": ignored explicit argument ".toList ++ quote value.raw
  | .ambiguous argument flags =>
    "ambiguous option: ".toList ++ argument ++ " could match ".toList ++
      List.intercalate ", ".toList (flags.map Flag.longName)

/-- An argument, told apart. -/
inductive Argument where
  /-- It stands for itself. -/
  | positional (t : Text)
  /-- It is an option. -/
  | flag (flag : Flag)
  /-- It is an option with a value that it does not take. -/
  | flagWith (flag : Flag) (value : Text)
  /-- It looks like an option and is none. -/
  | unknown (t : Text)
deriving DecidableEq, Repr

/-- Whether an argument is written like a negative number: digits, or digits around a point
with one at least after it. A line feed may follow. -/
def isNegativeNumber : Text → Bool
  | '-' :: t =>
    let t := if t.getLast? = some '\n' then t.dropLast else t
    let rest := t.dropWhile isDecimalDigit
    match rest with
    | [] => !t.isEmpty
    | '.' :: decimals => !decimals.isEmpty && decimals.all isDecimalDigit
    | _ => false
  | _ => false

/-- An argument with its parts before and after the first `=`. -/
def splitValue (t : Text) : Text × Option Text :=
  match t.dropWhile (· != '=') with
  | [] => (t, none)
  | _ :: value => (t.takeWhile (· != '='), some value)

/-- The options that a long name can stand for. -/
def Flag.withLongName (name : Text) : List Flag :=
  [Flag.help, Flag.once].filter fun flag => name.isPrefixOf flag.longName

/-- An option with what was given to it. -/
def Argument.ofFlag (flag : Flag) : Option Text → Argument
  | none => .flag flag
  | some value => .flagWith flag value

/-- What follows the letter of help: the same letter again, any number of times, or a value. -/
def Argument.ofHelpTail : Text → Argument
  | [] => .flag .help
  | 'h' :: t => ofHelpTail t
  | t => .flagWith .help t

/-- An argument that begins with a dash and names no option. -/
def Argument.ofDashed (t : Text) : Argument :=
  if isNegativeNumber t || t.contains ' ' then .positional t else .unknown t

/-- Tells an argument apart. -/
def Argument.ofText (t : Text) : Except UsageFault Argument :=
  match t with
  | '-' :: '-' :: _ =>
    let (name, value?) := splitValue t
    match Flag.withLongName name with
    | [] => .ok (.ofDashed t)
    | [option] => .ok (.ofFlag option value?)
    | options => .error (.ambiguous t options)
  | ['-', 'h', '='] => .ok (.flagWith .help [])
  | '-' :: 'h' :: '=' :: value => .ok (.ofHelpTail value)
  | '-' :: 'h' :: tail => .ok (.ofHelpTail tail)
  | ['-'] => .ok (.positional t)
  | '-' :: _ => .ok (.ofDashed t)
  | _ => .ok (.positional t)

/-- What is asked for. -/
inductive Request where
  /-- Help. -/
  | help
  /-- One build of a configuration. -/
  | once (config : Text)
  /-- Builds of a configuration while its files change. -/
  | watch (config : Text)
  /-- Something that cannot be done. -/
  | misuse (fault : UsageFault)
deriving DecidableEq, Repr

/-- What the arguments so far say. -/
structure Reading where
  /-- The configuration. -/
  config : Option Text := none
  /-- Whether one build is asked for. -/
  once : Bool := false
  /-- What is left over. -/
  extras : List Text := []
deriving DecidableEq, Repr

namespace Reading

/-- The request that a finished reading stands for. -/
def request (r : Reading) : Request :=
  match r.config with
  | none => .misuse .missing
  | some config =>
    if r.extras.isEmpty then if r.once then .once config else .watch config
    else .misuse (.unrecognized r.extras)

/-- Reads what stands after the first `--`. The mark itself vanishes if the configuration stands
beside it, and is left over otherwise. -/
def readTail (r : Reading) (beside : Bool) (tail : List Text) : Reading :=
  match r.config, tail with
  | none, config :: rest => { r with config := some config, extras := r.extras ++ rest }
  | _, _ =>
    { r with extras := r.extras ++ (if beside then tail else "--".toList :: tail) }

/-- Reads arguments in order. `beside` says whether the argument before is the configuration. -/
def read (r : Reading) (beside : Bool) (tail : Option (List Text)) : List Argument → Request
  | [] =>
    match tail with
    | none => r.request
    | some tail => (r.readTail beside tail).request
  | .positional t :: rest =>
    match r.config with
    | none => { r with config := some t }.read true tail rest
    | some _ => { r with extras := r.extras ++ [t] }.read false tail rest
  | .flag .help :: _ => .help
  | .flag .once :: rest => { r with once := true }.read false tail rest
  | .flagWith flag value :: _ => .misuse (.valueGiven flag value)
  | .unknown t :: rest => { r with extras := r.extras ++ [t] }.read false tail rest

end Reading

/-- The mark from which on all arguments are positional. -/
def endOfOptions : Text :=
  ['-', '-']

/-- Reads a command line. -/
def Request.ofArguments (arguments : List Text) : Request :=
  let options := arguments.takeWhile (· != endOfOptions)
  let tail :=
    match arguments.dropWhile (· != endOfOptions) with
    | [] => none
    | _ :: tail => some tail
  match options.mapM Argument.ofText with
  | .error fault => .misuse fault
  | .ok arguments => Reading.read {} false tail arguments

/-- How the command is called. -/
def usageText : Text :=
  "usage: moe [-h] [--once] config\n".toList

/-- What the user is told about a fault. -/
def UsageFault.report (fault : UsageFault) : Text :=
  usageText ++ "moe: error: ".toList ++ fault.message ++ ['\n']

/-- What the user is told who asks for help. -/
def helpText : Text :=
  usageText ++
    ("\nCompile Moe markup to HTML and rebuild it whenever the source changes\n" ++
      "\npositional arguments:\n  config\n" ++
      "\noptions:\n  -h, --help  show this help message and exit\n" ++
      "  --once      compile every source once and exit\n" ++
      "\nThe config file lists write: [\x7bsrc, dst\x7d] pairs and optional watch globs\n").toList

end LivePage
