/-
From nodes to values.

A quoted scalar is a text. A key that is set twice keeps its place and
takes the last value. The key `<<` sets the entries of its value first.

Values are found level by level: all that stands in a list or mapping is
looked at before what stands in the lists and mappings inside it. So of
several faults the one nearest the root is met.

* `Found` — a value, or the fault that is met first;
* `Value.ofNode` — the value of a node;
* `Reader` — what turns a text into its value;
* `load` — the reader for this subset of the notation, where a date is a text.
-/
import LivePage.Table
import LivePage.Yaml.Node
import LivePage.Yaml.Plain

namespace LivePage.Yaml

/-- A fault in a node, and how many lists and mappings of the node are around it. -/
structure DeepFault where
  /-- The number of lists and mappings around it. -/
  depth : Nat
  /-- The fault. -/
  fault : Fault
deriving DecidableEq, Repr

/-- A value that is found, or the fault that is met first. -/
abbrev Found (α : Type) := Except DeepFault α

/-- A fault outside all lists and mappings. -/
def Found.ofExcept {α : Type} (result : Except Fault α) : Found α :=
  result.mapError (⟨0, ·⟩)

/-- What is found inside one more list or mapping. -/
def Found.inside {α : Type} (result : Found α) : Found α :=
  result.mapError fun e => { e with depth := e.depth + 1 }

/-- What is found in two neighbours. The fault with fewer lists and mappings around it is met
first, and of two with equally many the left one. -/
def Found.both {α β : Type} : Found α → Found β → Found (α × β)
  | .ok a, .ok b => .ok (a, b)
  | .error e, .ok _ => .error e
  | .ok _, .error e => .error e
  | .error e, .error e' => .error (if e'.depth < e.depth then e' else e)

/-- What is found in neighbours. -/
def Found.all {α : Type} : List (Found α) → Found (List α)
  | [] => .ok []
  | a :: rest => (a.both (Found.all rest)).map fun (a, rest) => a :: rest

/-- An entry of a mapping. -/
abbrev FoundEntry := Found (Value × Value)

/-- The entries of a mapping: first those brought in, then its own. -/
structure MapParts where
  /-- Brought in by `<<`. -/
  merged : List FoundEntry := []
  /-- Its own. -/
  own : List FoundEntry := []

/-- All entries. -/
def MapParts.entries (parts : MapParts) : List FoundEntry :=
  parts.merged ++ parts.own

/-- The mapping of its parts, or the fault that kept them from being told apart. -/
def MapParts.value (parts : Except Fault MapParts) : Found Value := do
  let parts ← Found.ofExcept parts
  .ok (.map (Table.ofList (← Found.all parts.entries)))

/-- Whether a node is a plain scalar with a text. -/
def Node.isPlain (n : Node) (t : Text) : Bool :=
  match n with
  | .scalar s => s == .plain t
  | _ => false

/-- What a scalar stands for. -/
def Scalar.value : Scalar → Except Fault Value
  | .plain t => resolve t
  | .quoted t => .ok (.text t)

/-- What a node stands for as a key: only scalars can be keys, and the word `=` is a text. -/
def keyValue : Node → Found Value
  | .scalar s => if s = .plain ['='] then .ok (.text (Text.raw ['='])) else .ofExcept s.value
  | _ => .ofExcept (.error .malformed)

mutual

/-- The value of a node. -/
def Value.ofNode : Node → Found Value
  | .scalar s => .ofExcept s.value
  | .list items => Found.inside ((Found.all (Value.ofNodes items)).map Value.list)
  | .map entries => Found.inside (MapParts.value (Value.ofEntries entries))

/-- The values of nodes. -/
def Value.ofNodes : List Node → List (Found Value)
  | [] => []
  | item :: rest => Value.ofNode item :: Value.ofNodes rest

/-- The entries of a mapping. What `<<` brings in is looked at before any of them. -/
def Value.ofEntries : List (Node × Node) → Except Fault MapParts
  | [] => .ok {}
  | (key, value) :: rest => do
    if key.isPlain ['<', '<'] then
      let merged ← Value.mergedEntries value
      let parts ← Value.ofEntries rest
      .ok { parts with merged := merged ++ parts.merged }
    else
      let entry := (keyValue key).both (Value.ofNode value)
      let parts ← Value.ofEntries rest
      .ok { parts with own := entry :: parts.own }

/-- The entries that the key `<<` brings in: those of a mapping, or of a list of mappings, the
last first. -/
def Value.mergedEntries : Node → Except Fault (List FoundEntry)
  | .map entries => do .ok (← Value.ofEntries entries).entries
  | .list items => do .ok (← Value.mergedItems items).reverse.flatten
  | .scalar _ => .error .malformed

/-- The entries of each mapping of a list. -/
def Value.mergedItems : List Node → Except Fault (List (List FoundEntry))
  | [] => .ok []
  | .map entries :: rest => do
    let parts ← Value.ofEntries entries
    .ok (parts.entries :: (← Value.mergedItems rest))
  | _ :: _ => .error .malformed

end

/-- What turns a text into its value. -/
abbrev Reader := Text → Except Fault Value

/-- The value of a text. A text without a document is null. -/
def load (t : Text) : Except Fault Value := do
  match ← document (tokens t) with
  | none => .ok .null
  | some root => (Value.ofNode root).mapError DeepFault.fault

end LivePage.Yaml
