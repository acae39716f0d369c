/-
Nodes of a YAML document.

A node is a scalar as written, a list or a mapping. Keys and values that
are not written are empty plain scalars. A text holds at most one document.
A fault among the tokens counts when reading comes to it, so an earlier
breach of the rules wins over it.

* `Node` — the nodes;
* `node` — reads a node from tokens;
* `document` — the one document of a list of tokens.
-/
import LivePage.Yaml.Token

namespace LivePage.Yaml

/-- A node of a document. -/
inductive Node where
  /-- A scalar. -/
  | scalar (s : Scalar)
  /-- A list. -/
  | list (items : List Node)
  /-- A mapping. -/
  | map (entries : List (Node × Node))

/-- What is not written. -/
def Node.empty : Node :=
  .scalar (.plain [])

/-- Where a node stands. -/
inductive Context where
  /-- Where lists and mappings by indentation may begin. -/
  | block
  /-- As the key or value of a mapping by indentation: a list may also go on at the column of the
  mapping. -/
  | blockEntry
  /-- Between brackets. -/
  | flow
deriving DecidableEq, Repr

/-- Whether the next token is one of some tokens. -/
def nextIn (ts : List Token) (choices : List Token) : Bool :=
  ts.head?.any choices.contains

/-- Why tokens are refused: for the fault that they begin with, and otherwise because they break
the rules of the notation. -/
def refusal : List Token → Fault
  | .broken fault :: _ => fault
  | _ => .malformed

/-- The tokens after the comma that stands in front of every item but the first. -/
def afterComma (first : Bool) (ts : List Token) : Except Fault (List Token) :=
  if first then .ok ts
  else
    match ts with
    | .comma :: ts => .ok ts
    | ts => .error (refusal ts)

mutual

/-- Reads a node. -/
def node : Nat → Context → List Token → Except Fault (Node × List Token)
  | 0, _, _ => .error .malformed
  | fuel + 1, context, ts =>
    match ts with
    | .scalar s :: ts => .ok (.scalar s, ts)
    | .listStart :: ts => do
      let (items, ts) ← flowItems fuel true ts
      .ok (.list items, ts)
    | .mapStart :: ts => do
      let (entries, ts) ← flowEntries fuel true ts
      .ok (.map entries, ts)
    | .blockList :: ts => do
      if context = .flow then .error .malformed
      let (items, ts) ← blockItems fuel ts
      .ok (.list items, ts)
    | .blockMap :: ts => do
      if context = .flow then .error .malformed
      let (entries, ts) ← blockEntries fuel ts
      .ok (.map entries, ts)
    | .dash :: rest => do
      if context != .blockEntry then .error .malformed
      let (items, ts) ← levelItems fuel (.dash :: rest)
      .ok (.list items, ts)
    | ts => .error (refusal ts)

/-- Reads a node, unless one of some tokens comes next: then it is empty. -/
def nodeUnless : Nat → Context → List Token → List Token → Except Fault (Node × List Token)
  | 0, _, _, _ => .error .malformed
  | fuel + 1, context, stops, ts =>
    if nextIn ts stops then .ok (.empty, ts) else node fuel context ts

/-- Reads the value of an entry; without a value token it is empty. -/
def valueUnless : Nat → Context → List Token → List Token → Except Fault (Node × List Token)
  | 0, _, _, _ => .error .malformed
  | fuel + 1, context, stops, ts =>
    match ts with
    | .value :: ts => nodeUnless fuel context stops ts
    | ts => .ok (.empty, ts)

/-- Reads the items of a list by indentation, up to its end. -/
def blockItems : Nat → List Token → Except Fault (List Node × List Token)
  | 0, _ => .error .malformed
  | fuel + 1, ts =>
    match ts with
    | .blockEnd :: ts => .ok ([], ts)
    | .dash :: ts => do
      let (item, ts) ← nodeUnless fuel .block [.dash, .blockEnd] ts
      let (items, ts) ← blockItems fuel ts
      .ok (item :: items, ts)
    | ts => .error (refusal ts)

/-- Reads the items of a list at the column of the mapping around it. -/
def levelItems : Nat → List Token → Except Fault (List Node × List Token)
  | 0, _ => .error .malformed
  | fuel + 1, ts =>
    match ts with
    | .dash :: ts => do
      let (item, ts) ← nodeUnless fuel .block [.dash, .key, .value, .blockEnd] ts
      let (items, ts) ← levelItems fuel ts
      .ok (item :: items, ts)
    | ts => .ok ([], ts)

/-- Reads the entries of a mapping by indentation, up to its end. -/
def blockEntries : Nat → List Token → Except Fault (List (Node × Node) × List Token)
  | 0, _ => .error .malformed
  | fuel + 1, ts => do
    match ts with
    | .blockEnd :: ts => .ok ([], ts)
    | .key :: ts =>
      let (key, ts) ← nodeUnless fuel .blockEntry [.key, .value, .blockEnd] ts
      let (value, ts) ← valueUnless fuel .blockEntry [.key, .value, .blockEnd] ts
      let (entries, ts) ← blockEntries fuel ts
      .ok ((key, value) :: entries, ts)
    | ts => .error (refusal ts)

/-- Reads the items of a list in brackets, up to its end. An item may be a single entry of a
mapping. -/
def flowItems : Nat → Bool → List Token → Except Fault (List Node × List Token)
  | 0, _, _ => .error .malformed
  | fuel + 1, first, ts =>
    match ts with
    | .listEnd :: ts => .ok ([], ts)
    | ts => do
      let ts ← afterComma first ts
      match ts with
      | .listEnd :: ts => .ok ([], ts)
      | .key :: ts =>
        let (key, ts) ← nodeUnless fuel .flow [.value, .comma, .listEnd] ts
        let (value, ts) ← valueUnless fuel .flow [.comma, .listEnd] ts
        let (items, ts) ← flowItems fuel false ts
        .ok (.map [(key, value)] :: items, ts)
      | ts =>
        let (item, ts) ← node fuel .flow ts
        let (items, ts) ← flowItems fuel false ts
        .ok (item :: items, ts)

/-- Reads the entries of a mapping in braces, up to its end. A key alone has the empty value. -/
def flowEntries : Nat → Bool → List Token → Except Fault (List (Node × Node) × List Token)
  | 0, _, _ => .error .malformed
  | fuel + 1, first, ts =>
    match ts with
    | .mapEnd :: ts => .ok ([], ts)
    | ts => do
      let ts ← afterComma first ts
      match ts with
      | .mapEnd :: ts => .ok ([], ts)
      | .key :: ts =>
        let (key, ts) ← nodeUnless fuel .flow [.value, .comma, .mapEnd] ts
        let (value, ts) ← valueUnless fuel .flow [.comma, .mapEnd] ts
        let (entries, ts) ← flowEntries fuel false ts
        .ok ((key, value) :: entries, ts)
      | ts =>
        let (key, ts) ← node fuel .flow ts
        let (entries, ts) ← flowEntries fuel false ts
        .ok ((key, .empty) :: entries, ts)

end

/-- The tokens after the markers that end a document, where the text must end too. -/
def afterDocument : List Token → Except Fault Unit
  | [] => .ok ()
  | .documentEnd :: ts => afterDocument ts
  | ts => .error (refusal ts)

/-- The document of a text, by its tokens. A text may hold none. -/
def document (ts : List Token) : Except Fault (Option Node) := do
  let fuel := 4 * ts.length + 4
  match ts with
  | [] => .ok none
  | .documentStart :: rest =>
    let (root, rest) ←
      if rest.isEmpty then .ok (Node.empty, rest)
      else nodeUnless fuel .block [.documentStart, .documentEnd] rest
    afterDocument rest
    .ok (some root)
  | ts =>
    let (root, rest) ← node fuel .block ts
    afterDocument rest
    .ok (some root)

end LivePage.Yaml
