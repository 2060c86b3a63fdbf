import Debate.Yaml.Cursor

/-!
# Nodes of a YAML text

* `Node`             a scalar, a list of nodes, or pairs of nodes;
* `Node.ofTokens`    the one node that tokens write; none for a text without a node.

A missing node is an empty plain scalar.
-/

namespace Debate.Yaml

/-- a scalar, a list of nodes, or pairs of nodes -/
inductive Node where
  | scalar (plain : Bool) (text : String)
  | sequence (items : List Node)
  | mapping (pairs : List (Node × Node))
  deriving Repr

namespace Node

/-- tokens that cannot go on like this, or the problem in front of which they end -/
def refuse {α : Type} : List Token → Except Problem α
  | .problem why :: _ => .error why
  | _ => .error .malformed

/-- the node that stands for a missing one -/
def missing : Node := .scalar true ""

/-- whether tokens start with one of those given -/
def starts (ts : List Token) (those : List Token) : Bool := (ts.head?.map those.contains).getD false

/-- the tokens after the comma that stands in front of all but the first -/
def separated (first : Bool) (ts : List Token) : Except Problem (List Token) :=
  if first then .ok ts
  else
    match ts with
    | .flowEntry :: ts => .ok ts
    | ts => refuse ts

mutual

/-- a node; by indentation only outside of brackets -/
def node (isBlock indentless : Bool) : Nat → List Token → Except Problem (Node × List Token)
  | 0, _ => .error .malformed
  | fuel + 1, .anchor _ :: ts =>
    match ts with
    | .anchor _ :: _ => .error .malformed
    | .scalar .. :: _ | .flowSequenceStart :: _ | .flowMappingStart :: _ => node isBlock indentless fuel ts
    | .blockSequenceStart :: _ | .blockMappingStart :: _ =>
      if isBlock then node isBlock indentless fuel ts else .ok (missing, ts)
    | .blockEntry :: _ => if indentless then node isBlock indentless fuel ts else .ok (missing, ts)
    | ts => .ok (missing, ts)
  | _, .scalar isPlain text :: ts => .ok (.scalar isPlain text, ts)
  | fuel + 1, .blockEntry :: ts =>
    if indentless then do
      let (items, ts) ← indentlessItems fuel (.blockEntry :: ts)
      return (.sequence items, ts)
    else .error .malformed
  | fuel + 1, .flowSequenceStart :: ts => do
    let (items, ts) ← flowItems true fuel ts
    return (.sequence items, ts)
  | fuel + 1, .flowMappingStart :: ts => do
    let (pairs, ts) ← flowPairs true fuel ts
    return (.mapping pairs, ts)
  | fuel + 1, .blockSequenceStart :: ts =>
    if isBlock then do
      let (items, ts) ← blockItems fuel ts
      return (.sequence items, ts)
    else .error .malformed
  | fuel + 1, .blockMappingStart :: ts =>
    if isBlock then do
      let (pairs, ts) ← blockPairs fuel ts
      return (.mapping pairs, ts)
    else .error .malformed
  | _, ts => refuse ts

/-- a node, or a missing one in front of one of the tokens given -/
def nodeUnless (isBlock indentless : Bool) (ends : List Token) : Nat → List Token → Except Problem (Node × List Token)
  | 0, _ => .error .malformed
  | fuel + 1, ts => if starts ts ends then .ok (missing, ts) else node isBlock indentless fuel ts

/-- the items of a list that is indented -/
def blockItems : Nat → List Token → Except Problem (List Node × List Token)
  | 0, _ => .error .malformed
  | fuel + 1, .blockEntry :: ts => do
    let (n, ts) ← nodeUnless true false [.blockEntry, .blockEnd] fuel ts
    let (ns, ts) ← blockItems fuel ts
    return (n :: ns, ts)
  | _, .blockEnd :: ts => .ok ([], ts)
  | _, ts => refuse ts

/-- the items of a list that is not indented further than the key before it -/
def indentlessItems : Nat → List Token → Except Problem (List Node × List Token)
  | 0, _ => .error .malformed
  | fuel + 1, .blockEntry :: ts => do
    let (n, ts) ← nodeUnless true false [.blockEntry, .key, .value, .blockEnd] fuel ts
    let (ns, ts) ← indentlessItems fuel ts
    return (n :: ns, ts)
  | _, ts => .ok ([], ts)

/-- the pairs of an object by indentation -/
def blockPairs : Nat → List Token → Except Problem (List (Node × Node) × List Token)
  | 0, _ => .error .malformed
  | fuel + 1, .key :: ts => do
    let (k, ts) ← nodeUnless true true [.key, .value, .blockEnd] fuel ts
    let (v, ts) ← blockValue fuel ts
    let (ps, ts) ← blockPairs fuel ts
    return ((k, v) :: ps, ts)
  | _, .blockEnd :: ts => .ok ([], ts)
  | _, ts => refuse ts

/-- the value of a pair by indentation -/
def blockValue : Nat → List Token → Except Problem (Node × List Token)
  | fuel + 1, .value :: ts => nodeUnless true true [.key, .value, .blockEnd] fuel ts
  | _, ts => .ok (missing, ts)

/-- the items of a list between brackets -/
def flowItems (first : Bool) : Nat → List Token → Except Problem (List Node × List Token)
  | 0, _ => .error .malformed
  | _, .flowSequenceEnd :: ts => .ok ([], ts)
  | fuel + 1, ts => do
    let ts ← separated first ts
    match ts with
    | .flowSequenceEnd :: ts => return ([], ts)
    | .key :: ts => do
      let (k, ts) ← nodeUnless false false [.value, .flowEntry, .flowSequenceEnd] fuel ts
      let (v, ts) ← flowValue .flowSequenceEnd fuel ts
      let (ns, ts) ← flowItems false fuel ts
      return (.mapping [(k, v)] :: ns, ts)
    | ts => do
      let (n, ts) ← node false false fuel ts
      let (ns, ts) ← flowItems false fuel ts
      return (n :: ns, ts)

/-- the pairs of an object between brackets -/
def flowPairs (first : Bool) : Nat → List Token → Except Problem (List (Node × Node) × List Token)
  | 0, _ => .error .malformed
  | _, .flowMappingEnd :: ts => .ok ([], ts)
  | fuel + 1, ts => do
    let ts ← separated first ts
    match ts with
    | .flowMappingEnd :: ts => return ([], ts)
    | .key :: ts => do
      let (k, ts) ← nodeUnless false false [.value, .flowEntry, .flowMappingEnd] fuel ts
      let (v, ts) ← flowValue .flowMappingEnd fuel ts
      let (ps, ts) ← flowPairs false fuel ts
      return ((k, v) :: ps, ts)
    | ts => do
      let (k, ts) ← node false false fuel ts
      let (ps, ts) ← flowPairs false fuel ts
      return ((k, missing) :: ps, ts)

/-- the value of a pair between brackets -/
def flowValue (ending : Token) : Nat → List Token → Except Problem (Node × List Token)
  | fuel + 1, .value :: ts => nodeUnless false false [.flowEntry, ending] fuel ts
  | _, ts => .ok (missing, ts)

end

/-- tokens without the markers of a document's end -/
def skipDocumentEnds (ts : List Token) : List Token := ts.dropWhile (· = .documentEnd)

/-- tokens after directives, in front of which nothing more can be read -/
def afterDirectives (ts : List Token) : List Token := ts.dropWhile (· = .directive)

/-- the one node that tokens write -/
def ofTokens (ts : List Token) : Except Problem (Option Node) :=
  if ts = [.streamEnd] then .ok none
  else if ts.head? = some .directive then refuse (afterDirectives ts)
  else do
    let (n, rest) ← node true false (4 * ts.length + 4) ts
    let rest := skipDocumentEnds rest
    if rest = [.streamEnd] then return some n else refuse (afterDirectives rest)

end Node

end Debate.Yaml
