import JavaHome.Yaml.Token

/-!
# Trees of a document

What the tokens of a text say before aliases are followed: scalars, sequences and mappings, each
with the name under which an anchor makes it known, and aliases. A stream holds at most one
document. Tokens are taken one by one, so a broken rule is found before what comes after it.
-/

namespace JavaHome.Yaml

/-- A node as written. -/
inductive Tree where
  | reference (name : List Char)
  | scalar (anchor : Option (List Char)) (text : List Char)
  | sequence (anchor : Option (List Char)) (items : List Tree)
  | mapping (anchor : Option (List Char)) (pairs : List (Tree × Tree))

/-- The anchor and tag in front of a node: the name, whether there is any of the two, and the tokens
after them. -/
structure NodeProperties where
  anchor : Option (List Char)
  isGiven : Bool
  rest : List Token

namespace Tree

/-- Why some tokens spell no document: they break a rule, or there are no more of them where one is
wanted. -/
inductive Stop where
  | broken
  | exhausted
  deriving Repr, DecidableEq

/-- What stops at some tokens that nothing can begin with. -/
def Stop.before : List Token → Stop
  | [] => exhausted
  | _ => broken

/-- The node of which nothing is written. -/
def blank : Tree :=
  scalar none []

/-- Whether a tag with that handle is defined. -/
def isDefined (handles : List (List Char)) : Option (List Char) → Bool
  | none => true
  | some handle => handles.contains handle

/-- The anchor and the tag at the head of some tokens, in either order. -/
def nodeProperties (handles : List (List Char)) : List Token → Except Stop NodeProperties
  | .anchor name :: .tag handle :: rest =>
    if isDefined handles handle then .ok ⟨some name, true, rest⟩ else .error .broken
  | .tag handle :: .anchor name :: rest =>
    if isDefined handles handle then .ok ⟨some name, true, rest⟩ else .error .broken
  | [.tag _] => .error .exhausted
  | .anchor name :: rest => .ok ⟨some name, true, rest⟩
  | .tag handle :: rest =>
    if isDefined handles handle then .ok ⟨none, true, rest⟩ else .error .broken
  | rest => .ok ⟨none, false, rest⟩

/-- Where a node stands: between brackets, in a block, or as key or value of a block mapping, where
a sequence need not be indented. -/
inductive Position where
  | flow
  | block
  | blockPair
  deriving Repr, DecidableEq

/-- Whether some tokens begin with one of a kind. -/
def headIs (p : Token → Bool) : List Token → Bool
  | [] => false
  | token :: _ => p token

/-- The tokens that end a key or value of a block mapping. -/
def endsBlockPart : Token → Bool
  | .key => true
  | .value => true
  | .blockEnd => true
  | _ => false

/-- The tokens that end an entry of a block sequence. -/
def endsBlockEntry : Token → Bool
  | .blockEntry => true
  | .blockEnd => true
  | _ => false

/-- The tokens that end an entry of a sequence that is not indented. -/
def endsFlatEntry : Token → Bool
  | .blockEntry => true
  | token => endsBlockPart token

/-- The tokens that end a key between brackets that close with a given one. -/
def endsFlowKey (closing : Token) : Token → Bool
  | .value => true
  | .flowEntry => true
  | token => token = closing

/-- The tokens that end a value between brackets that close with a given one. -/
def endsFlowValue (closing : Token) : Token → Bool
  | .flowEntry => true
  | token => token = closing

/-- A reader of nodes: given where the node stands, the node at the head of some tokens and the
tokens after it. -/
abbrev NodeReader := Position → List Token → Except Stop (Tree × List Token)

/-- The node at the head of some tokens, or the blank node before a token of a kind. -/
def nodeUnless (node : NodeReader) (position : Position) (ends : Token → Bool)
    (tokens : List Token) : Except Stop (Tree × List Token) :=
  if headIs ends tokens then .ok (blank, tokens) else node position tokens

/-- The value at the head of some tokens, if one is there. -/
def valueUnless (node : NodeReader) (position : Position) (ends : Token → Bool) :
    List Token → Except Stop (Tree × List Token)
  | .value :: rest => nodeUnless node position ends rest
  | rest => .ok (blank, rest)

/-- The entries of a block sequence. -/
def blockEntries (node : NodeReader) : Nat → List Token → Except Stop (List Tree × List Token)
  | fuel + 1, .blockEntry :: rest => do
    let (item, rest) ← nodeUnless node .block endsBlockEntry rest
    let (more, rest) ← blockEntries node fuel rest
    return (item :: more, rest)
  | _, .blockEnd :: rest => .ok ([], rest)
  | _, rest => .error (.before rest)

/-- The entries of a sequence that is not indented. -/
def flatEntries (node : NodeReader) : Nat → List Token → Except Stop (List Tree × List Token)
  | fuel + 1, .blockEntry :: rest => do
    let (item, rest) ← nodeUnless node .block endsFlatEntry rest
    let (more, rest) ← flatEntries node fuel rest
    return (item :: more, rest)
  | _, rest => .ok ([], rest)

/-- The pairs of a block mapping. -/
def blockPairs (node : NodeReader) :
    Nat → List Token → Except Stop (List (Tree × Tree) × List Token)
  | fuel + 1, .key :: rest => do
    let (key, rest) ← nodeUnless node .blockPair endsBlockPart rest
    let (value, rest) ← valueUnless node .blockPair endsBlockPart rest
    let (more, rest) ← blockPairs node fuel rest
    return ((key, value) :: more, rest)
  | _, .blockEnd :: rest => .ok ([], rest)
  | _, rest => .error (.before rest)

/-- The tokens after the comma between two entries. -/
def afterComma : List Token → Except Stop (List Token)
  | .flowEntry :: rest => .ok rest
  | rest => .error (.before rest)

/-- The entries of a sequence between brackets; a pair among them is a mapping of its own. -/
def flowEntries (node : NodeReader) :
    Nat → Bool → List Token → Except Stop (List Tree × List Token)
  | _, _, .flowSequenceEnd :: rest => .ok ([], rest)
  | 0, _, rest => .error (.before rest)
  | fuel + 1, isFirst, tokens => do
    match ← (if isFirst then pure tokens else afterComma tokens) with
    | .flowSequenceEnd :: rest => return ([], rest)
    | .key :: rest =>
      let (key, rest) ← nodeUnless node .flow (endsFlowKey .flowSequenceEnd) rest
      let (value, rest) ← valueUnless node .flow (endsFlowValue .flowSequenceEnd) rest
      let (more, rest) ← flowEntries node fuel false rest
      return (mapping none [(key, value)] :: more, rest)
    | rest =>
      let (item, rest) ← node .flow rest
      let (more, rest) ← flowEntries node fuel false rest
      return (item :: more, rest)

/-- The pairs of a mapping between braces; a node without a colon is a key with a blank value. -/
def flowPairs (node : NodeReader) :
    Nat → Bool → List Token → Except Stop (List (Tree × Tree) × List Token)
  | _, _, .flowMappingEnd :: rest => .ok ([], rest)
  | 0, _, rest => .error (.before rest)
  | fuel + 1, isFirst, tokens => do
    match ← (if isFirst then pure tokens else afterComma tokens) with
    | .flowMappingEnd :: rest => return ([], rest)
    | .key :: rest =>
      let (key, rest) ← nodeUnless node .flow (endsFlowKey .flowMappingEnd) rest
      let (value, rest) ← valueUnless node .flow (endsFlowValue .flowMappingEnd) rest
      let (more, rest) ← flowPairs node fuel false rest
      return ((key, value) :: more, rest)
    | rest =>
      let (key, rest) ← node .flow rest
      let (more, rest) ← flowPairs node fuel false rest
      return ((key, blank) :: more, rest)

/-- The content of a node after its anchor and tag. -/
def content (node : NodeReader) (position : Position) (anchor : Option (List Char)) (isGiven : Bool)
    (tokens : List Token) : Except Stop (Tree × List Token) :=
  match tokens with
  | [] => .error .exhausted
  | .scalar text :: rest => .ok (scalar anchor text, rest)
  | .flowSequenceStart :: rest =>
    (flowEntries node rest.length true rest).map fun (items, rest) => (sequence anchor items, rest)
  | .flowMappingStart :: rest =>
    (flowPairs node rest.length true rest).map fun (pairs, rest) => (mapping anchor pairs, rest)
  | .blockSequenceStart :: rest =>
    if position = .flow then otherwise
    else (blockEntries node rest.length rest).map fun (items, rest) => (sequence anchor items, rest)
  | .blockMappingStart :: rest =>
    if position = .flow then otherwise
    else (blockPairs node rest.length rest).map fun (pairs, rest) => (mapping anchor pairs, rest)
  | .blockEntry :: _ =>
    if position = .blockPair then
      (flatEntries node tokens.length tokens).map fun (items, rest) => (sequence anchor items, rest)
    else otherwise
  | _ => otherwise
where
  otherwise : Except Stop (Tree × List Token) :=
    if isGiven then .ok (scalar anchor [], tokens) else .error .broken

/-- The node at the head of some tokens, with collections nested at most `depth` deep. -/
def node (handles : List (List Char)) : Nat → NodeReader
  | 0, _, rest => .error (.before rest)
  | _, _, .reference name :: rest => .ok (reference name, rest)
  | depth + 1, position, tokens => do
    let before ← nodeProperties handles tokens
    content (node handles depth) position before.anchor before.isGiven before.rest

/-- The tag handles that the directives before a document define, and the tokens after them, given
the handles that are defined so far and whether the version was named. -/
def directives (handles : List (List Char)) (hasVersion : Bool) :
    List Token → Except Stop (List (List Char) × List Token)
  | .directive (.version major) :: rest =>
    if hasVersion ∨ major ≠ 1 then .error .broken else directives handles true rest
  | .directive (.tagHandle handle) :: rest =>
    if handle ∈ handles then .error .broken else directives (handle :: handles) hasVersion rest
  | .directive .other :: rest => directives handles hasVersion rest
  | rest => .ok (handles, rest)

/-- The tag handles that are always defined. -/
def defaultHandles : List (List Char) := [['!'], ['!', '!']]

/-- The tokens that end a document which has a start mark but no node. -/
def endsDocument : Token → Bool
  | .directive _ => true
  | .documentStart => true
  | .documentEnd => true
  | .streamEnd => true
  | _ => false

/-- Nothing may follow a document but marks of its end. Of a second one no more is read than its
directives and its start mark. -/
def expectEnd (tokens : List Token) : Except Stop Unit :=
  match tokens.dropWhile (· = .documentEnd) with
  | .streamEnd :: _ => .ok ()
  | rest => do
    let (_, rest) ← directives [] false rest
    throw (.before rest)

/-- The document that tokens spell, if there is one. -/
def ofTokens (tokens : List Token) : Except Stop (Option Tree) := do
  match tokens with
  | .streamEnd :: _ => return none
  | .directive _ :: _ => explicit
  | .documentStart :: _ => explicit
  | _ =>
    let (tree, rest) ← node defaultHandles tokens.length .block tokens
    expectEnd rest
    return some tree
where
  explicit : Except Stop (Option Tree) := do
    let (handles, rest) ← directives [] false tokens
    match rest with
    | .documentStart :: rest =>
      let (tree, rest) ←
        nodeUnless (node (handles ++ defaultHandles) tokens.length) .block endsDocument rest
      expectEnd rest
      return some tree
    | rest => throw (.before rest)

end Tree

end JavaHome.Yaml
