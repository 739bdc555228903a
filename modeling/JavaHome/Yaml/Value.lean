import JavaHome.Text.Quoted
import JavaHome.Yaml.Tokens
import JavaHome.Yaml.Tree

/-!
# Values of a document

A document with its aliases followed: all scalars are texts as written, mappings have texts as keys,
and of equal keys the last one counts. An alias stands for the node that its anchor names, which
must be complete by then. Values are made of a document that is read to its end.
-/

namespace JavaHome.Yaml

/-- A value of a document. Mappings keep their keys in the order in which they first come. -/
inductive Value where
  | scalar (text : String)
  | sequence (items : List Value)
  | mapping (pairs : List (String × Value))

/-- What an anchor names, once the node is complete. -/
abbrev Anchors := List (List Char × Option Value)

namespace Value

/-- The pairs of a mapping with a value given to a key. -/
def putPair (key : String) (value : Value) : List (String × Value) → List (String × Value)
  | [] => [(key, value)]
  | pair :: rest => if pair.1 = key then (key, value) :: rest else pair :: putPair key value rest

/-- The pairs of a mapping, from the keys and values as written. Only texts are keys. -/
def ofPairs : List (String × Value) → List (Value × Value) → Option (List (String × Value))
  | pairs, [] => some pairs
  | pairs, (.scalar key, value) :: rest => ofPairs (putPair key value pairs) rest
  | _, _ => none

/-- The anchors with one more, whose node is not complete. -/
def openAnchor (anchors : Anchors) : Option (List Char) → Anchors
  | none => anchors
  | some name => (name, none) :: anchors

/-- The anchors with the node of one complete. -/
def closeAnchor (anchors : Anchors) (value : Value) : Option (List Char) → Anchors
  | none => anchors
  | some name => (name, some value) :: anchors

mutual

/-- The value of a node, given the anchors so far; and the anchors after it. -/
def ofTree (anchors : Anchors) : Tree → Option (Value × Anchors)
  | .reference name =>
    match anchors.lookup name with
    | some (some value) => some (value, anchors)
    | _ => none
  | .scalar anchor text =>
    let value := scalar (String.ofList text)
    some (value, closeAnchor anchors value anchor)
  | .sequence anchor items => do
    let (values, anchors) ← ofItems (openAnchor anchors anchor) items
    let value := sequence values
    return (value, closeAnchor anchors value anchor)
  | .mapping anchor pairs => do
    let (values, anchors) ← ofTreePairs (openAnchor anchors anchor) pairs
    let value := mapping (← ofPairs [] values)
    return (value, closeAnchor anchors value anchor)

/-- The values of the items of a sequence. -/
def ofItems (anchors : Anchors) : List Tree → Option (List Value × Anchors)
  | [] => some ([], anchors)
  | item :: rest => do
    let (value, anchors) ← ofTree anchors item
    let (values, anchors) ← ofItems anchors rest
    return (value :: values, anchors)

/-- The values of the keys and values of a mapping. -/
def ofTreePairs (anchors : Anchors) :
    List (Tree × Tree) → Option (List (Value × Value) × Anchors)
  | [] => some ([], anchors)
  | (key, value) :: rest => do
    let (key, anchors) ← ofTree anchors key
    let (value, anchors) ← ofTree anchors value
    let (pairs, anchors) ← ofTreePairs anchors rest
    return ((key, value) :: pairs, anchors)

end

mutual

/-- A value as text within a collection: scalars are quoted. -/
def quotedText : Value → String
  | scalar text => Text.quoted text
  | sequence items => "[" ++ itemsText items ++ "]"
  | mapping pairs => "\x7b" ++ pairsText pairs ++ "\x7d"

/-- Items with commas between them. -/
def itemsText : List Value → String
  | [] => ""
  | [item] => quotedText item
  | item :: rest => quotedText item ++ ", " ++ itemsText rest

/-- Pairs with commas between them. -/
def pairsText : List (String × Value) → String
  | [] => ""
  | [(key, value)] => Text.quoted key ++ ": " ++ quotedText value
  | (key, value) :: rest => Text.quoted key ++ ": " ++ quotedText value ++ ", " ++ pairsText rest

end

/-- A value as text: scalars as they are, collections with brackets. -/
def text : Value → String
  | scalar text => text
  | value => quotedText value

/-- Whether a value says nothing: the empty text or an empty collection. -/
def isEmpty : Value → Bool
  | scalar text => text = ""
  | sequence items => items.isEmpty
  | mapping pairs => pairs.isEmpty

end Value

/-- The document in a text, if there is one. A fault in the text is met only where the document goes
on that far; a document that needs more than there is in front of the fault has that fault. -/
def document? (text : List Char) : Except Fault (Option Value) :=
  let stream := (Stream.ofText text).checked
  match Tree.ofTokens stream.tokens with
  | .error .broken => .error .malformed
  | .error .exhausted => .error (stream.fault.getD .malformed)
  | .ok none => .ok none
  | .ok (some tree) =>
    match Value.ofTree [] tree with
    | some (value, _) => .ok (some value)
    | none => .error .malformed

/-- What a reader of texts adds to the language: how it words what is wrong with a text, and whether
the document of a text takes more of its stack than there is, which depends on who calls it. Any
stack is enough for a document with one collection. -/
structure Manner where
  complaint : List Char → String
  exhausts : List Char → Bool
  exhausts_flat : ∀ text, (Stream.ofText text).tokens.countP Token.opensCollection ≤ 1 →
    exhausts text = false

/-- A reader of few words with all the stack that it wants. -/
def Manner.plain : Manner :=
  ⟨fun _ => "no YAML", fun _ => false, fun _ _ => rfl⟩

end JavaHome.Yaml
