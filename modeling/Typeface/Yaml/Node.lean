import Typeface.Yaml.Tag
import Typeface.Yaml.Token

/-!
# Nodes

The document of a YAML text as a tree: texts, sequences and mappings, each with
its tag.  A reference repeats the node that it names; inside of that node it
stands for an empty one.  Collections nest to a depth that the reader is given.
-/

namespace Typeface.Yaml

inductive Node
  | scalar (tag : Tag) (codes : List Nat)
  | sequence (tag : Tag) (items : List Node)
  | mapping (tag : Tag) (entries : List (Node × Node))

namespace Node

instance : Inhabited Node := ⟨.scalar .null []⟩

/-- What is left out stands for nothing. -/
def absent : Node := .scalar .null []

/-- The handles that every document has. -/
def commonHandles : List (String × String) :=
  [("!", "!"), ("!!", "tag:yaml.org,2002:")]

/-- The tokens still to be read, and the nodes that have names. -/
structure Rest where
  tokens : List Token
  anchors : List (String × Node)

namespace Rest

def skip (rest : Rest) (count : Nat) : Rest :=
  { rest with tokens := rest.tokens.drop count }

def head? (rest : Rest) : Option Token :=
  rest.tokens.head?

/-- Stops at a token that does not belong here. -/
def refuse {α : Type} (rest : Rest) : Except Mishap α :=
  match rest.tokens with
  | .failure mishap :: _ => .error mishap
  | _ => malformed

/-- Names a node.  A name is given once. -/
def introduce (rest : Rest) (name : Option String) (node : Node) : Except Mishap Rest :=
  match name with
  | none => .ok rest
  | some name =>
    if (rest.anchors.lookup name).isSome then malformed
    else .ok { rest with anchors := (name, node) :: rest.anchors }

/-- Puts the finished node in place of what stood for it. -/
def complete (rest : Rest) (name : Option String) (node : Node) : Rest :=
  match name with
  | none => rest
  | some name =>
    { rest with anchors := rest.anchors.map fun entry =>
        if entry.1 == name then (name, node) else entry }

end Rest

/-- What may stand before a node: its name and its tag. -/
structure Properties where
  anchor : Option String
  tag : Option String

/-- The full name of a tag. -/
def tagName (handles : List (String × String)) (handle : Option String) (suffix : String) :
    Except Mishap String :=
  match handle with
  | none => .ok suffix
  | some name =>
    match handles.lookup name with
    | some stem => .ok (stem ++ suffix)
    | none => malformed

def properties (handles : List (String × String)) (rest : Rest) :
    Except Mishap (Properties × Rest) :=
  match rest.tokens with
  | .anchor name :: .tag handle suffix :: _ | .tag handle suffix :: .anchor name :: _ => do
    let tag ← tagName handles handle suffix
    return ({ anchor := some name, tag := some tag }, rest.skip 2)
  | .anchor name :: _ => .ok ({ anchor := some name, tag := none }, rest.skip 1)
  | .tag handle suffix :: _ => do
    let tag ← tagName handles handle suffix
    return ({ anchor := none, tag := some tag }, rest.skip 1)
  | _ => .ok ({ anchor := none, tag := none }, rest)

/-- The tag of a text: a plain one has the tag of its form unless another is named. -/
def scalarTag (plain : Bool) (codes : List Nat) (tag : Option String) : Tag :=
  let byForm := match codes.mapM Text.scalar? with
    | some letters => Tag.ofForm letters
    | none => .text
  match tag with
  | none => if plain then byForm else .text
  | some "!" => byForm
  | some name => Tag.ofName name

/-- The tag of a collection. -/
def collectionTag (standard : Tag) (tag : Option String) : Tag :=
  match tag with
  | none => standard
  | some "!" => standard
  | some name => Tag.ofName name

/-- Where a node stands decides which collections may begin there. -/
inductive Setting
  | flow
  | block
  /-- After a key or a colon in a block mapping, where a sequence needs no indentation. -/
  | entry
deriving DecidableEq, Repr

/-- The tokens before which the key or the value of a block mapping is absent. -/
def endsBlockPart : Option Token → Bool
  | some .key | some .value | some .blockEnd => true
  | _ => false

/-- The tokens before which an item of a block sequence is absent. -/
def endsBlockItem : Option Token → Bool
  | some .blockEntry | some .blockEnd => true
  | _ => false

/-- The tokens before which a part of an entry in a flow collection is absent. -/
def endsFlowPart (closing : Token) (token : Option Token) : Bool :=
  token == some .flowEntry || token == some closing

/-- The depth that is left inside of a collection. -/
def inward : Nat → Except Mishap Nat
  | 0 => .error .tooDeep
  | inner + 1 => .ok inner

mutual

/-- A node.  The first argument bounds the number of nodes, and the second one is the depth to which
collections may nest. -/
def node (handles : List (String × String)) :
    Nat → Nat → Setting → Rest → Except Mishap (Node × Rest)
  | 0, _, _, _ => malformed
  | steps + 1, depth, setting, rest =>
    match rest.tokens with
    | .reference name :: _ =>
      match rest.anchors.lookup name with
      | some known => .ok (known, rest.skip 1)
      | none => malformed
    | _ => do
      let (given, rest) ← properties handles rest
      match rest.head? with
      | some (.scalar plain codes) =>
        let made := Node.scalar (scalarTag plain codes given.tag) codes
        let rest ← (rest.skip 1).introduce given.anchor made
        return (made, rest)
      | some .flowSequence => do
        let tag := collectionTag .list given.tag
        let rest ← (rest.skip 1).introduce given.anchor (.sequence tag [])
        let inner ← inward depth
        let (items, rest) ← flowItems handles steps inner true rest
        return (.sequence tag items, rest.complete given.anchor (.sequence tag items))
      | some .flowMapping => do
        let tag := collectionTag .mapping given.tag
        let rest ← (rest.skip 1).introduce given.anchor (.mapping tag [])
        let inner ← inward depth
        let (entries, rest) ← flowEntries handles steps inner true rest
        return (.mapping tag entries, rest.complete given.anchor (.mapping tag entries))
      | some .blockEntry =>
        if setting == .entry then do
          let tag := collectionTag .list given.tag
          let rest ← rest.introduce given.anchor (.sequence tag [])
          let inner ← inward depth
          let (items, rest) ← looseItems handles steps inner rest
          return (.sequence tag items, rest.complete given.anchor (.sequence tag items))
        else emptyNode given rest
      | some .blockSequence =>
        if setting == .flow then emptyNode given rest
        else do
          let tag := collectionTag .list given.tag
          let rest ← (rest.skip 1).introduce given.anchor (.sequence tag [])
          let inner ← inward depth
          let (items, rest) ← blockItems handles steps inner rest
          return (.sequence tag items, rest.complete given.anchor (.sequence tag items))
      | some .blockMapping =>
        if setting == .flow then emptyNode given rest
        else do
          let tag := collectionTag .mapping given.tag
          let rest ← (rest.skip 1).introduce given.anchor (.mapping tag [])
          let inner ← inward depth
          let (entries, rest) ← blockEntries handles steps inner rest
          return (.mapping tag entries, rest.complete given.anchor (.mapping tag entries))
      | _ => emptyNode given rest

/-- A node of which only its name or its tag is written. -/
def emptyNode (given : Properties) (rest : Rest) : Except Mishap (Node × Rest) :=
  match rest.tokens with
  | .failure mishap :: _ => .error mishap
  | _ =>
    if given.anchor.isNone && given.tag.isNone then malformed
    else do
      let made := Node.scalar (scalarTag true [] given.tag) []
      let rest ← rest.introduce given.anchor made
      return (made, rest)

/-- The items of a block sequence, each after its mark. -/
def blockItems (handles : List (String × String)) :
    Nat → Nat → Rest → Except Mishap (List Node × Rest)
  | 0, _, _ => malformed
  | steps + 1, depth, rest =>
    match rest.head? with
    | some .blockEnd => .ok ([], rest.skip 1)
    | some .blockEntry => do
      let rest := rest.skip 1
      let (item, rest) ←
        if endsBlockItem rest.head? then .ok (absent, rest) else node handles steps depth .block rest
      let (items, rest) ← blockItems handles steps depth rest
      return (item :: items, rest)
    | _ => rest.refuse

/-- The items of a sequence without indentation, which ends where no mark follows. -/
def looseItems (handles : List (String × String)) :
    Nat → Nat → Rest → Except Mishap (List Node × Rest)
  | 0, _, _ => malformed
  | steps + 1, depth, rest =>
    match rest.head? with
    | some .blockEntry => do
      let rest := rest.skip 1
      let (item, rest) ←
        if endsBlockItem rest.head? || endsBlockPart rest.head? then .ok (absent, rest)
        else node handles steps depth .block rest
      let (items, rest) ← looseItems handles steps depth rest
      return (item :: items, rest)
    | _ => .ok ([], rest)

/-- The entries of a block mapping. -/
def blockEntries (handles : List (String × String)) :
    Nat → Nat → Rest → Except Mishap (List (Node × Node) × Rest)
  | 0, _, _ => malformed
  | steps + 1, depth, rest =>
    match rest.head? with
    | some .blockEnd => .ok ([], rest.skip 1)
    | some .key => do
      let rest := rest.skip 1
      let (key, rest) ←
        if endsBlockPart rest.head? then .ok (absent, rest) else node handles steps depth .entry rest
      let (content, rest) ← blockValue handles steps depth rest
      let (entries, rest) ← blockEntries handles steps depth rest
      return ((key, content) :: entries, rest)
    | _ => rest.refuse

/-- The value of an entry in a block mapping, after its colon. -/
def blockValue (handles : List (String × String)) :
    Nat → Nat → Rest → Except Mishap (Node × Rest)
  | 0, _, _ => malformed
  | steps + 1, depth, rest =>
    if rest.head? == some .value then
      let rest := rest.skip 1
      if endsBlockPart rest.head? then .ok (absent, rest) else node handles steps depth .entry rest
    else .ok (absent, rest)

/-- The comma before an entry of a flow collection.  The first entry has none. -/
def flowComma (closing : Token) (first : Bool) (rest : Rest) : Except Mishap Rest :=
  if first || rest.head? == some closing then .ok rest
  else if rest.head? == some .flowEntry then .ok (rest.skip 1)
  else rest.refuse

/-- The items of a flow sequence.  An item with a colon is a mapping of one entry. -/
def flowItems (handles : List (String × String)) :
    Nat → Nat → Bool → Rest → Except Mishap (List Node × Rest)
  | 0, _, _, _ => malformed
  | steps + 1, depth, first, rest => do
    let rest ← flowComma .flowSequenceEnd first rest
    match rest.head? with
    | some .flowSequenceEnd => return ([], rest.skip 1)
    | some .key => do
      let inner ← inward depth
      let (entry, rest) ← flowEntry handles steps inner .flowSequenceEnd (rest.skip 1)
      let (items, rest) ← flowItems handles steps depth false rest
      return (.mapping .mapping [entry] :: items, rest)
    | _ => do
      let (item, rest) ← node handles steps depth .flow rest
      let (items, rest) ← flowItems handles steps depth false rest
      return (item :: items, rest)

/-- The entries of a flow mapping.  A text alone is a key without a value. -/
def flowEntries (handles : List (String × String)) :
    Nat → Nat → Bool → Rest → Except Mishap (List (Node × Node) × Rest)
  | 0, _, _, _ => malformed
  | steps + 1, depth, first, rest => do
    let rest ← flowComma .flowMappingEnd first rest
    match rest.head? with
    | some .flowMappingEnd => return ([], rest.skip 1)
    | some .key => do
      let (entry, rest) ← flowEntry handles steps depth .flowMappingEnd (rest.skip 1)
      let (entries, rest) ← flowEntries handles steps depth false rest
      return (entry :: entries, rest)
    | _ => do
      let (key, rest) ← node handles steps depth .flow rest
      let (entries, rest) ← flowEntries handles steps depth false rest
      return ((key, absent) :: entries, rest)

/-- An entry of a flow collection, after the mark of its key. -/
def flowEntry (handles : List (String × String)) :
    Nat → Nat → Token → Rest → Except Mishap ((Node × Node) × Rest)
  | 0, _, _, _ => malformed
  | steps + 1, depth, closing, rest => do
    let (key, rest) ←
      if rest.head? == some .value || endsFlowPart closing rest.head? then .ok (absent, rest)
      else node handles steps depth .flow rest
    if rest.head? == some .value then
      let rest := rest.skip 1
      if endsFlowPart closing rest.head? then return ((key, absent), rest)
      else
        let (content, rest) ← node handles steps depth .flow rest
        return ((key, content), rest)
    else return ((key, absent), rest)

end

/-- The handles that directives give, and the tokens after them. -/
def directives (version : Bool) (handles : List (String × String)) :
    List Token → Except Mishap (List (String × String) × List Token)
  | .version major :: rest =>
    if version || major != 1 then malformed else directives true handles rest
  | .handle name stem :: rest =>
    if (handles.lookup name).isSome then malformed
    else directives version (handles ++ [(name, stem)]) rest
  | .directive :: rest => directives version handles rest
  | rest => .ok (handles, rest)

/-- Nothing but marks of a document's end may follow the document. -/
def atEnd : List Token → Except Mishap Unit
  | .documentEnd :: rest => atEnd rest
  | [.streamEnd] => .ok ()
  | tokens => do
    let (_, rest) ← directives false [] tokens
    match rest with
    | .failure mishap :: _ => .error mishap
    | _ => malformed

/-- The document of a text, if it holds one, with collections nested no deeper than given. -/
def ofTokens (depth : Nat) (tokens : List Token) : Except Mishap (Option Node) := do
  match tokens with
  | [.streamEnd] => return none
  | .documentStart :: _ | .version _ :: _ | .handle .. :: _ | .directive :: _ =>
    let (handles, rest) ← directives false [] tokens
    match rest with
    | .documentStart :: rest =>
      match rest with
      | .version _ :: _ | .handle .. :: _ | .directive :: _ | .documentStart :: _
      | .documentEnd :: _ | .streamEnd :: _ =>
        atEnd rest
        return some absent
      | _ =>
        let (root, rest) ←
          node (handles ++ commonHandles) (tokens.length + 1) depth .block
            { tokens := rest, anchors := [] }
        atEnd rest.tokens
        return some root
    | .failure mishap :: _ => .error mishap
    | _ => malformed
  | _ =>
    let (root, rest) ←
      node commonHandles (tokens.length + 1) depth .block { tokens, anchors := [] }
    atEnd rest.tokens
    return some root

end Node

end Typeface.Yaml
