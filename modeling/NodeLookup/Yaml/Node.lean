import NodeLookup.Yaml.Token

/-!
# Documents

The tokens of a text as trees. Missing keys and values are null scalars, and an alias is the node that
last took its name.
-/

namespace NodeLookup.Yaml

/-- A node of a document. -/
inductive Node where
  | scalar (style : Style) (tag : Option Tag) (text : String)
  | sequence (items : List Node)
  | mapping (entries : List (Node × Node))
  /-- An alias of a list or mapping that it stands in. -/
  | enclosing
deriving Repr, Inhabited

/-- The scalar that stands where a node is missing. -/
def Node.missing : Node := .scalar .plain none "~"

/-- A name that a node has taken. -/
structure Anchor where
  name : String
  node : Option Node := none
deriving Repr, Inhabited

/-- What is known while tokens are made into nodes. -/
structure Parse where
  tokens : List Token
  anchors : List Anchor := []
deriving Repr, Inhabited

namespace Parse

/-- The next token. -/
def next? (parse : Parse) : Option Token := parse.tokens.head?

/-- Whether the next token is one of the given ones. -/
def isAt (parse : Parse) (tokens : List Token) : Bool :=
  match parse.next? with
  | none => false
  | some token => tokens.contains token

/-- Takes the next token away. -/
def skip (parse : Parse) : Parse := { parse with tokens := parse.tokens.drop 1 }

/-- Takes a name for a node to come. -/
def name (parse : Parse) (name : String) : Parse :=
  { parse with anchors := ⟨name, none⟩ :: parse.anchors }

/-- Completes the node whose name came after `count` others. -/
def complete (parse : Parse) (count : Nat) (node : Node) : Parse :=
  let later := parse.anchors.length - (count + 1)
  { parse with
    anchors := parse.anchors.take later ++
      ((parse.anchors.drop later).take 1).map (fun anchor => { anchor with node := some node }) ++
      parse.anchors.drop (later + 1) }

/-- The node that last took a name. -/
def named? (parse : Parse) (name : String) : Option Node :=
  (parse.anchors.find? (·.name == name)).map fun anchor => anchor.node.getD .enclosing

/-- What stands before the content of a node: its name and its tag, in either order. -/
def properties (parse : Parse) : Option String × Option Tag × Parse :=
  match parse.tokens with
  | .anchor name :: .tag tag :: rest => (some name, some tag, { parse with tokens := rest })
  | .tag tag :: .anchor name :: rest => (some name, some tag, { parse with tokens := rest })
  | .anchor name :: rest => (some name, none, { parse with tokens := rest })
  | .tag tag :: rest => (none, some tag, { parse with tokens := rest })
  | _ => (none, none, parse)

end Parse

/-- Makes an empty scalar of a node that has a name or a tag and nothing else. -/
def readEmpty (name : Option String) (tag : Option Tag) (parse : Parse) : Option (Node × Parse) :=
  if name.isSome || tag.isSome then some (.scalar .plain tag "", parse) else none

/-- Makes a list of its items. -/
def asSequence (result : Option (List Node × Parse)) : Option (Node × Parse) :=
  result.map fun (items, parse) => (.sequence items, parse)

/-- Makes a mapping of its entries. -/
def asMapping (result : Option (List (Node × Node) × Parse)) : Option (Node × Parse) :=
  result.map fun (entries, parse) => (.mapping entries, parse)

mutual

/-- Makes a node, in at most `limit` steps. A node by indentation may only start where `block` says
so, and a list by indentation may share its column with the mapping around it where `level` does. -/
def readNode : (limit : Nat) → (block level : Bool) → Parse → Option (Node × Parse)
  | 0, _, _, _ => none
  | limit + 1, block, level, parse =>
    match parse.next? with
    | some (.reference name) => (parse.named? name).map fun node => (node, parse.skip)
    | _ =>
      let (name, tag, rest) := parse.properties
      let count := rest.anchors.length
      let named := match name with
        | none => rest
        | some name => rest.name name
      let named? (result : Option (Node × Parse)) : Option (Node × Parse) :=
        match name with
        | none => result
        | some _ => result.map fun (node, parse) => (node, parse.complete count node)
      match named.next? with
      | some (.scalar style text) => named? (some (.scalar style tag text, named.skip))
      | some .flowSequenceStart => named? (asSequence (readFlowSequence limit true named.skip))
      | some .flowMappingStart => named? (asMapping (readFlowMapping limit true named.skip))
      | some .blockEntry =>
        if level then named? (asSequence (readLevelSequence limit named))
        else named? (readEmpty name tag named)
      | some .blockSequenceStart =>
        if block then named? (asSequence (readBlockSequence limit named.skip))
        else named? (readEmpty name tag named)
      | some .blockMappingStart =>
        if block then named? (asMapping (readBlockMapping limit named.skip))
        else named? (readEmpty name tag named)
      | _ => named? (readEmpty name tag named)

/-- Makes the rest of a list by indentation. -/
def readBlockSequence : (limit : Nat) → Parse → Option (List Node × Parse)
  | 0, _ => none
  | limit + 1, parse => do
    match parse.next? with
    | some .blockEnd => some ([], parse.skip)
    | some .blockEntry =>
      let (item, parse) ←
        if parse.skip.isAt [.blockEntry, .blockEnd] then some (Node.missing, parse.skip)
        else readNode limit true false parse.skip
      let (rest, parse) ← readBlockSequence limit parse
      some (item :: rest, parse)
    | _ => none

/-- Makes the rest of a list that shares its column with the mapping around it. -/
def readLevelSequence : (limit : Nat) → Parse → Option (List Node × Parse)
  | 0, _ => none
  | limit + 1, parse => do
    match parse.next? with
    | some .blockEntry =>
      let (item, parse) ←
        if parse.skip.isAt [.blockEntry, .key, .value, .blockEnd] then
          some (Node.missing, parse.skip)
        else readNode limit true false parse.skip
      let (rest, parse) ← readLevelSequence limit parse
      some (item :: rest, parse)
    | _ => some ([], parse)

/-- Makes the rest of a mapping by indentation. -/
def readBlockMapping : (limit : Nat) → Parse → Option (List (Node × Node) × Parse)
  | 0, _ => none
  | limit + 1, parse => do
    match parse.next? with
    | some .blockEnd => some ([], parse.skip)
    | some .key =>
      let (key, parse) ←
        if parse.skip.isAt [.key, .value, .blockEnd] then some (Node.missing, parse.skip)
        else readNode limit true true parse.skip
      let (value, parse) ← readBlockValue limit parse
      let (rest, parse) ← readBlockMapping limit parse
      some ((key, value) :: rest, parse)
    | some .value =>
      let (value, parse) ← readBlockValue limit parse
      let (rest, parse) ← readBlockMapping limit parse
      some ((Node.missing, value) :: rest, parse)
    | _ => none

/-- Makes the value of an entry of a mapping by indentation. -/
def readBlockValue : (limit : Nat) → Parse → Option (Node × Parse)
  | 0, _ => none
  | limit + 1, parse =>
    if parse.isAt [.value] then
      if parse.skip.isAt [.key, .value, .blockEnd] then some (Node.missing, parse.skip)
      else readNode limit true true parse.skip
    else some (Node.missing, parse)

/-- Makes the rest of a list between brackets. -/
def readFlowSequence : (limit : Nat) → (first : Bool) → Parse → Option (List Node × Parse)
  | 0, _, _ => none
  | limit + 1, first, parse => do
    if parse.isAt [.flowSequenceEnd] then some ([], parse.skip)
    else if !first && !parse.isAt [.flowEntry] then none
    else
      let parse := if first then parse else parse.skip
      if parse.isAt [.flowSequenceEnd] then some ([], parse.skip)
      else
        let (item, parse) ←
          if parse.isAt [.key] then readPair limit parse.skip else readNode limit false false parse
        let (rest, parse) ← readFlowSequence limit false parse
        some (item :: rest, parse)

/-- Makes the rest of an entry that stands in a list between brackets, as a mapping of its own. -/
def readPair : (limit : Nat) → Parse → Option (Node × Parse)
  | 0, _ => none
  | limit + 1, parse => do
    let (key, parse) ←
      if parse.isAt [.value, .flowEntry, .flowSequenceEnd] then some (Node.missing, parse.skip)
      else readNode limit false false parse
    let (value, parse) ←
      if parse.isAt [.value] then
        if parse.skip.isAt [.flowEntry, .flowSequenceEnd] then some (Node.missing, parse.skip)
        else readNode limit false false parse.skip
      else some (Node.missing, parse)
    some (.mapping [(key, value)], parse)

/-- Makes the rest of a mapping between braces. -/
def readFlowMapping :
    (limit : Nat) → (first : Bool) → Parse → Option (List (Node × Node) × Parse)
  | 0, _, _ => none
  | limit + 1, first, parse => do
    if parse.isAt [.flowMappingEnd] then some ([], parse.skip)
    else if !first && !parse.isAt [.flowEntry] then none
    else
      let parse := if first then parse else parse.skip
      if parse.isAt [.flowMappingEnd] then some ([], parse.skip)
      else if parse.isAt [.key] then
        let (key, parse) ←
          if parse.skip.isAt [.value, .flowEntry, .flowMappingEnd] then
            some (Node.missing, parse.skip)
          else readNode limit false false parse.skip
        let (value, parse) ← readFlowValue limit parse
        let (rest, parse) ← readFlowMapping limit false parse
        some ((key, value) :: rest, parse)
      else if parse.isAt [.value] then
        let (value, parse) ← readFlowValue limit parse
        let (rest, parse) ← readFlowMapping limit false parse
        some ((Node.missing, value) :: rest, parse)
      else
        let (key, parse) ← readNode limit false false parse
        let (rest, parse) ← readFlowMapping limit false parse
        some ((key, Node.missing) :: rest, parse)

/-- Makes the value of an entry of a mapping between braces. -/
def readFlowValue : (limit : Nat) → Parse → Option (Node × Parse)
  | 0, _ => none
  | limit + 1, parse =>
    if parse.isAt [.value] then
      if parse.skip.isAt [.flowEntry, .flowMappingEnd] then some (Node.missing, parse.skip)
      else readNode limit false false parse.skip
    else some (Node.missing, parse)

end

/-- Makes the content of a document whose start was marked. -/
def readContent (limit : Nat) (parse : Parse) : Option (Node × Parse) :=
  if parse.tokens.isEmpty || parse.isAt [.directive, .documentStart, .documentEnd] then
    some (Node.missing, parse)
  else readNode limit true false parse

/-- Makes the documents of a text, at most `limit` of them, each with names of its own. Only the first
may start without a mark. -/
def readDocuments : (limit : Nat) → (first : Bool) → List Token → Option (List Node)
  | 0, _, _ => none
  | limit + 1, first, tokens => do
    let tokens := if first then tokens else tokens.dropWhile (· == .documentEnd)
    let steps := 8 * tokens.length + 8
    match tokens with
    | [] => some []
    | token :: _ =>
      let marked := token == .directive || token == .documentStart
      if !marked && !first then none
      else
        let (node, parse) ←
          if marked then
            match tokens.dropWhile (· == .directive) with
            | .documentStart :: rest => readContent steps { tokens := rest }
            | _ => none
          else readNode steps true false { tokens }
        let rest := if parse.isAt [.documentEnd] then parse.skip else parse
        let more ← readDocuments limit false rest.tokens
        some (node :: more)

/-- The documents of a text, or nothing if it is malformed. -/
def Node.ofText? (text : List Char) : Option (List Node) := do
  let tokens ← Token.ofText? text
  readDocuments (tokens.length + 1) true tokens

end NodeLookup.Yaml
