import Gateway.Yaml.Token

/-!
# Nodes of a document

Tokens are read into a tree of nodes. A node may carry an anchor, and an alias stands for the node
with its anchor. Every anchor gets a number when it is read, the count of different names before it;
an alias keeps the number that its name has at that place.
-/

namespace Gateway.Yaml

/-- A node with its anchor and its tag. -/
inductive Node where
  | alias (anchor : Nat)
  | scalar (anchor : Option Nat) (tag : Option (List Char)) (style : Style) (text : List Char)
  | sequence (anchor : Option Nat) (tag : Option (List Char)) (items : List Node)
  | mapping (anchor : Option Nat) (tag : Option (List Char)) (entries : List (Node × Node))
deriving Repr

/-- The node that stands where nothing is written. -/
def Node.empty : Node := .scalar none none .plain []

/-! ## Reading tokens -/

/-- The tokens still to read, and the names met before them. -/
structure Reader where
  tokens : List Token
  /-- What each handle of a tag stands for. -/
  handles : List (List Char × List Char)
  /-- The number of each anchor. -/
  anchors : List (List Char × Nat)

namespace Reader

/-- The next token. -/
def head (r : Reader) : Option Token := r.tokens.head?

/-- The reader after the next token. -/
def skip (r : Reader) : Reader := { r with tokens := r.tokens.drop 1 }

/-- Whether the next token is the one given. -/
def isAt (r : Reader) (t : Token) : Bool := r.head == some t

/-- Whether the next token is one of those given; the end counts as all of them. -/
def isAtAny (r : Reader) (ts : List Token) : Bool := r.head.all ts.contains

/-- The number of a new anchor, and the reader that knows it. -/
def addAnchor (r : Reader) (name : List Char) : Nat × Reader :=
  let n := r.anchors.length
  (n, { r with anchors := (name, n) :: r.anchors.filter (·.1 ≠ name) })

/-- What a tag stands for: its suffix after the stem of its handle. -/
def tagText? (r : Reader) (handle suffix : List Char) : Option (List Char) :=
  if handle.isEmpty then some suffix else (r.handles.lookup handle).map (· ++ suffix)

/-- The anchor and the tag before a node, in either order. -/
def properties? (r : Reader) : Option (Option Nat × Option (List Char) × Reader) :=
  match r.tokens with
  | .anchor name :: .tag handle suffix :: _ => do
    let (n, after) := r.skip.skip.addAnchor name
    some (some n, ← r.tagText? handle suffix, after)
  | .tag handle suffix :: .anchor name :: _ => do
    let (n, after) := r.skip.skip.addAnchor name
    some (some n, ← r.tagText? handle suffix, after)
  | .anchor name :: _ => let (n, after) := r.skip.addAnchor name; some (some n, none, after)
  | .tag handle suffix :: _ => do some (none, some (← r.tagText? handle suffix), r.skip)
  | _ => some (none, none, r)

/-- The tag that a scalar keeps: the mark alone says nothing. -/
def scalarTag (tag : Option (List Char)) : Option (List Char) := tag.filter (· ≠ ['!'])

/-! ## Collections

Where a node may be left out, the empty node stands for it. -/

mutual

/-- A node. Block collections are read where `block` allows them, and a sequence whose dashes are
not indented where `dashes` does. -/
def node (block dashes : Bool) (r : Reader) : Nat → Option (Node × Reader)
  | 0 => none
  | fuel + 1 =>
    match r.head with
    | some (.alias name) => (r.anchors.lookup name).map fun n => (.alias n, r.skip)
    | _ => do
      let (anchor, tag, r) ← r.properties?
      match r.head with
      | some (.scalar style text) => some (.scalar anchor (scalarTag tag) style text, r.skip)
      | some .flowSequenceStart => do
        let (items, r) ← flowItems true r.skip fuel
        some (.sequence anchor tag items, r)
      | some .flowMappingStart => do
        let (entries, r) ← flowEntries true r.skip fuel
        some (.mapping anchor tag entries, r)
      | some .blockEntry =>
        if dashes then do
          let (items, r) ← dashItems r fuel
          some (.sequence anchor tag items, r)
        else bare anchor tag r
      | some .blockSequenceStart =>
        if block then do
          let (items, r) ← blockItems r.skip fuel
          some (.sequence anchor tag items, r)
        else bare anchor tag r
      | some .blockMappingStart =>
        if block then do
          let (entries, r) ← blockEntries r.skip fuel
          some (.mapping anchor tag entries, r)
        else bare anchor tag r
      | _ => bare anchor tag r

/-- A node of which only the anchor or the tag is written. -/
def bare (anchor : Option Nat) (tag : Option (List Char)) (r : Reader) : Option (Node × Reader) :=
  if anchor.isNone && tag.isNone then none else some (.scalar anchor tag .plain [], r)

/-- A node, or the empty node before the tokens that end it. -/
def nodeUnless (ends : List Token) (block dashes : Bool) (r : Reader) :
    Nat → Option (Node × Reader)
  | 0 => none
  | fuel + 1 => if r.isAtAny ends then some (.empty, r) else node block dashes r fuel

/-- The items of an indented sequence. -/
def blockItems (r : Reader) : Nat → Option (List Node × Reader)
  | 0 => none
  | fuel + 1 =>
    if r.isAt .blockEnd then some ([], r.skip)
    else if !r.isAt .blockEntry then none
    else do
      let (item, r) ← nodeUnless [.blockEntry, .blockEnd] true false r.skip fuel
      let (items, r) ← blockItems r fuel
      some (item :: items, r)

/-- The items of a sequence that is not indented; the next key or end ends it. -/
def dashItems (r : Reader) : Nat → Option (List Node × Reader)
  | 0 => none
  | fuel + 1 =>
    if !r.isAt .blockEntry then some ([], r)
    else do
      let (item, r) ← nodeUnless [.blockEntry, .key, .value, .blockEnd] true false r.skip fuel
      let (items, r) ← dashItems r fuel
      some (item :: items, r)

/-- The entries of an indented mapping. Each begins with its key, of which only the text may be left
out. -/
def blockEntries (r : Reader) : Nat → Option (List (Node × Node) × Reader)
  | 0 => none
  | fuel + 1 =>
    if r.isAt .blockEnd then some ([], r.skip)
    else if !r.isAt .key then none
    else do
      let ends := [Token.key, .value, .blockEnd]
      let (key, r) ← nodeUnless ends true true r.skip fuel
      let (value, r) ←
        if r.isAt .value then nodeUnless ends true true r.skip fuel else some (.empty, r)
      let (entries, r) ← blockEntries r fuel
      some ((key, value) :: entries, r)

/-- The items of a sequence in brackets. An item with a key is a mapping of one entry. -/
def flowItems (first : Bool) (r : Reader) : Nat → Option (List Node × Reader)
  | 0 => none
  | fuel + 1 =>
    if r.isAt .flowSequenceEnd then some ([], r.skip)
    else do
      let r ← if first then some r else if r.isAt .flowEntry then some r.skip else none
      if !first && r.isAt .flowSequenceEnd then some ([], r.skip)
      else
        let (item, r) ← if r.isAt .key then singleEntry r.skip fuel else node false false r fuel
        let (items, r) ← flowItems false r fuel
        some (item :: items, r)

/-- A mapping of one entry inside brackets. A key that is left out takes the token after it along.
-/
def singleEntry (r : Reader) : Nat → Option (Node × Reader)
  | 0 => none
  | fuel + 1 => do
    let (key, r) ←
      if r.isAtAny [.value, .flowEntry, .flowSequenceEnd] then some (Node.empty, r.skip)
      else node false false r fuel
    let (value, r) ←
      if r.isAt .value then nodeUnless [.flowEntry, .flowSequenceEnd] false false r.skip fuel
      else some (.empty, r)
    some (.mapping none none [(key, value)], r)

/-- The entries of a mapping in braces. An entry without a colon has the empty value. -/
def flowEntries (first : Bool) (r : Reader) : Nat → Option (List (Node × Node) × Reader)
  | 0 => none
  | fuel + 1 =>
    if r.isAt .flowMappingEnd then some ([], r.skip)
    else do
      let r ← if first then some r else if r.isAt .flowEntry then some r.skip else none
      if !first && r.isAt .flowMappingEnd then some ([], r.skip)
      else
        let ((key, value), r) ← flowPair r fuel
        let (entries, r) ← flowEntries false r fuel
        some ((key, value) :: entries, r)

/-- An entry of a mapping in braces. -/
def flowPair (r : Reader) : Nat → Option ((Node × Node) × Reader)
  | 0 => none
  | fuel + 1 =>
    if r.isAt .key then do
      let (key, r) ← nodeUnless [.value, .flowEntry, .flowMappingEnd] false false r.skip fuel
      let (value, r) ←
        if r.isAt .value then nodeUnless [.flowEntry, .flowMappingEnd] false false r.skip fuel
        else some (.empty, r)
      some ((key, value), r)
    else do
      let (key, r) ← node false false r fuel
      some ((key, .empty), r)

end

/-! ## Documents -/

/-- The handles that every document has. -/
def standardHandles : List (List Char × List Char) :=
  [(['!'], ['!']), (['!', '!'], "tag:yaml.org,2002:".toList)]

/-- Reads the directives before a document: at most one for the version, which must be one that is
known, and no handle twice. -/
def directives (versioned : Bool) (r : Reader) : List Token → Option Reader
  | .versionDirective major minor :: rest =>
    if !versioned && major == 1 && (minor == 1 || minor == 2) then
      directives true { r with tokens := rest } rest
    else none
  | .tagDirective handle stem :: rest =>
    if (r.handles.lookup handle).isSome then none
    else
      directives versioned { r with tokens := rest, handles := r.handles ++ [(handle, stem)] } rest
  | _ => some { r with handles := r.handles ++ standardHandles }

/-- Whether a token begins or ends a document. -/
def isDocumentToken : Option Token → Bool
  | none | some .documentStart | some .documentEnd => true
  | some (.versionDirective _ _) | some (.tagDirective _ _) => true
  | _ => false

/-- The node of a document, which may be left out after the mark of its beginning. -/
def documentNode (r : Reader) : Option (Node × Reader) :=
  let fuel := 4 * r.tokens.length + 16
  match r.tokens with
  | .versionDirective _ _ :: _ | .tagDirective _ _ :: _ | .documentStart :: _ => do
    let r ← directives false r r.tokens
    if !r.isAt .documentStart then none
    else if isDocumentToken r.skip.head then some (.empty, r.skip)
    else node true false r.skip fuel
  | _ => node true false { r with handles := standardHandles } fuel

end Reader

/-! ## Anchors -/

mutual

/-- The anchored nodes of a tree, from the front. -/
def Node.anchored : Node → List (Nat × Node)
  | .alias _ => []
  | .scalar anchor tag style text =>
    anchor.toList.map fun n => (n, .scalar anchor tag style text)
  | .sequence anchor tag items =>
    anchor.toList.map (fun n => (n, .sequence anchor tag items)) ++ anchoredItems items
  | .mapping anchor tag entries =>
    anchor.toList.map (fun n => (n, .mapping anchor tag entries)) ++ anchoredEntries entries

/-- The anchored nodes among items. -/
def anchoredItems : List Node → List (Nat × Node)
  | [] => []
  | item :: items => item.anchored ++ anchoredItems items

/-- The anchored nodes among entries. -/
def anchoredEntries : List (Node × Node) → List (Nat × Node)
  | [] => []
  | (key, value) :: entries => key.anchored ++ value.anchored ++ anchoredEntries entries

end

/-- The only document of a text, with the node that each anchor stands for, the last first. -/
structure Document where
  root : Node
  anchored : List (Nat × Node)

namespace Document

/-- Reads a text that holds one document. -/
def read? (text : List Char) : Option Document := do
  let tokens ← tokens? text
  if tokens.isEmpty then none
  else
    let (root, r) ← Reader.documentNode ⟨tokens, [], []⟩
    if r.tokens.all (· == .documentEnd) then some ⟨root, root.anchored.reverse⟩ else none

/-- The node that a node stands for. -/
def follow (d : Document) : Node → Node
  | .alias n => (d.anchored.lookup n).getD .empty
  | node => node

end Document

end Gateway.Yaml
