import StyledMarkup.Table
import StyledMarkup.Yaml.Layout

/-!
# Nodes of YAML

The tokens of one document are read into a tree of scalars, lists and mappings. An alias stands for
the node that its anchor has named last, and must not stand inside that node. Nodes may be left out
where a token shows that there should be one; they are empty scalars then.

The readers of nodes and collections call one another; `fuel` bounds how deep their calls may go.
Along a chain of calls at most every fifth one takes no token, which is what `fuelFor` allows for.

A few tokens can stand for a tree of any size, since aliases may stand for nodes with aliases in
them. So the tree with its aliases followed has limits (`Node.isWithinLimits`).
-/

namespace StyledMarkup
namespace Yaml

/-- The contents of a document before its scalars are given a type. -/
inductive Node where
  | scalar (content : Text) (isPlain : Bool) (tag : Option Tag)
  | list (items : List Node) (tag : Option Tag)
  | mapping (entries : List (Node × Node)) (tag : Option Tag)
  /-- The node that an anchor has named. -/
  | alias (target : Node)
deriving Inhabited

namespace Node

/-- The node that is left out. -/
def omitted : Node := scalar [] true none

/-- The node with a tag, if there is one. -/
def withTag (tag : Option Tag) : Node → Node
  | .scalar content isPlain _ => .scalar content isPlain tag
  | .list items _ => .list items tag
  | .mapping entries _ => .mapping entries tag
  | .alias target => .alias target

end Node

/-- The nodes that anchors have named, by name; a node that is still being read has its name
already. -/
abbrev Anchors := Table (Option Node)

/-- Gives a node that has been read to its name, unless a node in it has taken the name. -/
def Anchors.close (anchors : Anchors) (name : Text) (node : Node) : Anchors :=
  match anchors.get? name with
  | some (some _) => anchors
  | _ => anchors.insert name (some node)

/-- What has been read, the anchors after it, and the tokens that are left. -/
abbrev Read (α : Type) := α × Anchors × List Token

/-- Anchor and tag before a node, each at most once. -/
def properties : List Token → Option Text × Option Tag × List Token
  | .anchor name :: .tag tag :: rest => (some name, some tag, rest)
  | .tag tag :: .anchor name :: rest => (some name, some tag, rest)
  | .anchor name :: rest => (some name, none, rest)
  | .tag tag :: rest => (none, some tag, rest)
  | rest => (none, none, rest)

/-- Whether no token is left, or the next one is one of these. -/
def atAny (these : List Token) : List Token → Bool
  | [] => true
  | token :: _ => these.contains token

mutual

/-- Reads a node. -/
def readNode (fuel : Nat) (inBlock indentless : Bool) (anchors : Anchors) (tokens : List Token) :
    Option (Read Node) :=
  match fuel, tokens with
  | 0, _ => none
  | _, .alias name :: rest => do some (.alias (← (← anchors.get? name)), anchors, rest)
  | fuel + 1, tokens => do
    let (anchor, tag, rest) := properties tokens
    let anchors := match anchor with
      | some name => anchors.insert name none
      | none => anchors
    let (node, anchors, rest) ← readContent fuel inBlock indentless
      (anchor.isSome || tag.isSome) anchors rest
    let node := node.withTag tag
    match anchor with
    | some name => some (node, anchors.close name node, rest)
    | none => some (node, anchors, rest)

/-- Reads what follows the anchor and the tag of a node, which may be nothing if there was one of
them. -/
def readContent (fuel : Nat) (inBlock indentless mayBeEmpty : Bool) (anchors : Anchors)
    (tokens : List Token) : Option (Read Node) :=
  match fuel, tokens with
  | 0, _ => none
  | _, .scalar content isPlain :: rest => some (.scalar content isPlain none, anchors, rest)
  | fuel + 1, .flowList :: rest => do
    let (items, anchors, rest) ← readFlowItems fuel true anchors rest
    some (.list items none, anchors, rest)
  | fuel + 1, .flowMapping :: rest => do
    let (entries, anchors, rest) ← readFlowEntries fuel true anchors rest
    some (.mapping entries none, anchors, rest)
  | fuel + 1, tokens =>
    let empty : Option (Read Node) := if mayBeEmpty then some (.omitted, anchors, tokens) else none
    match tokens with
    | .blockEntry :: _ =>
      if indentless then do
        let (items, anchors, rest) ← readIndentlessItems fuel anchors tokens
        some (.list items none, anchors, rest)
      else empty
    | .blockList :: rest =>
      if inBlock then do
        let (items, anchors, rest) ← readBlockItems fuel anchors rest
        some (.list items none, anchors, rest)
      else empty
    | .blockMapping :: rest =>
      if inBlock then do
        let (entries, anchors, rest) ← readBlockEntries fuel anchors rest
        some (.mapping entries none, anchors, rest)
      else empty
    | _ => empty

/-- Reads a node, which is left out before one of `these`. -/
def readOptional (fuel : Nat) (inBlock indentless : Bool) (these : List Token)
    (anchors : Anchors) (tokens : List Token) : Option (Read Node) :=
  match fuel with
  | 0 => none
  | fuel + 1 =>
    if atAny these tokens then some (.omitted, anchors, tokens)
    else readNode fuel inBlock indentless anchors tokens

/-- Reads the items of a list that is a block, and its end. -/
def readBlockItems (fuel : Nat) (anchors : Anchors) (tokens : List Token) :
    Option (Read (List Node)) :=
  match fuel, tokens with
  | fuel + 1, .blockEntry :: rest => do
    let (item, anchors, rest) ←
      readOptional fuel true false [.blockEntry, .blockEnd] anchors rest
    let (items, anchors, rest) ← readBlockItems fuel anchors rest
    some (item :: items, anchors, rest)
  | _ + 1, .blockEnd :: rest => some ([], anchors, rest)
  | _, _ => none

/-- Reads the items of a list that has no block of its own. -/
def readIndentlessItems (fuel : Nat) (anchors : Anchors) (tokens : List Token) :
    Option (Read (List Node)) :=
  match fuel, tokens with
  | 0, _ => none
  | fuel + 1, .blockEntry :: rest => do
    let (item, anchors, rest) ←
      readOptional fuel true false [.blockEntry, .key, .value, .blockEnd] anchors rest
    let (items, anchors, rest) ← readIndentlessItems fuel anchors rest
    some (item :: items, anchors, rest)
  | _ + 1, rest => some ([], anchors, rest)

/-- Reads the entries of a mapping that is a block, and its end. -/
def readBlockEntries (fuel : Nat) (anchors : Anchors) (tokens : List Token) :
    Option (Read (List (Node × Node))) :=
  match fuel, tokens with
  | 0, _ => none
  | _ + 1, .blockEnd :: rest => some ([], anchors, rest)
  | fuel + 1, tokens => do
    let (key, anchors, rest) ← match tokens with
      | .key :: rest => readOptional fuel true true [.key, .value, .blockEnd] anchors rest
      | .value :: _ => some (.omitted, anchors, tokens)
      | _ => none
    let (value, anchors, rest) ← match rest with
      | .value :: rest => readOptional fuel true true [.key, .value, .blockEnd] anchors rest
      | rest => some (.omitted, anchors, rest)
    let (entries, anchors, rest) ← readBlockEntries fuel anchors rest
    some ((key, value) :: entries, anchors, rest)

/-- Reads the value of an entry in a flow, which is left out before one of `these`. -/
def readFlowValue (fuel : Nat) (these : List Token) (anchors : Anchors)
    (tokens : List Token) : Option (Read Node) :=
  match fuel, tokens with
  | 0, _ => none
  | fuel + 1, .value :: rest => readOptional fuel false false these anchors rest
  | _, rest => some (.omitted, anchors, rest)

/-- Reads the items of a list in a flow, and its end. An item with a key is a mapping of one
entry. -/
def readFlowItems (fuel : Nat) (first : Bool) (anchors : Anchors) (tokens : List Token) :
    Option (Read (List Node)) :=
  match fuel, first, tokens with
  | 0, _, _ => none
  | _, _, .flowListEnd :: rest => some ([], anchors, rest)
  | fuel + 1, false, .flowEntry :: rest => readFlowItems fuel true anchors rest
  | fuel + 1, true, .key :: rest => do
    let (key, anchors, rest) ←
      readOptional fuel false false [.value, .flowEntry, .flowListEnd] anchors rest
    let (value, anchors, rest) ←
      readFlowValue fuel [.flowEntry, .flowListEnd] anchors rest
    let (items, anchors, rest) ← readFlowItems fuel false anchors rest
    some (.mapping [(key, value)] none :: items, anchors, rest)
  | fuel + 1, true, tokens => do
    let (item, anchors, rest) ← readNode fuel false false anchors tokens
    let (items, anchors, rest) ← readFlowItems fuel false anchors rest
    some (item :: items, anchors, rest)
  | _, _, _ => none

/-- Reads the entries of a mapping in a flow, and its end. -/
def readFlowEntries (fuel : Nat) (first : Bool) (anchors : Anchors) (tokens : List Token) :
    Option (Read (List (Node × Node))) :=
  match fuel, first, tokens with
  | 0, _, _ => none
  | _, _, .flowMappingEnd :: rest => some ([], anchors, rest)
  | fuel + 1, false, .flowEntry :: rest => readFlowEntries fuel true anchors rest
  | fuel + 1, true, .key :: rest => do
    let (key, anchors, rest) ←
      readOptional fuel false false [.value, .flowEntry, .flowMappingEnd] anchors rest
    let (value, anchors, rest) ←
      readFlowValue fuel [.flowEntry, .flowMappingEnd] anchors rest
    let (entries, anchors, rest) ← readFlowEntries fuel false anchors rest
    some ((key, value) :: entries, anchors, rest)
  | fuel + 1, true, tokens => do
    let (key, anchors, rest) ← readNode fuel false false anchors tokens
    let (entries, anchors, rest) ← readFlowEntries fuel false anchors rest
    some ((key, .omitted) :: entries, anchors, rest)
  | _, _, _ => none

end

/-- As many calls as the tokens can need. -/
def fuelFor (tokens : List Token) : Nat :=
  5 * (tokens.length + 2)

/-- Reads the node of the first document. After the sign that starts a document, which must follow
directives, its node may be left out, and a text without tokens has none. -/
def readDocument (tokens : List Token) : Option (Node × List Token) :=
  match tokens.dropWhile (· == .directive) with
  | .documentStart :: tokens => do
    let (node, _, rest) ← readOptional (fuelFor tokens) true false
      [.directive, .documentStart, .documentEnd] .empty tokens
    some (node, rest)
  | _ =>
    if tokens.isEmpty then some (.omitted, [])
    else do
      let (node, _, rest) ← readNode (fuelFor tokens) true false .empty tokens
      some (node, rest)

/-! ## Limits -/

/-- How many collections may stand inside one another. -/
def depthLimit : Nat := 128

/-- How often aliases may be followed, for each sign of a node. -/
def jumpsEach : Nat := 100

mutual

/-- The signs that a node is written with: one for a scalar or an alias, and for a collection its
start and its end. -/
def Node.signs : Node → Nat
  | .scalar _ _ _ => 1
  | .alias _ => 1
  | .list items _ => signsOfItems items + 2
  | .mapping entries _ => signsOfEntries entries + 2

/-- The signs of the items. -/
def signsOfItems : List Node → Nat
  | [] => 0
  | item :: rest => item.signs + signsOfItems rest

/-- The signs of the entries. -/
def signsOfEntries : List (Node × Node) → Nat
  | [] => 0
  | (key, value) :: rest => key.signs + value.signs + signsOfEntries rest

end

mutual

/-- Goes through a node and what its aliases stand for: of so many aliases that may be followed, how
many are left, if these are enough and no more than `depth` collections stand inside one another. -/
def Node.follow? (depth jumps : Nat) : Node → Option Nat
  | .scalar _ _ _ => some jumps
  | .alias target =>
    match jumps with
    | 0 => none
    | jumps + 1 => target.follow? depth jumps
  | .list items _ =>
    match depth with
    | 0 => none
    | depth + 1 => followItems? depth jumps items
  | .mapping entries _ =>
    match depth with
    | 0 => none
    | depth + 1 => followEntries? depth jumps entries

/-- Goes through the items. -/
def followItems? (depth jumps : Nat) : List Node → Option Nat
  | [] => some jumps
  | item :: rest => do followItems? depth (← item.follow? depth jumps) rest

/-- Goes through the entries. -/
def followEntries? (depth jumps : Nat) : List (Node × Node) → Option Nat
  | [] => some jumps
  | (key, value) :: rest => do
    followEntries? depth (← value.follow? depth (← key.follow? depth jumps)) rest

end

/-- Whether the node of a document keeps the limits. -/
def Node.isWithinLimits (node : Node) : Bool :=
  (node.follow? depthLimit (jumpsEach * node.signs)).isSome

/-- The node of the only document of the tokens. -/
def nodeOfTokens? (tokens : List Token) : Option Node := do
  let (node, rest) ← readDocument tokens
  if rest.all (· == .documentEnd) && node.isWithinLimits then some node else none

end Yaml
end StyledMarkup
