import NodeAgent.Rehearsal.Yaml.Token
/-!
Nodes of YAML documents: scalars as they are written, lists, and mappings with their entries in
order. A text holds one document at most; an empty one is a scalar of nothing.

Main definition: the tree of nodes that a row of tokens spells.
-/

namespace NodeAgent.Rehearsal.Yaml

/-- A node of a document. A scalar without quotes is plain. -/
inductive Node
  | scalar (written : String) (isPlain : Bool)
  | list (items : List Node)
  | map (entries : List (Node × Node))
  deriving Inhabited

/-- The node where there is none. -/
def Node.empty : Node := .scalar "" true

/-- What stops the reading of tokens that do not fit: the fault that is ahead, or broken
markup. -/
def refusal : List Token → Fault
  | .fault fault :: _ => fault
  | _ => .markup

/-- Whether no item follows a dash. -/
def endsItem : List Token → Bool
  | .dash :: _ => true
  | .blockEnd :: _ => true
  | _ => false

/-- Whether no item follows a dash that is indented like the mapping around it. -/
def endsFlushItem : List Token → Bool
  | .dash :: _ => true
  | .key :: _ => true
  | .value :: _ => true
  | .blockEnd :: _ => true
  | _ => false

/-- Whether no key or value follows its sign in a block mapping. -/
def endsEntry : List Token → Bool
  | .key :: _ => true
  | .value :: _ => true
  | .blockEnd :: _ => true
  | _ => false

/-- Whether no value follows its sign in a flow collection. -/
def endsFlow : List Token → Bool
  | .comma :: _ => true
  | .flowMapEnd :: _ => true
  | .flowListEnd :: _ => true
  | _ => false

/-- Whether no key follows its sign in a flow collection. -/
def endsFlowKey : List Token → Bool
  | .value :: _ => true
  | rest => endsFlow rest

namespace Node

mutual

/-- A node ahead. A block collection counts only where `block` allows it, and items flush with
the mapping around them only where `flush` does. -/
def ahead (block flush : Bool) : Nat → List Token → Except Fault (Node × List Token)
  | 0, _ => .error .markup
  | fuel + 1, tokens =>
    match tokens with
    | .scalar written isPlain :: rest => .ok (.scalar written isPlain, rest)
    | .flowList :: .flowListEnd :: rest => .ok (.list [], rest)
    | .flowList :: rest => do
      let (items, rest) ← flowItems fuel rest
      return (.list items, rest)
    | .flowMap :: .flowMapEnd :: rest => .ok (.map [], rest)
    | .flowMap :: rest => do
      let (entries, rest) ← flowEntries fuel rest
      return (.map entries, rest)
    | .blockList :: rest =>
      if block then do
        let (items, rest) ← blockItems fuel rest
        return (.list items, rest)
      else .error .markup
    | .blockMap :: rest =>
      if block then do
        let (entries, rest) ← blockEntries fuel rest
        return (.map entries, rest)
      else .error .markup
    | .dash :: _ =>
      if flush then do
        let (items, rest) ← flushItems fuel tokens
        return (.list items, rest)
      else .error .markup
    | _ => .error (refusal tokens)

def blockItems : Nat → List Token → Except Fault (List Node × List Token)
  | 0, _ => .error .markup
  | fuel + 1, tokens =>
    match tokens with
    | .blockEnd :: rest => .ok ([], rest)
    | .dash :: rest => do
      let (item, rest) ← if endsItem rest then .ok (empty, rest) else ahead true false fuel rest
      let (items, rest) ← blockItems fuel rest
      return (item :: items, rest)
    | _ => .error (refusal tokens)

/-- The items of a list flush with the mapping around it. -/
def flushItems : Nat → List Token → Except Fault (List Node × List Token)
  | 0, _ => .error .markup
  | fuel + 1, tokens =>
    match tokens with
    | .dash :: rest => do
      let (item, rest) ←
        if endsFlushItem rest then .ok (empty, rest) else ahead true false fuel rest
      let (items, rest) ← flushItems fuel rest
      return (item :: items, rest)
    | rest => .ok ([], rest)

def blockEntries : Nat → List Token → Except Fault (List (Node × Node) × List Token)
  | 0, _ => .error .markup
  | fuel + 1, tokens =>
    match tokens with
    | .blockEnd :: rest => .ok ([], rest)
    | .key :: rest => do
      let (key, rest) ← if endsEntry rest then .ok (empty, rest) else ahead true true fuel rest
      let (value, rest) ← blockValue fuel rest
      let (entries, rest) ← blockEntries fuel rest
      return ((key, value) :: entries, rest)
    | _ => .error (refusal tokens)

/-- The value of an entry of a block mapping, if there is one. -/
def blockValue : Nat → List Token → Except Fault (Node × List Token)
  | 0, _ => .error .markup
  | fuel + 1, tokens =>
    match tokens with
    | .value :: rest => if endsEntry rest then .ok (empty, rest) else ahead true true fuel rest
    | rest => .ok (empty, rest)

/-- The items of a flow list, at least one, and its end. -/
def flowItems : Nat → List Token → Except Fault (List Node × List Token)
  | 0, _ => .error .markup
  | fuel + 1, tokens => do
    let (item, rest) ← flowItem fuel tokens
    match rest with
    | .comma :: .flowListEnd :: rest => return ([item], rest)
    | .comma :: rest =>
      let (items, rest) ← flowItems fuel rest
      return (item :: items, rest)
    | .flowListEnd :: rest => return ([item], rest)
    | rest => throw (refusal rest)

/-- An item of a flow list; a key with its value is a mapping of its own. -/
def flowItem : Nat → List Token → Except Fault (Node × List Token)
  | 0, _ => .error .markup
  | fuel + 1, tokens =>
    match tokens with
    | .key :: rest => do
      let (key, rest) ←
        if endsFlowKey rest then .ok (empty, rest) else ahead false false fuel rest
      let (value, rest) ← flowValue fuel rest
      return (.map [(key, value)], rest)
    | _ => ahead false false fuel tokens

/-- The entries of a flow mapping, at least one, and its end. -/
def flowEntries : Nat → List Token → Except Fault (List (Node × Node) × List Token)
  | 0, _ => .error .markup
  | fuel + 1, tokens => do
    let (entry, rest) ← flowEntry fuel tokens
    match rest with
    | .comma :: .flowMapEnd :: rest => return ([entry], rest)
    | .comma :: rest =>
      let (entries, rest) ← flowEntries fuel rest
      return (entry :: entries, rest)
    | .flowMapEnd :: rest => return ([entry], rest)
    | rest => throw (refusal rest)

/-- An entry of a flow mapping; a key may lack its value. -/
def flowEntry : Nat → List Token → Except Fault ((Node × Node) × List Token)
  | 0, _ => .error .markup
  | fuel + 1, tokens =>
    match tokens with
    | .key :: rest => do
      let (key, rest) ←
        if endsFlowKey rest then .ok (empty, rest) else ahead false false fuel rest
      let (value, rest) ← flowValue fuel rest
      return ((key, value), rest)
    | _ => do
      let (key, rest) ← ahead false false fuel tokens
      return ((key, empty), rest)

/-- The value of a key in a flow collection, if there is one. -/
def flowValue : Nat → List Token → Except Fault (Node × List Token)
  | 0, _ => .error .markup
  | fuel + 1, tokens =>
    match tokens with
    | .value :: rest => if endsFlow rest then .ok (empty, rest) else ahead false false fuel rest
    | rest => .ok (empty, rest)

end

def content (fuel : Nat) (tokens : List Token) : Except Fault (Node × List Token) :=
  match tokens with
  | [] => .ok (empty, [])
  | .documentStart :: _ => .ok (empty, tokens)
  | .documentEnd :: _ => .ok (empty, tokens)
  | _ => ahead true false fuel tokens

def document (fuel : Nat) (tokens : List Token) : Except Fault (Node × List Token) :=
  match tokens with
  | [] => .ok (empty, [])
  | .documentStart :: rest => content fuel rest
  | _ => ahead true false fuel tokens

/-- The node of the one document of a text; only ends of documents may follow it. Each step of
reading takes a token, or is one of a few between two tokens. -/
def ofText (text : String) : Except Fault Node := do
  let tokens := Yaml.tokens text
  let (node, rest) ← document (4 * tokens.length + 4) tokens
  match rest.dropWhile (· == .documentEnd) with
  | [] => return node
  | rest => throw (refusal rest)

end Node

end NodeAgent.Rehearsal.Yaml
