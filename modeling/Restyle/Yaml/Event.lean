import Restyle.Yaml.Token.Stream

/-!
# Events

The nodes of a document in reading order, containers as a start and an end around their children.
The grammar below turns tokens into events; it fills in the empty scalars that the text leaves out,
such as a missing value, and replaces tag handles by their expansions.
-/

namespace Restyle.Yaml

/-- The start, the end or the whole of a node. -/
inductive Event where
  /-- The node named by an anchor. -/
  | alias (name : String)
  /-- A scalar. -/
  | scalar (anchor : Option String) (tag : Option TagText) (text : String) (style : ScalarStyle)
  /-- The start of a sequence. -/
  | sequenceStart (anchor : Option String) (tag : Option TagText)
  /-- The end of a sequence. -/
  | sequenceEnd
  /-- The start of a mapping. -/
  | mappingStart (anchor : Option String) (tag : Option TagText)
  /-- The end of a mapping. -/
  | mappingEnd
deriving Repr, DecidableEq

namespace Event

/-- The scalar that stands for a missing node. -/
def empty : Event := .scalar none none "" .plain

/-- The tag handles of a document with their expansions. -/
abbrev Handles := List (TagText × TagText)

/-- The handles that every document knows. -/
def commonHandles : Handles :=
  [(bytesOf ['!'], bytesOf ['!']), (bytesOf ['!', '!'], bytesOf "tag:yaml.org,2002:".toList)]

/-- The full tag for a handle and a suffix. -/
def expandTag (handles : Handles) (handle suffix : TagText) : Except Fault TagText :=
  if handle.isEmpty then .ok suffix
  else
    match handles.lookup handle with
    | some expansion => .ok (expansion ++ suffix)
    | none => .error .badProperty

/-- The anchor and the tag in front of a node, in either order. -/
def properties (handles : Handles) (ts : List Token) :
    Except Fault (Option String × Option TagText × List Token) :=
  match ts with
  | .anchor name :: .tag handle suffix :: rest => do
    pure (some name, some (← expandTag handles handle suffix), rest)
  | .tag handle suffix :: .anchor name :: rest => do
    pure (some name, some (← expandTag handles handle suffix), rest)
  | .anchor name :: rest => .ok (some name, none, rest)
  | .tag handle suffix :: rest => do pure (none, some (← expandTag handles handle suffix), rest)
  | _ => .ok (none, none, ts)

/-- Whether a token ends the entry of a block sequence before it has a node. -/
def endsEntry : List Token → Bool
  | .blockEntry :: _ | .blockEnd :: _ => true
  | _ => false

/-- Whether a token ends the entry of a sequence without indentation before it has a node. -/
def endsLooseEntry : List Token → Bool
  | .blockEntry :: _ | .key :: _ | .value :: _ | .blockEnd :: _ => true
  | _ => false

/-- Whether a token ends a key or a value of a block mapping before it has a node. -/
def endsPart : List Token → Bool
  | .key :: _ | .value :: _ | .blockEnd :: _ => true
  | _ => false

/-- Events in reverse with the tokens that follow. -/
abbrev Progress := List Event × List Token

mutual

/-- Reads one node. `block` tells whether it may be a block collection, `loose` whether a sequence
may start at the column of the mapping around it. -/
def node (handles : Handles) : Nat → Bool → Bool → List Event → List Token → Except Fault Progress
  | 0, _, _, _, _ => .error .badStructure
  | _ + 1, _, _, out, .alias name :: rest => .ok (.alias name :: out, rest)
  | fuel + 1, block, loose, out, ts => do
    let (anchor, tag, ts) ← properties handles ts
    match ts with
    | .blockEntry :: _ =>
      if loose then looseSequence handles fuel (.sequenceStart anchor tag :: out) ts
      else if anchor.isSome || tag.isSome then pure (.scalar anchor tag "" .plain :: out, ts)
      else throw .badStructure
    | .scalar text style :: rest => pure (.scalar anchor tag text style :: out, rest)
    | .flowSequenceStart :: rest =>
      flowSequence handles fuel true (.sequenceStart anchor tag :: out) rest
    | .flowMappingStart :: rest =>
      flowMapping handles fuel true (.mappingStart anchor tag :: out) rest
    | .blockSequenceStart :: rest =>
      if block then blockSequence handles fuel (.sequenceStart anchor tag :: out) rest
      else if anchor.isSome || tag.isSome then pure (.scalar anchor tag "" .plain :: out, ts)
      else throw .badStructure
    | .blockMappingStart :: rest =>
      if block then blockMapping handles fuel (.mappingStart anchor tag :: out) rest
      else if anchor.isSome || tag.isSome then pure (.scalar anchor tag "" .plain :: out, ts)
      else throw .badStructure
    | _ =>
      if anchor.isSome || tag.isSome then pure (.scalar anchor tag "" .plain :: out, ts)
      else throw .badStructure

/-- Reads the entries of an indented sequence. -/
def blockSequence (handles : Handles) : Nat → List Event → List Token → Except Fault Progress
  | 0, _, _ => .error .badStructure
  | fuel + 1, out, .blockEntry :: rest => do
    if endsEntry rest then blockSequence handles fuel (.empty :: out) rest
    else
      let (out, rest) ← node handles fuel true false out rest
      blockSequence handles fuel out rest
  | _ + 1, out, .blockEnd :: rest => .ok (.sequenceEnd :: out, rest)
  | _ + 1, _, _ => .error .badStructure

/-- Reads the entries of a sequence at the column of the mapping around it. -/
def looseSequence (handles : Handles) : Nat → List Event → List Token → Except Fault Progress
  | 0, _, _ => .error .badStructure
  | fuel + 1, out, .blockEntry :: rest => do
    if endsLooseEntry rest then looseSequence handles fuel (.empty :: out) rest
    else
      let (out, rest) ← node handles fuel true false out rest
      looseSequence handles fuel out rest
  | _ + 1, out, ts => .ok (.sequenceEnd :: out, ts)

/-- Reads the keys and values of an indented mapping. -/
def blockMapping (handles : Handles) : Nat → List Event → List Token → Except Fault Progress
  | 0, _, _ => .error .badStructure
  | fuel + 1, out, .key :: rest => do
    let (out, rest) ←
      if endsPart rest then pure (.empty :: out, rest)
      else node handles fuel true true out rest
    match rest with
    | .value :: rest =>
      if endsPart rest then blockMapping handles fuel (.empty :: out) rest
      else
        let (out, rest) ← node handles fuel true true out rest
        blockMapping handles fuel out rest
    | _ => blockMapping handles fuel (.empty :: out) rest
  | _ + 1, out, .blockEnd :: rest => .ok (.mappingEnd :: out, rest)
  | _ + 1, _, _ => .error .badStructure

/-- Reads the entries of a sequence in brackets; `first` tells whether no comma is needed. An entry
with a colon is a mapping of its one pair. -/
def flowSequence (handles : Handles) : Nat → Bool → List Event → List Token → Except Fault Progress
  | 0, _, _, _ => .error .badStructure
  | fuel + 1, first, out, ts => do
    match ts with
    | .flowSequenceEnd :: rest => pure (.sequenceEnd :: out, rest)
    | _ =>
      let ts ←
        if first then pure ts
        else
          match ts with
          | .flowEntry :: rest => pure rest
          | _ => throw .badStructure
      match ts with
      | .key :: rest =>
        let (out, rest) ← flowPair handles fuel (.mappingStart none none :: out) rest
        flowSequence handles fuel false (.mappingEnd :: out) rest
      | .flowSequenceEnd :: rest => pure (.sequenceEnd :: out, rest)
      | _ =>
        let (out, rest) ← node handles fuel false false out ts
        flowSequence handles fuel false out rest

/-- Reads the key and the value of a pair that stands in a sequence. After a missing key, one token
is passed over before the value is looked for. -/
def flowPair (handles : Handles) : Nat → List Event → List Token → Except Fault Progress
  | 0, _, _ => .error .badStructure
  | fuel + 1, out, ts => do
    let (out, ts) ←
      match ts with
      | .value :: rest | .flowEntry :: rest | .flowSequenceEnd :: rest => pure (.empty :: out, rest)
      | _ => node handles fuel false false out ts
    match ts with
    | .value :: rest =>
      match rest with
      | .flowEntry :: _ | .flowSequenceEnd :: _ => pure (.empty :: out, rest)
      | _ => node handles fuel false false out rest
    | _ => pure (.empty :: out, ts)

/-- Reads the keys and values of a mapping in braces; `first` tells whether no comma is needed. -/
def flowMapping (handles : Handles) : Nat → Bool → List Event → List Token → Except Fault Progress
  | 0, _, _, _ => .error .badStructure
  | fuel + 1, first, out, ts => do
    match ts with
    | .flowMappingEnd :: rest => pure (.mappingEnd :: out, rest)
    | _ =>
      let ts ←
        if first then pure ts
        else
          match ts with
          | .flowEntry :: rest => pure rest
          | _ => throw .badStructure
      match ts with
      | .key :: rest =>
        let (out, rest) ←
          match rest with
          | .value :: _ | .flowEntry :: _ | .flowMappingEnd :: _ => pure (.empty :: out, rest)
          | _ => node handles fuel false false out rest
        match rest with
        | .value :: rest =>
          match rest with
          | .flowEntry :: _ | .flowMappingEnd :: _ =>
            flowMapping handles fuel false (.empty :: out) rest
          | _ =>
            let (out, rest) ← node handles fuel false false out rest
            flowMapping handles fuel false out rest
        | _ => flowMapping handles fuel false (.empty :: out) rest
      | .flowMappingEnd :: rest => pure (.mappingEnd :: out, rest)
      | _ =>
        let (out, rest) ← node handles fuel false false out ts
        flowMapping handles fuel false (.empty :: out) rest

end

/-- Reads the directives in front of a document: at most one version, which must be 1.1 or 1.2, and
at most one expansion for each handle. The handles that every document knows come last, so a
directive may redefine them. -/
def directives (version : Bool) (handles : Handles) :
    List Token → Except Fault (Handles × List Token)
  | .version major minor :: rest =>
    if version || major ≠ 1 || (minor ≠ 1 && minor ≠ 2) then .error .badDirective
    else directives true handles rest
  | .tagDirective handle expansion :: rest =>
    if (handles.lookup handle).isSome then .error .badDirective
    else directives version (handles ++ [(handle, expansion)]) rest
  | ts => .ok (handles ++ commonHandles, ts)

/-- The events of the only document of a text; none at all if the text holds no document. -/
def ofTokens (ts : List Token) : Except Fault (List Event) := do
  let fuel := 4 * ts.length + 8
  let body ←
    match ts with
    | [.streamEnd] => pure none
    | .version _ _ :: _ | .tagDirective _ _ :: _ | .documentStart :: _ => do
      let (handles, ts) ← directives false [] ts
      match ts with
      | .documentStart :: rest =>
        match rest with
        | .version _ _ :: _ | .tagDirective _ _ :: _ | .documentStart :: _ | .documentEnd :: _
        | .streamEnd :: _ => pure (some ([.empty], rest))
        | _ => pure (some (← node handles fuel true false [] rest))
      | _ => throw .badDirective
    | _ => pure (some (← node commonHandles fuel true false [] ts))
  match body with
  | none => pure []
  | some (out, rest) =>
    match rest.dropWhile (· == .documentEnd) with
    | [.streamEnd] => pure out.reverse
    | _ => throw .severalDocuments

end Event

/-- The events of a text. -/
def events (s : String) : Except Fault (List Event) := do
  Event.ofTokens (← tokens s)

end Restyle.Yaml
