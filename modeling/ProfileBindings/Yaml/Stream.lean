import ProfileBindings.Yaml.Lexer
import ProfileBindings.Yaml.Node

/-!
# From tokens to nodes

The first document of a stream of tokens, and how the stream goes on behind it. Every collection
is read by a function that takes its entries one by one; where a token stands that does not belong there,
or the tokens end, the document is broken at that place.

Anchors are numbered by how many names are known when they are met. A name that is given again therefore
takes the next number, which a name that is new later may take too; the last node with a number is the one
that its aliases stand for.

Main definitions: `Parsed`, `node`, `Stream`, `Stream.ofText`.
-/

namespace ProfileBindings.Yaml

/-- The numbers of the anchors by name. -/
abbrev Names := List (String × Nat)

/-- What the handles of tags stand for. -/
abbrev Handles := List (String × Tag)

/-- Something read, the names known behind it, and the tokens behind it unless the document is broken. -/
structure Parsed (α : Type) where
  value : α
  names : Names
  rest : Option (List Token)

namespace Parsed

/-- Go on behind what was read; where the document is broken, `stop` is all there is. -/
def andThen {α β : Type} (p : Parsed α) (stop : α → β) (next : α → Names → List Token → Parsed β) :
    Parsed β :=
  match p.rest with
  | some rest => next p.value p.names rest
  | none => ⟨stop p.value, p.names, none⟩

/-- What was read, changed. -/
def map {α β : Type} (f : α → β) (p : Parsed α) : Parsed β := ⟨f p.value, p.names, p.rest⟩

end Parsed

/-- A document that is broken here. -/
def broken (names : Names) : Parsed Node := ⟨.broken, names, none⟩

/-- A list of items that is broken here. -/
def brokenItems (names : Names) : Parsed (List Node) := ⟨[.broken], names, none⟩

/-- A list of pairs that is broken here. -/
def brokenPairs (names : Names) : Parsed (List (Node × Node)) :=
  ⟨[(.broken, .broken)], names, none⟩

/-- The anchor and the tag in front of a node. -/
structure Properties where
  mark : Option Mark
  anchor : Option String
  tag : Option (String × Tag)
  rest : List Token

/-- Read the anchor and the tag in front of a node, in either order. -/
def properties : List Token → Properties
  | ⟨.anchor a, m, _⟩ :: ⟨.tag h s, _, _⟩ :: rest => ⟨some m, some a, some (h, s), rest⟩
  | ⟨.anchor a, m, _⟩ :: rest => ⟨some m, some a, none, rest⟩
  | ⟨.tag h s, m, _⟩ :: ⟨.anchor a, _, _⟩ :: rest => ⟨some m, some a, some (h, s), rest⟩
  | ⟨.tag h s, m, _⟩ :: rest => ⟨some m, none, some (h, s), rest⟩
  | rest => ⟨none, none, none, rest⟩

/-- The full text of a tag. A handle has to be known. -/
def resolveTag? (handles : Handles) : Option (String × Tag) → Option (Option Tag)
  | none => some none
  | some (handle, suffix) =>
    if handle.isEmpty then some (some suffix)
    else (handles.lookup handle).map fun start => some (start.append suffix)

/-- Give an anchor its number. -/
def register (names : Names) : Option String → Option Nat × Names
  | none => (none, names)
  | some name => (some names.length, (name, names.length) :: names.filter (·.1 != name))

/-- The token ends an entry of a block sequence. -/
def endsBlockEntry : Token.Kind → Bool
  | .blockEntry => true
  | .blockEnd => true
  | _ => false

/-- The token ends an entry of a block mapping. -/
def endsBlockPair : Token.Kind → Bool
  | .key => true
  | .value => true
  | .blockEnd => true
  | _ => false

/-- The token ends an entry of a sequence that is not indented. -/
def endsPlainEntry (kind : Token.Kind) : Bool := endsBlockEntry kind || endsBlockPair kind

/-- The token ends a value in a flow sequence. -/
def endsFlowItem : Token.Kind → Bool
  | .flowEntry => true
  | .flowSequenceEnd => true
  | _ => false

/-- The token ends a value in a flow mapping. -/
def endsFlowPair : Token.Kind → Bool
  | .flowEntry => true
  | .flowMappingEnd => true
  | _ => false

/-- How a node may be written: blocks are allowed; and a sequence need not be indented. -/
structure Mode where
  block : Bool
  plainSequence : Bool

/-- Nodes of a block sequence. -/
def Mode.entry : Mode := ⟨true, false⟩

/-- Nodes of a block mapping. -/
def Mode.pair : Mode := ⟨true, true⟩

/-- Nodes of a flow collection. -/
def Mode.flow : Mode := ⟨false, false⟩

mutual

/-- A node. -/
def node (handles : Handles) : Nat → Mode → Names → List Token → Parsed Node
  | 0, _, names, _ => broken names
  | fuel + 1, mode, names, tokens =>
    match tokens with
    | ⟨.alias name, m, _⟩ :: rest =>
      match names.lookup name with
      | some n => ⟨.alias m n, names, some rest⟩
      | none => broken names
    | tokens =>
      let found := properties tokens
      match found.rest, resolveTag? handles found.tag with
      | [], _ => broken names
      | _, none => broken names
      | t :: rest, some tag =>
        let (anchor, known) := register names found.anchor
        let head : Head := ⟨found.mark.getD t.start, anchor, tag⟩
        match t.kind with
        | .scalar text style =>
          ⟨.scalar head text style, known, some rest⟩
        | .flowSequenceStart => (flowItems handles fuel true known rest).map (.sequence head)
        | .flowMappingStart => (flowPairs handles fuel true known rest).map (.mapping head)
        | kind =>
          if kind = .blockEntry && mode.plainSequence then
            (plainItems handles fuel known (t :: rest)).map (.sequence head)
          else if kind = .blockSequenceStart && mode.block then
            (blockItems handles fuel known rest).map (.sequence head)
          else if kind = .blockMappingStart && mode.block then
            (blockPairs handles fuel known rest).map (.mapping head)
          else if found.mark.isSome then ⟨.scalar head "" .plain, known, some (t :: rest)⟩
          else broken names

/-- A node, or an empty scalar at a place if a token comes that ends it. -/
def nodeOrEmpty (handles : Handles) :
    Nat → Mode → (Token.Kind → Bool) → Option Mark → Names → List Token → Parsed Node
  | 0, _, _, _, names, _ => broken names
  | fuel + 1, mode, ends, mark, names, tokens =>
    match tokens with
    | [] => broken names
    | t :: rest =>
      if ends t.kind then ⟨.empty (mark.getD t.start), names, some (t :: rest)⟩
      else node handles fuel mode names (t :: rest)

/-- The value behind a key, empty if there is no mark for it. `after` is the place of a value that is
missing behind its mark; without it the place is that of the next token. -/
def valueNode (handles : Handles) :
    Nat → Mode → (Token.Kind → Bool) → Bool → Names → List Token → Parsed Node
  | 0, _, _, _, names, _ => broken names
  | fuel + 1, mode, ends, behindMark, names, tokens =>
    match tokens with
    | [] => broken names
    | t :: rest =>
      if t.kind = .value then
        nodeOrEmpty handles fuel mode ends (if behindMark then some t.stop else none) names rest
      else ⟨.empty t.start, names, some (t :: rest)⟩

/-- The entries of a block sequence up to its end. -/
def blockItems (handles : Handles) : Nat → Names → List Token → Parsed (List Node)
  | 0, names, _ => brokenItems names
  | fuel + 1, names, tokens =>
    match tokens with
    | ⟨.blockEntry, _, stop⟩ :: rest =>
      (nodeOrEmpty handles fuel .entry endsBlockEntry (some stop) names rest).andThen ([·])
        fun item names rest => (blockItems handles fuel names rest).map (item :: ·)
    | ⟨.blockEnd, _, _⟩ :: rest => ⟨[], names, some rest⟩
    | _ => brokenItems names

/-- The entries of a sequence that is not indented, up to the first token that is none. -/
def plainItems (handles : Handles) : Nat → Names → List Token → Parsed (List Node)
  | 0, names, _ => brokenItems names
  | fuel + 1, names, tokens =>
    match tokens with
    | [] => brokenItems names
    | ⟨.blockEntry, _, stop⟩ :: rest =>
      (nodeOrEmpty handles fuel .entry endsPlainEntry (some stop) names rest).andThen ([·])
        fun item names rest => (plainItems handles fuel names rest).map (item :: ·)
    | rest => ⟨[], names, some rest⟩

/-- The pairs of a block mapping up to its end. -/
def blockPairs (handles : Handles) : Nat → Names → List Token → Parsed (List (Node × Node))
  | 0, names, _ => brokenPairs names
  | fuel + 1, names, tokens =>
    match tokens with
    | ⟨.key, _, stop⟩ :: rest =>
      (nodeOrEmpty handles fuel .pair endsBlockPair (some stop) names rest).andThen
        (fun key => [(key, .broken)])
        fun key names rest =>
          (valueNode handles fuel .pair endsBlockPair true names rest).andThen
            (fun value => [(key, value)])
            fun value names rest => (blockPairs handles fuel names rest).map ((key, value) :: ·)
    | ⟨.blockEnd, _, _⟩ :: rest => ⟨[], names, some rest⟩
    | _ => brokenPairs names

/-- The items of a flow sequence up to its closing bracket; between two items stands a comma. -/
def flowItems (handles : Handles) : Nat → Bool → Names → List Token → Parsed (List Node)
  | 0, _, names, _ => brokenItems names
  | fuel + 1, first, names, tokens =>
    match tokens with
    | ⟨.flowSequenceEnd, _, _⟩ :: rest => ⟨[], names, some rest⟩
    | ⟨.flowEntry, _, _⟩ :: rest =>
      if first then brokenItems names else flowItem handles fuel names rest
    | tokens => if first then flowItem handles fuel names tokens else brokenItems names

/-- One item of a flow sequence with the items behind it. A pair without braces is a mapping of its own. -/
def flowItem (handles : Handles) : Nat → Names → List Token → Parsed (List Node)
  | 0, names, _ => brokenItems names
  | fuel + 1, names, tokens =>
    match tokens with
    | [] => brokenItems names
    | ⟨.flowSequenceEnd, _, _⟩ :: rest => ⟨[], names, some rest⟩
    | ⟨.key, start, _⟩ :: rest =>
      ((lonePair handles fuel names rest).map (.mapping ⟨start, none, none⟩)).andThen ([·])
        fun item names rest => (flowItems handles fuel false names rest).map (item :: ·)
    | tokens =>
      (node handles fuel .flow names tokens).andThen ([·])
        fun item names rest => (flowItems handles fuel false names rest).map (item :: ·)

/-- The pair of a mapping without braces, behind the mark of its key. A token that ends an empty key is
dropped with it. -/
def lonePair (handles : Handles) : Nat → Names → List Token → Parsed (List (Node × Node))
  | 0, names, _ => brokenPairs names
  | fuel + 1, names, tokens =>
    let key : Parsed Node :=
      match tokens with
      | [] => broken names
      | t :: rest =>
        if t.kind = .value || endsFlowItem t.kind then ⟨.empty t.stop, names, some rest⟩
        else node handles fuel .flow names (t :: rest)
    key.andThen (fun key => [(key, .broken)])
      fun key names rest =>
        (valueNode handles fuel .flow endsFlowItem false names rest).andThen
          (fun value => [(key, value)])
          fun value names rest =>
            if rest.isEmpty then ⟨[(key, value), (.broken, .broken)], names, none⟩
            else ⟨[(key, value)], names, some rest⟩

/-- The pairs of a flow mapping up to its closing brace; between two pairs stands a comma. -/
def flowPairs (handles : Handles) : Nat → Bool → Names → List Token → Parsed (List (Node × Node))
  | 0, _, names, _ => brokenPairs names
  | fuel + 1, first, names, tokens =>
    match tokens with
    | ⟨.flowMappingEnd, _, _⟩ :: rest => ⟨[], names, some rest⟩
    | ⟨.flowEntry, _, _⟩ :: rest =>
      if first then brokenPairs names else flowPair handles fuel names rest
    | tokens => if first then flowPair handles fuel names tokens else brokenPairs names

/-- One pair of a flow mapping with the pairs behind it. A key without its mark has no value. -/
def flowPair (handles : Handles) : Nat → Names → List Token → Parsed (List (Node × Node))
  | 0, names, _ => brokenPairs names
  | fuel + 1, names, tokens =>
    match tokens with
    | [] => brokenPairs names
    | ⟨.flowMappingEnd, _, _⟩ :: rest => ⟨[], names, some rest⟩
    | ⟨.key, _, _⟩ :: rest =>
      let ends (kind : Token.Kind) : Bool := kind = .value || endsFlowPair kind
      (nodeOrEmpty handles fuel .flow ends none names rest).andThen (fun key => [(key, .broken)])
        fun key names rest =>
          (valueNode handles fuel .flow endsFlowPair false names rest).andThen
            (fun value => [(key, value)])
            fun value names rest =>
              (flowPairs handles fuel false names rest).map ((key, value) :: ·)
    | tokens =>
      (node handles fuel .flow names tokens).andThen (fun key => [(key, .broken)])
        fun key names rest =>
          match rest with
          | [] => ⟨[(key, .broken)], names, none⟩
          | t :: _ =>
            (flowPairs handles fuel false names rest).map ((key, .empty t.start) :: ·)

end

/-! ## Streams -/

/-- The handles that every document knows. -/
def standardHandles : Handles := [("!", .ofText "!"), ("!!", .ofText "tag:yaml.org,2002:")]

/-- The directives at the head of a document. A version is given at most once and has to be known; a handle
is declared at most once. -/
def directives? (versioned : Bool) (handles : Handles) : List Token → Option (Handles × List Token)
  | ⟨.versionDirective major minor, _, _⟩ :: rest =>
    if versioned || major != 1 || (minor != 1 && minor != 2) then none
    else directives? true handles rest
  | ⟨.tagDirective handle text, _, _⟩ :: rest =>
    if (handles.lookup handle).isSome then none
    else directives? versioned ((handle, text) :: handles) rest
  | rest => some (handles ++ standardHandles, rest)

/-- The token ends a document. -/
def endsDocument : Token.Kind → Bool
  | .versionDirective _ _ => true
  | .tagDirective _ _ => true
  | .documentStart => true
  | .documentEnd => true
  | .streamEnd => true
  | _ => false

/-- How a stream goes on behind its first document. -/
inductive Ending where
  /-- It ends there. -/
  | proper
  /-- The document itself breaks off. -/
  | broken
  /-- Something else stands behind the document. -/
  | further
deriving DecidableEq, Repr

/-- The first document of a stream, if there is one, and how the stream goes on. -/
structure Stream where
  root : Option Node
  ending : Ending

namespace Stream

/-- Nothing but ends of documents and the end of the stream. -/
def isOver : List Token → Bool
  | ⟨.documentEnd, _, _⟩ :: rest => isOver rest
  | ⟨.streamEnd, _, _⟩ :: _ => true
  | _ => false

/-- A stream with a document. -/
def ofParsed (p : Parsed Node) : Stream :=
  match p.rest with
  | none | some [] => ⟨some p.value, .broken⟩
  | some rest => ⟨some p.value, if isOver rest then .proper else .further⟩

/-- A stream that is broken before its first document. -/
def malformed : Stream := ⟨some .broken, .broken⟩

/-- The first document of a list of tokens. Behind directives a document has to be opened by its mark. -/
def ofTokens (tokens : List Token) : Stream :=
  let fuel := 4 * tokens.length + 4
  match tokens with
  | [] => malformed
  | t :: rest =>
    match t.kind with
    | .streamEnd => ⟨none, .proper⟩
    | .versionDirective _ _ | .tagDirective _ _ | .documentStart =>
      match directives? false [] (t :: rest) with
      | some (handles, ⟨.documentStart, _, _⟩ :: rest) =>
        ofParsed (nodeOrEmpty handles fuel .entry endsDocument none [] rest)
      | _ => malformed
    | _ => ofParsed (node standardHandles fuel .entry [] (t :: rest))

/-- The first document of a text. -/
def ofText (text : String) : Stream := ofTokens (tokens text)

end Stream

end ProfileBindings.Yaml
