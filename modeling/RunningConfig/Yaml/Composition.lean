import RunningConfig.Yaml.Feed
/-!
# Composing nodes

Tokens are composed into nodes from left to right. Where a node is left out, an empty plain
scalar stands in for it. A reference must follow the start of the node it stands for.
-/

namespace RunningConfig.Yaml

/-- A scalar with its head; the tag of a lone exclamation mark counts for nothing. -/
def taggedScalar (head : Head) (style : ScalarStyle) (text : String) : Node :=
  .scalar (if head.tag = some "!" then { head with tag := none } else head) style text

/-- The item of a block sequence is left out in front of such a token. -/
def endsItem (indentless : Bool) : TokenKind → Bool
  | .blockEntry | .blockEnd => true
  | .key | .value => indentless
  | _ => false

/-- The key or value of a block mapping is left out in front of such a token. -/
def endsPart : TokenKind → Bool
  | .key | .value | .blockEnd => true
  | _ => false

/-- The key of a flow collection is left out in front of such a token. -/
def endsFlowKey (close : TokenKind) (kind : TokenKind) : Bool :=
  kind = .value || kind = .flowEntry || kind = close

/-- The value of a flow collection is left out in front of such a token. -/
def endsFlowValue (close : TokenKind) (kind : TokenKind) : Bool :=
  kind = .flowEntry || kind = close

/-- Go over the comma in front of every entry of a flow collection but the first. -/
def takeSeparator (first : Bool) (feed : Feed) : Parsed Feed :=
  if first then .ok feed
  else if feed.next.kind = .flowEntry then .ok feed.advance
  else refuse .missingComma feed.next.start

mutual

/-- Compose a node. Block collections may be forbidden here, and sequences without an
indentation of their own allowed. -/
def composeNode (handles : Handles) (block indentless : Bool) :
    Nat → Feed → Parsed (Node × Feed)
  | 0, feed => refuse .missingNode feed.next.start
  | fuel + 1, feed =>
    match feed.next.kind with
    | .reference name =>
      match feed.anchors.lookup name with
      | some anchor => .ok (.reference feed.next.start anchor, feed.advance)
      | none => refuse .unknownAnchor feed.next.start
    | _ => do
      let (head, feed) ← takeHead handles feed
      composeContent handles block indentless fuel head feed

/-- Compose what follows the head of a node. -/
def composeContent (handles : Handles) (block indentless : Bool) :
    Nat → Head → Feed → Parsed (Node × Feed)
  | 0, _, feed => refuse .missingNode feed.next.start
  | fuel + 1, head, feed =>
    let kind := feed.next.kind
    match kind with
    | .scalar style text => .ok (taggedScalar head style text, feed.advance)
    | .flowSequenceStart => do
      let (items, feed) ← composeFlowItems handles true fuel feed.advance
      return (.sequence head items, feed)
    | .flowMappingStart => do
      let (entries, feed) ← composeFlowEntries handles true fuel feed.advance
      return (.mapping head entries, feed)
    | _ =>
      if indentless && kind = .blockEntry then do
        let (items, feed) ← composeItems handles true fuel feed
        return (.sequence head items, feed)
      else if block && kind = .blockSequenceStart then do
        let (items, feed) ← composeItems handles false fuel feed.advance
        return (.sequence head items, feed)
      else if block && kind = .blockMappingStart then do
        let (entries, feed) ← composeEntries handles fuel feed.advance
        return (.mapping head entries, feed)
      else if head.tag.isSome || head.anchor.isSome then .ok (.scalar head .plain "", feed)
      else refuse .missingNode feed.next.start

/-- Compose the items of a block sequence. -/
def composeItems (handles : Handles) (indentless : Bool) :
    Nat → Feed → Parsed (List Node × Feed)
  | 0, feed => refuse .missingEntry feed.next.start
  | fuel + 1, feed =>
    if feed.next.kind = .blockEntry then do
      let stop := feed.next.stop
      let feed := feed.advance
      let (item, feed) ←
        if endsItem indentless feed.next.kind then pure (Node.blank stop, feed)
        else composeNode handles true false fuel feed
      let (items, feed) ← composeItems handles indentless fuel feed
      return (item :: items, feed)
    else if indentless then .ok ([], feed)
    else if feed.next.kind = .blockEnd then .ok ([], feed.advance)
    else refuse .missingEntry feed.next.start

/-- Compose the entries of a block mapping. -/
def composeEntries (handles : Handles) : Nat → Feed → Parsed (List (Node × Node) × Feed)
  | 0, feed => refuse .missingKey feed.next.start
  | fuel + 1, feed =>
    if feed.next.kind = .key then do
      let (key, feed) ← composePart handles fuel feed.next.stop feed.advance
      let (value, feed) ←
        if feed.next.kind = .value then composePart handles fuel feed.next.stop feed.advance
        else pure (Node.blank feed.next.start, feed)
      let (entries, feed) ← composeEntries handles fuel feed
      return ((key, value) :: entries, feed)
    else if feed.next.kind = .blockEnd then .ok ([], feed.advance)
    else refuse .missingKey feed.next.start

/-- Compose the key or value of a block mapping after its indicator, which stops at a mark. -/
def composePart (handles : Handles) : Nat → Mark → Feed → Parsed (Node × Feed)
  | 0, _, feed => refuse .missingNode feed.next.start
  | fuel + 1, stop, feed =>
    if endsPart feed.next.kind then .ok (Node.blank stop, feed)
    else composeNode handles true true fuel feed

/-- Compose the value of an entry of a flow collection, which may be left out. -/
def composeFlowValue (handles : Handles) (close : TokenKind) :
    Nat → Feed → Parsed (Node × Feed)
  | 0, feed => refuse .missingNode feed.next.start
  | fuel + 1, feed =>
    if feed.next.kind = .value then
      let feed := feed.advance
      if endsFlowValue close feed.next.kind then .ok (Node.blank feed.next.start, feed)
      else composeNode handles false false fuel feed
    else .ok (Node.blank feed.next.start, feed)

/-- Compose the items of a flow sequence. A key makes a mapping of one entry; where the key is
left out, the token after its indicator is passed over. -/
def composeFlowItems (handles : Handles) (first : Bool) :
    Nat → Feed → Parsed (List Node × Feed)
  | 0, feed => refuse .missingComma feed.next.start
  | fuel + 1, feed =>
    if feed.next.kind = .flowSequenceEnd then .ok ([], feed.advance)
    else do
      let feed ← takeSeparator first feed
      if feed.next.kind = .flowSequenceEnd then return ([], feed.advance)
      else
        let (item, feed) ←
          if feed.next.kind = .key then do
            let mark := feed.next.start
            let feed := feed.advance
            let (key, feed) ←
              if endsFlowKey .flowSequenceEnd feed.next.kind then
                pure (Node.blank feed.next.stop, feed.advance)
              else composeNode handles false false fuel feed
            let (value, feed) ← composeFlowValue handles .flowSequenceEnd fuel feed
            pure (Node.mapping { mark } [(key, value)], feed)
          else composeNode handles false false fuel feed
        let (items, feed) ← composeFlowItems handles false fuel feed
        return (item :: items, feed)

/-- Compose the entries of a flow mapping. -/
def composeFlowEntries (handles : Handles) (first : Bool) :
    Nat → Feed → Parsed (List (Node × Node) × Feed)
  | 0, feed => refuse .missingComma feed.next.start
  | fuel + 1, feed =>
    if feed.next.kind = .flowMappingEnd then .ok ([], feed.advance)
    else do
      let feed ← takeSeparator first feed
      if feed.next.kind = .flowMappingEnd then return ([], feed.advance)
      else
        let ((key, value), feed) ←
          if feed.next.kind = .key then do
            let feed := feed.advance
            let (key, feed) ←
              if endsFlowKey .flowMappingEnd feed.next.kind then
                pure (Node.blank feed.next.start, feed)
              else composeNode handles false false fuel feed
            let (value, feed) ← composeFlowValue handles .flowMappingEnd fuel feed
            pure ((key, value), feed)
          else do
            let (key, feed) ← composeNode handles false false fuel feed
            pure ((key, Node.blank feed.next.start), feed)
        let (entries, feed) ← composeFlowEntries handles false fuel feed
        return ((key, value) :: entries, feed)

end

end RunningConfig.Yaml
