import Mathlib.Data.List.Forall2
import RunningConfig.Proofs.Yaml.Values
import RunningConfig.Yaml.Document
/-!
# Composing printed values

The tokens of a printed value are composed into a node that shows the value: a scalar for a scalar,
in the style it is written in, a sequence of its items, a mapping of its entries. Only the kinds of
the tokens decide; four units of fuel for each token are enough.
-/

namespace RunningConfig.Yaml

/-- A node that shows a value. It carries no tag and no anchor. -/
inductive Shows : Value → Node → Prop where
  /-- Null is the plain scalar of that name. -/
  | null (mark : Mark) : Shows .null (.scalar { mark } .plain "null")
  /-- A truth value is a plain scalar. -/
  | boolean (value : Bool) (mark : Mark) :
      Shows (.boolean value) (.scalar { mark } .plain (toString value))
  /-- An integer is a plain scalar. -/
  | integer (value : Int) (mark : Mark) :
      Shows (.integer value) (.scalar { mark } .plain (toString value))
  /-- A text is a scalar in the style that the printer chooses for it. -/
  | text (value : String) (mark : Mark) :
      Shows (.text value) (.scalar { mark } (Printer.style value) value)
  /-- A list is a sequence of nodes that show its items. -/
  | list {items : List Value} {nodes : List Node} (mark : Mark)
      (each : List.Forall₂ Shows items nodes) : Shows (.list items) (.sequence { mark } nodes)
  /-- An object is a mapping from plain keys to nodes that show its values. -/
  | object {entries : List (String × Value)} {nodes : List (Node × Node)} (mark : Mark)
      (keys : List.Forall₂ (fun entry node => ∃ mark : Mark,
        node.1 = .scalar { mark } .plain entry.1) entries nodes)
      (each : List.Forall₂ Shows (entries.map Prod.snd) (nodes.map Prod.snd)) :
      Shows (.object entries) (.mapping { mark } nodes)

namespace Feed

/-- The kinds of the tokens still to be composed. -/
def kinds (feed : Feed) : List TokenKind := feed.tokens.map Token.kind

/-- The next token is of the first kind. -/
theorem kind_next {feed : Feed} {kind : TokenKind} {rest : List TokenKind}
    (kinds : feed.kinds = kind :: rest) : feed.next.kind = kind := by
  obtain ⟨tokens, anchors⟩ := feed
  cases tokens with
  | nil => contradiction
  | cons token tokens => exact (List.cons.inj kinds).1

/-- Going over a token leaves the other kinds. -/
theorem kinds_advance {feed : Feed} {kind : TokenKind} {rest : List TokenKind}
    (kinds : feed.kinds = kind :: rest) : feed.advance.kinds = rest := by
  obtain ⟨tokens, anchors⟩ := feed
  cases tokens with
  | nil => contradiction
  | cons token tokens => exact (List.cons.inj kinds).2

end Feed

/-- A kind of token that starts a node without a tag or an anchor in front of it. -/
def startsContent : TokenKind → Bool
  | .scalar _ _ | .flowSequenceStart | .flowMappingStart | .blockMappingStart | .blockEntry => true
  | _ => false

/-- In front of content stands no tag and no anchor. -/
theorem takeHead_content {handles : Handles} {feed : Feed}
    (content : startsContent feed.next.kind = true) :
    takeHead handles feed = .ok ({ mark := feed.next.start }, feed) := by
  have none : takeProperties feed = ({}, feed) := by
    unfold takeProperties
    split
    case h_1 same => rw [same] at content; contradiction
    case h_2 same => rw [same] at content; contradiction
    case h_3 => rfl
  simp only [takeHead, none]
  rfl

/-- A node that starts with its content is composed from it. -/
theorem composeNode_content {handles : Handles} {block indentless : Bool} {fuel : Nat} {feed : Feed}
    (content : startsContent feed.next.kind = true) :
    composeNode handles block indentless (fuel + 1) feed =
      composeContent handles block indentless fuel { mark := feed.next.start } feed := by
  rw [composeNode]
  split
  case h_1 same => rw [same] at content; contradiction
  case h_2 => rw [takeHead_content content]; rfl

/-- The first token of a value starts its content. -/
theorem startsContent_valueKinds (value : Value) :
    ∃ kind rest, valueKinds value = kind :: rest ∧ startsContent kind = true ∧
      (kind = .blockEntry → ∃ first items, value = .list (first :: items)) := by
  cases value with
  | null | boolean | integer | float | text => exact ⟨_, _, rfl, rfl, by simp⟩
  | list items =>
    cases items with
    | nil => exact ⟨_, _, rfl, rfl, by simp⟩
    | cons first items => exact ⟨_, _, rfl, rfl, fun _ => ⟨first, items, rfl⟩⟩
  | object entries =>
    cases entries <;> exact ⟨_, _, rfl, rfl, by simp⟩

/-- A sequence without an indentation of its own ends where no further item follows. -/
def EndsItems (rest : List TokenKind) : Prop := rest.head? ≠ some .blockEntry

/-- The tokens of a value, with others after them, are composed into a node that shows it. A list
with items must be allowed to have no indentation of its own. -/
def Composes (value : Value) : Prop :=
  ∀ (handles : Handles) (indentless : Bool) (fuel : Nat) {feed : Feed} {rest : List TokenKind},
    feed.kinds = valueKinds value ++ rest → 4 * (valueKinds value).length + 3 ≤ fuel →
    (∀ first items, value = .list (first :: items) → indentless = true ∧ EndsItems rest) →
    ∃ node after, composeNode handles true indentless fuel feed = .ok (node, after) ∧
      Shows value node ∧ after.kinds = rest

/-- A scalar is composed into one. -/
theorem composeNode_scalar {handles : Handles} {block indentless : Bool} {fuel : Nat} {feed : Feed}
    {style : ScalarStyle} {text : String} {rest : List TokenKind}
    (same : feed.kinds = .scalar style text :: rest) :
    composeNode handles block indentless (fuel + 2) feed =
      .ok (.scalar { mark := feed.next.start } style text, feed.advance) := by
  have next := Feed.kind_next same
  rw [composeNode_content (by rw [next]; rfl), composeContent]
  simp only [next]
  rfl

/-- A scalar is composed. -/
theorem composes_scalar {value : Value} {style : ScalarStyle} {text : String}
    (kinds : valueKinds value = [.scalar style text])
    (shows' : ∀ mark, Shows value (.scalar { mark } style text)) : Composes value := by
  intro handles indentless fuel feed rest same enough _
  rw [kinds] at same enough
  obtain ⟨fuel, rfl⟩ : ∃ less, fuel = less + 2 := ⟨fuel - 2, by simp at enough; omega⟩
  exact ⟨_, feed.advance, composeNode_scalar same, shows' feed.next.start, Feed.kinds_advance same⟩

/-- A list without items is composed. -/
theorem composes_emptyList : Composes (.list []) := by
  intro handles indentless fuel feed rest same enough _
  obtain ⟨fuel, rfl⟩ : ∃ less, fuel = less + 3 := ⟨fuel - 3, by omega⟩
  have same : feed.kinds = .flowSequenceStart :: .flowSequenceEnd :: rest := same
  have next := Feed.kind_next same
  have same' := Feed.kinds_advance same
  have next' := Feed.kind_next same'
  refine ⟨_, feed.advance.advance, ?_, .list feed.next.start .nil, Feed.kinds_advance same'⟩
  rw [composeNode_content (by rw [next]; rfl), composeContent]
  simp only [next]
  rw [composeFlowItems, if_pos next']
  rfl

/-- An object without entries is composed. -/
theorem composes_emptyObject : Composes (.object []) := by
  intro handles indentless fuel feed rest same enough _
  obtain ⟨fuel, rfl⟩ : ∃ less, fuel = less + 3 := ⟨fuel - 3, by omega⟩
  have same : feed.kinds = .flowMappingStart :: .flowMappingEnd :: rest := same
  have next := Feed.kind_next same
  have same' := Feed.kinds_advance same
  have next' := Feed.kind_next same'
  refine ⟨_, feed.advance.advance, ?_, .object feed.next.start .nil .nil, Feed.kinds_advance same'⟩
  rw [composeNode_content (by rw [next]; rfl), composeContent]
  simp only [next]
  rw [composeFlowEntries, if_pos next']
  rfl

/-- What starts content is no end of an item, but for the next item. -/
theorem endsItem_content {kind : TokenKind} (indentless : Bool)
    (content : startsContent kind = true) (other : kind ≠ .blockEntry) :
    endsItem indentless kind = false := by
  cases kind <;> first | rfl | contradiction

/-- What starts content is no end of a key or a value. -/
theorem endsPart_content {kind : TokenKind} (content : startsContent kind = true) :
    endsPart kind = false := by
  cases kind <;> first | rfl | contradiction

/-- The items of a list are composed, if their values are. -/
theorem composeItems_printed (handles : Handles) {items : List Value} (fuel : Nat) {feed : Feed}
    {rest : List TokenKind} (composes : ∀ item ∈ items, Composes item)
    (flat : ∀ item ∈ items, ∀ first inner, item ≠ .list (first :: inner))
    (same : feed.kinds = itemKinds items ++ rest) (ends : EndsItems rest)
    (enough : 4 * (itemKinds items).length + 1 ≤ fuel) :
    ∃ nodes after, composeItems handles true fuel feed = .ok (nodes, after) ∧
      List.Forall₂ Shows items nodes ∧ after.kinds = rest := by
  induction items generalizing fuel feed with
  | nil =>
    obtain ⟨fuel, rfl⟩ : ∃ less, fuel = less + 1 := ⟨fuel - 1, by omega⟩
    have stop : feed.next.kind ≠ .blockEntry := by
      obtain ⟨tokens, anchors⟩ := feed
      cases tokens with
      | nil => simp [Feed.next]
      | cons token tokens =>
        intro entry
        apply ends
        rw [← show _ = rest from same]
        exact congrArg some entry
    exact ⟨[], feed, by rw [composeItems, if_neg stop]; rfl, .nil, same⟩
  | cons item items ih =>
    obtain ⟨composed, composes⟩ := List.forall_mem_cons.mp composes
    obtain ⟨alone, flat⟩ := List.forall_mem_cons.mp flat
    have kinds :
      itemKinds (item :: items) = .blockEntry :: (valueKinds item ++ itemKinds items) := rfl
    rw [kinds] at same enough
    simp only [List.cons_append, List.append_assoc, List.length_cons,
      List.length_append] at same enough
    obtain ⟨fuel, rfl⟩ : ∃ less, fuel = less + 1 := ⟨fuel - 1, by omega⟩
    have entry := Feed.kind_next same
    have inner := Feed.kinds_advance same
    obtain ⟨kind, later, first, content, block⟩ := startsContent_valueKinds item
    -- Only a list with items would start with a hyphen and be taken for the next item.
    have next : feed.advance.next.kind = kind := Feed.kind_next (by rw [inner, first]; rfl)
    have goesOn : endsItem true feed.advance.next.kind = false := by
      rw [next]
      refine endsItem_content true content fun same => ?_
      obtain ⟨one, others, list⟩ := block same
      exact alone one others list
    obtain ⟨node, after, node', shows', left⟩ := composed handles false fuel inner (by omega)
      fun one others list => absurd list (alone one others)
    obtain ⟨nodes, last, nodes', showing, left⟩ := ih fuel composes flat left (by omega)
    refine ⟨node :: nodes, last, ?_, .cons shows' showing, left⟩
    rw [composeItems, if_pos entry]
    simp only [goesOn, Bool.false_eq_true, if_false, node', bind, Except.bind, nodes']
    rfl

/-- A key or a value that is not left out is composed as a node. -/
theorem composePart_content {handles : Handles} {fuel : Nat} {stop : Mark} {feed : Feed}
    (content : startsContent feed.next.kind = true) :
    composePart handles (fuel + 1) stop feed = composeNode handles true true fuel feed := by
  rw [composePart, endsPart_content content]
  rfl

/-- The entries of an object are composed, if their values are. -/
theorem composeEntries_printed (handles : Handles) {entries : List (String × Value)} (fuel : Nat)
    {feed : Feed} {rest : List TokenKind} (composes : ∀ entry ∈ entries, Composes entry.2)
    (same : feed.kinds = entryKinds entries ++ .blockEnd :: rest)
    (enough : 4 * (entryKinds entries).length + 1 ≤ fuel) :
    ∃ nodes after, composeEntries handles fuel feed = .ok (nodes, after) ∧
      List.Forall₂ (fun entry node => ∃ mark : Mark,
        node.1 = .scalar { mark } .plain entry.1) entries nodes ∧
      List.Forall₂ Shows (entries.map Prod.snd) (nodes.map Prod.snd) ∧ after.kinds = rest := by
  induction entries generalizing fuel feed with
  | nil =>
    obtain ⟨fuel, rfl⟩ : ∃ less, fuel = less + 1 := ⟨fuel - 1, by omega⟩
    have next : feed.next.kind = .blockEnd := Feed.kind_next same
    refine ⟨[], feed.advance, ?_, .nil, .nil, Feed.kinds_advance same⟩
    simp [composeEntries, next]
  | cons entry entries ih =>
    obtain ⟨name, value⟩ := entry
    obtain ⟨composed, composes⟩ := List.forall_mem_cons.mp composes
    have kinds : entryKinds ((name, value) :: entries) =
        .key :: .scalar .plain name :: .value :: (valueKinds value ++ entryKinds entries) := rfl
    rw [kinds] at same enough
    simp only [List.cons_append, List.append_assoc, List.length_cons,
      List.length_append] at same enough
    obtain ⟨fuel, rfl⟩ : ∃ less, fuel = less + 4 := ⟨fuel - 4, by omega⟩
    -- Three tokens go in front of the value: the mark of a key, its name, and the mark of a value.
    have key := Feed.kind_next same
    have same := Feed.kinds_advance same
    have named : composePart handles (fuel + 3) feed.next.stop feed.advance =
        .ok (.scalar { mark := feed.advance.next.start } .plain name, feed.advance.advance) := by
      rw [composePart_content (by rw [Feed.kind_next same]; rfl), composeNode_scalar same]
    have same := Feed.kinds_advance same
    have colon := Feed.kind_next same
    have same := Feed.kinds_advance same
    obtain ⟨kind, later, first, content, -⟩ := startsContent_valueKinds value
    have next : feed.advance.advance.advance.next.kind = kind :=
      Feed.kind_next (by rw [same, first]; rfl)
    have further : EndsItems (entryKinds entries ++ .blockEnd :: rest) := by
      cases entries <;> simp [EndsItems, entryKinds]
    have fueled : 4 * (valueKinds value).length + 3 ≤ fuel + 2 := by omega
    obtain ⟨node, after, node', shows', left⟩ := composed handles true (fuel + 2) same fueled
      fun _ _ _ => ⟨rfl, further⟩
    have valued : composePart handles (fuel + 3) feed.advance.advance.next.stop
        feed.advance.advance.advance = .ok (node, after) := by
      rw [composePart_content (by rw [next]; exact content), node']
    obtain ⟨nodes, last, nodes', keys, showing, left⟩ := ih (fuel + 3) composes left (by omega)
    refine ⟨(.scalar { mark := feed.advance.next.start } .plain name, node) :: nodes, last, ?_,
      .cons ⟨_, rfl⟩ keys, .cons shows' showing, left⟩
    rw [composeEntries, if_pos key]
    simp only [named, colon, if_true, valued, nodes', bind, Except.bind]
    rfl

/-- A printable value is composed into a node that shows it. -/
theorem composes {value : Value} (printable : Printable value) : Composes value := by
  induction printable with
  | null => exact composes_scalar rfl .null
  | boolean value => exact composes_scalar rfl (.boolean value)
  | integer value => exact composes_scalar rfl (.integer value)
  | text value => exact composes_scalar rfl (.text value)
  | @list items each flat ih =>
    cases items with
    | nil => exact composes_emptyList
    | cons first items =>
      intro handles indentless fuel feed rest same enough bare
      -- A list with items has no indentation of its own: it ends at the first token that is no
      -- hyphen, and no token marks that end.
      obtain ⟨rfl, ends⟩ := bare first items rfl
      have kinds : valueKinds (.list (first :: items)) = itemKinds (first :: items) := rfl
      rw [kinds] at same enough
      obtain ⟨fuel, rfl⟩ : ∃ less, fuel = less + 2 := ⟨fuel - 2, by omega⟩
      have next : feed.next.kind = .blockEntry := Feed.kind_next same
      obtain ⟨nodes, after, nodes', showing, left⟩ := composeItems_printed handles fuel ih flat
        same ends (by omega)
      refine ⟨.sequence { mark := feed.next.start } nodes, after, ?_, .list _ showing, left⟩
      rw [composeNode_content (by rw [next]; rfl), composeContent]
      simp only [next, nodes', bind, Except.bind]
      rfl
  | @object entries each keys ih =>
    cases entries with
    | nil => exact composes_emptyObject
    | cons first entries =>
      intro handles indentless fuel feed rest same enough _
      have kinds : valueKinds (.object (first :: entries)) =
          .blockMappingStart :: (entryKinds (first :: entries) ++ [.blockEnd]) := rfl
      rw [kinds] at same enough
      simp only [List.cons_append, List.append_assoc, List.nil_append, List.length_cons,
        List.length_append] at same enough
      obtain ⟨fuel, rfl⟩ : ∃ less, fuel = less + 2 := ⟨fuel - 2, by omega⟩
      have next := Feed.kind_next same
      obtain ⟨nodes, after, nodes', keys, showing, left⟩ := composeEntries_printed handles
        fuel ih (Feed.kinds_advance same) (by omega)
      refine ⟨.mapping { mark := feed.next.start } nodes, after, ?_, .object _ keys showing, left⟩
      rw [composeNode_content (by rw [next]; rfl), composeContent]
      simp only [next, nodes', bind, Except.bind]
      simp
      rfl

end RunningConfig.Yaml
