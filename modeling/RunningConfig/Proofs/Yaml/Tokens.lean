import RunningConfig.Proofs.Yaml.Literal
import RunningConfig.Proofs.Yaml.Plain
import RunningConfig.Proofs.Yaml.Progress
/-!
# Tokens of what is printed

Each piece that the printer writes is cut into the tokens it stands for: a scalar, an empty
collection, a key with its colon, the hyphen of an item. A scalar stands right of the current block,
and the line after it does not, so that the scalar ends there.
-/

namespace RunningConfig.Yaml.TokenStream

open Printer (spaces)

variable {stream : TokenStream} {next : List Char} {column : Nat} {allowed : Bool}
  {progress : Progress}

/-! ## Candidates for keys -/

/-- A candidate that need not be a key is given up. -/
theorem dropKey_loose (loose : Loose stream.key) :
    stream.dropKey = .ok { stream with key := none } := by
  obtain ⟨cursor, tokens, indent, outerIndents, key, outerKeys, keyAllowed⟩ := stream
  cases key with
  | none => rfl
  | some candidate => simp [dropKey, loose candidate rfl]

/-- Right of the current block nothing must be a key. -/
theorem saveKey_right (loose : Loose stream.key) (right : stream.indent < stream.mark.column) :
    ∃ key, Loose key ∧ stream.saveKey = .ok { stream with key } := by
  have elsewhere : stream.indent ≠ stream.mark.column := Int.ne_of_lt right
  by_cases allowed : stream.keyAllowed = true
  · refine ⟨some { required := false, position := stream.tokens.length, mark := stream.mark },
      by simp [Loose], ?_⟩
    simp [saveKey, allowed, dropKey_loose loose, elsewhere]
    rfl
  · exact ⟨stream.key, loose, if_neg allowed⟩

/-! ## What a scalar starts with -/

/-- The indicators that start a token whatever follows them. -/
def indicators : List Char :=
  ['%', '[', ']', '\x7b', '\x7d', ',', '*', '&', '!', '|', '>', '\x27', '"']

/-- They are indicators. -/
theorem isIndicator_of_mem : ∀ char ∈ indicators, isIndicator char = true :=
  List.all_eq_true.mp (by decide)

/-- What starts a plain scalar in a block: no indicator, but for a hyphen, a question mark or a
colon without a gap after it. -/
theorem takeToken_plain {char : Char} {rest : List Char} (block : stream.outerKeys = [])
    (starts : Printer.startsWithIndicator (char :: rest) = false)
    (start : stream.cursor.atMarker '-' = false) (stop : stream.cursor.atMarker '.' = false) :
    stream.takeToken char rest = stream.takePlain := by
  have flow : stream.inFlow = false := by simp [inFlow, block]
  rw [Printer.startsWithIndicator] at starts
  split at starts
  case isTrue special =>
    have hyphen : rest.head?.any isBlank = false := by
      cases rest with
      | nil => rfl
      | cons next rest => exact (Bool.or_eq_false_iff.mp starts).1
    simp only [Bool.or_eq_true, decide_eq_true_eq] at special
    rcases special with (rfl | rfl) | rfl <;>
      simp [takeToken, start, stop, flow, starts, startsPlain, hyphen]
  case isFalse special =>
    have other : ∀ first ∈ indicators, char ≠ first := by
      rintro first member rfl
      rw [isIndicator_of_mem char member] at starts
      contradiction
    simp only [Bool.or_eq_true, decide_eq_true_eq, not_or] at special
    simp only [indicators, List.forall_mem_cons] at other
    simp [takeToken, start, stop, flow, starts, startsPlain, special, other]

/-- What follows a piece: the next line, at a column that the current block reaches, and no further
line of the piece. -/
structure Ends (progress : Progress) (next : List Char) (column : Nat) : Prop where
  /-- No gap and no comment comes next. -/
  solid : Solid next
  /-- The current block reaches the column. -/
  reached : column ≤ progress.indent

/-- After the end of a line the stream is at the next one. -/
theorem at_line {count : Nat} (block : stream.outerKeys = []) (loose : Loose stream.key)
    (same : stream.progress = progress) (solid : Solid next)
    (rest : stream.cursor.rest = '\n' :: (spaces count ++ next)) :
    At stream.advance next count true (progress.close count) := by
  have gap := skipGap_line count stream.mark stream.keyAllowed solid
  rw [← rest] at gap
  simpa [Mark.advance, Mark.nextLine] using at_advance block loose same gap

/-- At the start of a line the stream is there. -/
theorem at_start {count : Nat} {mark : Mark} (block : stream.outerKeys = [])
    (loose : Loose stream.key) (same : stream.progress = progress) (solid : Solid next)
    (cursor : stream.cursor = { rest := next, mark }) (keyAllowed : stream.keyAllowed = true)
    (start : mark.column = count) :
    At stream.advance next count true (progress.close count) := by
  have gap := skipGap_solid false mark true solid
  have gap' : skipGap false false stream.cursor.rest stream.mark stream.keyAllowed =
      ({ rest := next, mark }, true) := by
    rw [TokenStream.mark, cursor, keyAllowed]
    exact gap
  rw [← start]
  exact at_advance block loose same gap'

/-- A cursor is what it holds. -/
theorem At.cursor {rest : List Char} (stands : At stream rest column allowed progress) :
    stream.cursor = { rest, mark := stream.mark } := by
  rw [← stands.rest]
  rfl

/-- Outside flow collections. -/
theorem At.inFlow {rest : List Char} (stands : At stream rest column allowed progress) :
    stream.inFlow = false := by
  simp [TokenStream.inFlow, stands.block]

/-- The block of a stream is that of its progress. -/
theorem At.indent {rest : List Char} (stands : At stream rest column allowed progress) :
    stream.indent = progress.indent := by
  rw [← stands.progress]
  rfl

/-- Right of its block a stream is at no marker. -/
theorem At.atMarker {rest : List Char} (stands : At stream rest column allowed progress)
    (right : column ≠ 0) (char : Char) : stream.cursor.atMarker char = false := by
  have column : stream.cursor.mark.column ≠ 0 := by
    rw [← stands.column] at right
    exact right
  simp [Cursor.atMarker, column]

/-- What a plain scalar starts with is no indicator, whatever follows the scalar. -/
theorem startsWithIndicator_append {text : List Char} (nonempty : text ≠ [])
    (fits : Printer.fitsPlain text = true) (rest : List Char) :
    Printer.startsWithIndicator (text ++ rest) = false := by
  simp only [Printer.fitsPlain, Bool.and_eq_true, Bool.not_eq_true'] at fits
  obtain ⟨⟨-, free⟩, -⟩ := fits
  obtain ⟨first, others, rfl⟩ := List.exists_cons_of_ne_nil nonempty
  cases others with
  | nil =>
    simp only [Printer.startsWithIndicator] at free
    simp only [List.cons_append, Printer.startsWithIndicator]
    split at free
    case isTrue special => simp [atGap] at free
    case isFalse special => simpa [special] using free
  | cons second others => exact free

/-- A plain scalar is cut. -/
theorem Step.plain {text : List Char} {count : Nat}
    (stands : At stream.advance (text ++ '\n' :: (spaces count ++ next)) column allowed progress)
    (fits : Printer.fitsPlain text = true) (nonempty : text ≠ [])
    (right : progress.indent < column) (ends : Ends progress next count) :
    ∃ after, Step stream after ∧ At after.advance next count true
      ((progress.push (.scalar .plain (String.ofList text))).close count) := by
  have reached := ends.reached
  have start : column ≠ 0 := by omega
  have free := startsWithIndicator_append nonempty fits ('\n' :: (spaces count ++ next))
  obtain ⟨key, loose, saved⟩ := saveKey_right stands.loose
    (by rw [stands.indent, stands.column]; exact right)
  have outside : count < (progress.indent + 1).toNat := by omega
  have inside : (progress.indent + 1).toNat ≤ stream.advance.mark.column := by
    rw [stands.column]
    omega
  obtain ⟨stop, mark, same, taken⟩ := Plain.take_printed stream.advance.mark fits nonempty
    ends.solid.clear outside inside
  have cut : stream.advance.takePlain = .ok { stream.advance with
      cursor := { rest := next, mark }, key, keyAllowed := true,
      tokens := { kind := .scalar .plain (String.ofList text), start := stream.advance.mark, stop }
        :: stream.advance.tokens } := by
    have flow : ({ stream.advance with key } : TokenStream).inFlow = false := stands.inFlow
    simp only [takePlain, saved, bind, Except.bind, flow]
    rw [stands.indent, stands.cursor, taken]
    rfl
  obtain ⟨first, others, split⟩ : ∃ first others,
      text ++ '\n' :: (spaces count ++ next) = first :: others := by
    obtain ⟨first, others, rfl⟩ := List.exists_cons_of_ne_nil nonempty
    exact ⟨_, _, rfl⟩
  have token := takeToken_plain stands.block (split ▸ free) (stands.atMarker start '-')
    (stands.atMarker start '.')
  refine ⟨_, ⟨first, others, by rw [stands.rest, split], token.trans cut, ?_⟩, ?_⟩
  · have lengths := congrArg List.length split
    simp at lengths ⊢
    omega
  · refine at_start stands.block loose ?_ ends.solid rfl rfl same
    rw [← stands.progress]
    rfl

/-- A quoted scalar is cut. -/
theorem Step.quoted {quote : Char} {text inside : List Char} {count : Nat} {style : ScalarStyle}
    (single : Bool)
    (stands : At stream.advance (quote :: inside ++ '\n' :: (spaces count ++ next)) column allowed
      progress)
    (opens : stream.advance.takeToken quote (inside ++ '\n' :: (spaces count ++ next)) =
      stream.advance.takeQuoted single)
    (named : (if single then .singleQuoted else .doubleQuoted) = style)
    (taken : ∀ mark : Mark, ∃ after : Mark,
      Quoted.take single { rest := quote :: inside ++ '\n' :: (spaces count ++ next), mark } =
        .ok (text, { rest := '\n' :: (spaces count ++ next), mark := after }))
    (right : progress.indent < column) (ends : Ends progress next count) :
    ∃ after, Step stream after ∧ At after.advance next count true
      ((progress.push (.scalar style (String.ofList text))).close count) := by
  obtain ⟨key, loose, saved⟩ := saveKey_right stands.loose
    (by rw [stands.indent, stands.column]; exact right)
  obtain ⟨mark, taken⟩ := taken stream.advance.mark
  have cut : stream.advance.takeQuoted single = .ok { stream.advance with
      cursor := { rest := '\n' :: (spaces count ++ next), mark }, key, keyAllowed := false,
      tokens := { kind := .scalar style (String.ofList text), start := stream.advance.mark,
                  stop := mark } :: stream.advance.tokens } := by
    simp only [takeQuoted, saved, bind, Except.bind]
    rw [stands.cursor, taken, ← named]
    rfl
  refine ⟨_, ⟨quote, _, stands.rest, opens.trans cut, by simp⟩, ?_⟩
  refine at_line stands.block loose ?_ ends.solid rfl
  rw [← stands.progress]
  rfl

/-- A scalar in single quotes is cut. -/
theorem Step.singleQuoted {text : List Char} {count indent : Nat}
    (stands : At stream.advance ('\x27' :: (Printer.singleQuoted indent false text ++ ['\x27'])
      ++ '\n' :: (spaces count ++ next)) column allowed progress)
    (fits : Quoted.Fits text) (deep : 0 < indent)
    (right : progress.indent < column) (ends : Ends progress next count) :
    ∃ after, Step stream after ∧ At after.advance next count true
      ((progress.push (.scalar .singleQuoted (String.ofList text))).close count) := by
  have start : column ≠ 0 := by have := ends.reached; omega
  refine Step.quoted true stands ?_ rfl (fun mark => ?_) right ends
  · simp [takeToken, stands.atMarker start, stands.inFlow]
  · have alone : ('\n' :: (spaces count ++ next)).head? ≠ some '\x27' := by simp
    simpa using Quoted.take_singleQuoted mark fits deep alone

/-- A scalar in double quotes is cut. -/
theorem Step.doubleQuoted {text : List Char} {count : Nat}
    (stands : At stream.advance ('"' :: (Printer.doubleQuoted text ++ ['"'])
      ++ '\n' :: (spaces count ++ next)) column allowed progress)
    (right : progress.indent < column) (ends : Ends progress next count) :
    ∃ after, Step stream after ∧ At after.advance next count true
      ((progress.push (.scalar .doubleQuoted (String.ofList text))).close count) := by
  have start : column ≠ 0 := by have := ends.reached; omega
  refine Step.quoted false stands ?_ rfl (fun mark => ?_) right ends
  · simp [takeToken, stands.atMarker start, stands.inFlow]
  · have alone : ('\n' :: (spaces count ++ next)).head? ≠ some '\x27' := by simp
    simpa using Quoted.take_doubleQuoted text mark alone

/-- A literal scalar is cut. -/
theorem Step.literal {text : List Char} {count block : Nat}
    (stands : At stream.advance (Printer.literalHeader text ++ ('\n' :: (Printer.literalLines
      (block + 2) true text ++ (Block.ending text ++ (spaces count ++ next))))) column allowed
      progress)
    (nonempty : text ≠ []) (shown : ∀ char ∈ text, Printer.isShown char = true)
    (current : progress.indent = block)
    (right : progress.indent < column) (ends : Ends progress next count) :
    ∃ after, Step stream after ∧ At after.advance next count true
      ((progress.push (.scalar .literal (String.ofList text))).close count) := by
  have reached := ends.reached
  have start : column ≠ 0 := by omega
  have follows : Block.Next count (block + 2) next := ⟨ends.solid.clear, by omega⟩
  obtain ⟨mark, same, taken⟩ := Block.take_printed stream.advance.mark nonempty shown follows
  have cut : stream.advance.takeBlockScalar true = .ok { stream.advance with
      cursor := { rest := next, mark }, key := none, keyAllowed := true,
      tokens := { kind := .scalar .literal (String.ofList text), start := stream.advance.mark,
                  stop := mark } :: stream.advance.tokens } := by
    simp only [takeBlockScalar, dropKey_loose stands.loose, bind, Except.bind]
    rw [stands.indent, current, stands.cursor, taken]
    rfl
  rw [Block.literalHeader_eq] at stands
  refine ⟨_, ⟨'|', _, stands.rest, Eq.trans ?_ cut, ?_⟩, ?_⟩
  · simp [takeToken, stands.atMarker start, stands.inFlow]
  · simp
    omega
  · refine at_start stands.block loose_none ?_ ends.solid rfl rfl same
    rw [← stands.progress]
    rfl

/-! ## Empty collections -/

/-- The kinds of flow collections: their brackets and the tokens of these. -/
inductive IsFlow : Char → Char → TokenKind → TokenKind → Prop where
  /-- A sequence in brackets. -/
  | sequence : IsFlow '[' ']' .flowSequenceStart .flowSequenceEnd
  /-- A mapping in braces. -/
  | mapping : IsFlow '\x7b' '\x7d' .flowMappingStart .flowMappingEnd

/-- Away from the start of a line a bracket opens a flow collection. -/
theorem IsFlow.takeToken_open {first last : Char} {opening closing : TokenKind}
    (flow : IsFlow first last opening closing) (start : stream.cursor.atMarker '-' = false)
    (stop : stream.cursor.atMarker '.' = false) (rest : List Char) :
    stream.takeToken first rest = stream.takeFlowStart opening := by
  cases flow <;> simp [takeToken, start, stop]

/-- Away from the start of a line a bracket closes a flow collection. -/
theorem IsFlow.takeToken_close {first last : Char} {opening closing : TokenKind}
    (flow : IsFlow first last opening closing) (start : stream.cursor.atMarker '-' = false)
    (stop : stream.cursor.atMarker '.' = false) (rest : List Char) :
    stream.takeToken last rest = stream.takeFlowEnd closing := by
  cases flow <;> simp [takeToken, start, stop]

/-- No gap and no comment starts with a bracket. -/
theorem IsFlow.solid {first last : Char} {opening closing : TokenKind}
    (flow : IsFlow first last opening closing) (rest : List Char) : Solid (last :: rest) := by
  cases flow <;> exact ⟨clear_cons (by decide), by simp⟩

/-- A stream at what is solid stays there, if no block ends there. -/
theorem advance_eq (solid : Solid stream.cursor.rest)
    (inside : stream.inFlow = true ∨ stream.indent ≤ stream.mark.column) :
    stream.advance = stream := by
  unfold advance
  rw [skipGap_solid _ _ _ solid]
  rcases inside with flow | reached
  · exact if_pos flow
  · obtain ⟨cursor, tokens, indent, outerIndents, key, outerKeys, keyAllowed⟩ := stream
    have still : closing cursor.mark.column indent outerIndents = (0, indent, outerIndents) := by
      cases outerIndents with
      | nil => rfl
      | cons outer around => exact if_neg (Int.not_lt.mpr reached)
    simp [closeBlocks, TokenStream.mark, still]

/-- A stream inside a flow collection that stands in a block: what follows it, and how far it is. -/
structure Inside (stream : TokenStream) (rest : List Char) (progress : Progress) : Prop where
  /-- The text that follows. -/
  rest : stream.cursor.rest = rest
  /-- The stream is not at the start of a line, so no marker is there. -/
  column : stream.mark.column ≠ 0
  /-- One collection is open, and nothing before it has to be a key. -/
  around : ∃ key, Loose key ∧ stream.outerKeys = [key]
  /-- No token inside is a candidate for a key. -/
  key : stream.key = none
  /-- The tokens cut and the blocks opened so far. -/
  progress : stream.progress = progress

/-- The start of a flow collection is cut. -/
theorem Step.openFlow {first last : Char} {opening closing : TokenKind} {rest : List Char}
    (stands : At stream.advance (first :: rest) column allowed progress)
    (flow : IsFlow first last opening closing) (start : column ≠ 0)
    (right : progress.indent < column) :
    ∃ after, Step stream after ∧ Inside after rest (progress.push opening) := by
  obtain ⟨key, loose, saved⟩ := saveKey_right stands.loose
    (by rw [stands.indent, stands.column]; exact right)
  obtain ⟨after, cut, inside⟩ : ∃ after, stream.advance.takeFlowStart opening = .ok after ∧
      Inside after rest (progress.push opening) := by
    refine ⟨_, by rw [takeFlowStart, saved]; rfl, ?_, ?_, ⟨key, loose, ?_⟩, rfl, ?_⟩
    · simp [takeIndicator, take, Cursor.skip, stands.rest]
    · simp [takeIndicator, take, Cursor.skip, TokenStream.mark, Mark.advance]
    · simp [takeIndicator, take, push, stands.block]
    · rw [← stands.progress]
      rfl
  have token := flow.takeToken_open (stands.atMarker start '-') (stands.atMarker start '.') rest
  exact ⟨after, ⟨first, rest, stands.rest, token.trans cut, Nat.le_of_eq (congrArg _ inside.rest)⟩,
    inside⟩

/-- The end of a flow collection is cut, and what follows it is the end of the line. -/
theorem Step.closeFlow {first last : Char} {opening closing : TokenKind} {count : Nat}
    (inside : Inside stream (last :: '\n' :: (spaces count ++ next)) progress)
    (flow : IsFlow first last opening closing) (solid : Solid next) :
    ∃ after, Step stream after ∧ At after.advance next count true
      ((progress.push closing).close count) := by
  obtain ⟨key, loose, outer⟩ := inside.around
  have still : stream.advance = stream :=
    advance_eq (inside.rest ▸ flow.solid _) (Or.inl (by simp [inFlow, outer]))
  have marker (char : Char) : stream.cursor.atMarker char = false := by
    have column : stream.cursor.mark.column ≠ 0 := inside.column
    simp [Cursor.atMarker, column]
  have cut : stream.takeFlowEnd closing =
      .ok { (stream.takeIndicator closing 1).allowKey false with key, outerKeys := [] } := by
    rw [takeFlowEnd, dropKey_loose (by rw [inside.key]; exact loose_none)]
    simp [bind, Except.bind, takeIndicator, take, push, allowKey, outer]
    rfl
  have token := flow.takeToken_close (marker '-') (marker '.') ('\n' :: (spaces count ++ next))
  have rest : (stream.cursor.skip 1).rest = '\n' :: (spaces count ++ next) := by
    simp [Cursor.skip, inside.rest]
  refine ⟨_, ⟨last, _, by rw [still, inside.rest], by rw [still]; exact token.trans cut, ?_⟩, ?_⟩
  · exact Nat.le_of_eq (congrArg List.length rest)
  · refine at_line rfl loose ?_ solid rest
    rw [← inside.progress]
    rfl

/-- An empty collection is cut. -/
theorem Steps.empty {first last : Char} {opening closing : TokenKind} {count : Nat}
    (stands : At stream.advance (first :: last :: '\n' :: (spaces count ++ next)) column allowed
      progress)
    (flow : IsFlow first last opening closing)
    (right : progress.indent < column) (ends : Ends progress next count) :
    ∃ after, Steps stream after ∧ At after.advance next count true
      ((progress.pushes [opening, closing]).close count) := by
  have start : column ≠ 0 := by have := ends.reached; omega
  obtain ⟨opened, first, inside⟩ := Step.openFlow stands flow start right
  obtain ⟨closed, second, stands⟩ := Step.closeFlow inside flow ends.solid
  exact ⟨closed, .head first second.steps, stands⟩

/-! ## Keys and items -/

/-- A stream right after an indicator: what follows it, whether a key may, and how far it is. -/
structure Past (stream : TokenStream) (rest : List Char) (allowed : Bool)
    (progress : Progress) : Prop where
  /-- The text that follows. -/
  rest : stream.cursor.rest = rest
  /-- No token is a candidate for a key. -/
  key : stream.key = none
  /-- No flow collection is open. -/
  block : stream.outerKeys = []
  /-- Whether a key may follow. -/
  allowed : stream.keyAllowed = allowed
  /-- The tokens cut and the blocks opened so far. -/
  progress : stream.progress = progress

/-- After a gap of spaces the stream is at what follows. -/
theorem Past.spaces {count : Nat} (past : Past stream (spaces count ++ next) allowed progress)
    (solid : Solid next) : ∃ column, stream.mark.column + count = column ∧
      At stream.advance next column allowed (progress.close column) := by
  have gap := skipGap_spaces count stream.mark stream.keyAllowed solid
  rw [← past.rest] at gap
  refine ⟨_, rfl, ?_⟩
  rw [← past.allowed]
  exact at_advance past.block (by rw [past.key]; exact loose_none) past.progress gap

/-- After the end of a line the stream is at the next one. -/
theorem Past.line {count : Nat} (past : Past stream ('\n' :: (Printer.spaces count ++ next)) allowed
    progress) (solid : Solid next) : At stream.advance next count true (progress.close count) :=
  at_line past.block (by rw [past.key]; exact loose_none) past.progress solid past.rest

/-- A hyphen with a gap after it is no marker. -/
theorem atMarker_hyphen {rest : List Char} {cursor : Cursor} (starts : cursor.rest = '-' :: rest)
    (gap : atGap rest = true) (char : Char) : cursor.atMarker char = false := by
  simp only [Cursor.atMarker, starts]
  split
  case h_1 second third later same =>
    obtain ⟨rfl, rfl⟩ := List.cons.inj same
    have apart : second ≠ '-' := by
      rintro rfl
      have solid : isGap '-' = true := gap
      exact absurd solid (by decide)
    by_cases hyphen : '-' = char
    · have other : second ≠ char := fun same => apart (same.trans hyphen.symm)
      simp [other]
    · simp [hyphen]
  case h_2 => simp

/-- The hyphen of an item is cut, at the column of the current block. -/
theorem Step.hyphen {rest : List Char}
    (stands : At stream.advance ('-' :: rest) column true progress)
    (current : progress.indent = column) (gap : atGap rest = true) :
    ∃ after, Step stream after ∧ Past after rest true (progress.push .blockEntry) ∧
      after.mark.column = column + 1 := by
  have marker := atMarker_hyphen stands.rest gap
  have same : ¬ stream.advance.indent < stream.advance.mark.column := by
    rw [stands.indent, stands.column, current]
    exact Int.lt_irrefl _
  have opened : stream.advance.openBlockHere .blockSequenceStart = stream.advance := by
    simp [openBlockHere, openBlock, same]
  have token : stream.advance.takeToken '-' rest = stream.advance.takeEntry := by
    simp [takeToken, marker, gap]
  obtain ⟨after, cut, past, moved⟩ : ∃ after, stream.advance.takeEntry = .ok after ∧
      Past after rest true (progress.push .blockEntry) ∧ after.mark.column = column + 1 := by
    refine ⟨({ stream.advance with key := none }.takeIndicator .blockEntry 1).allowKey true, ?_,
      ⟨?_, rfl, ?_, rfl, ?_⟩, ?_⟩
    · rw [takeEntry, stands.inFlow, stands.allowed, opened, dropKey_loose stands.loose]
      rfl
    · simp [takeIndicator, take, allowKey, Cursor.skip, stands.rest]
    · simp [takeIndicator, take, allowKey, push, stands.block]
    · rw [← stands.progress]
      rfl
    · rw [← stands.column]
      rfl
  exact ⟨after, ⟨'-', rest, stands.rest, token.trans cut,
    Nat.le_of_eq (congrArg List.length past.rest)⟩, past, moved⟩

/-- A mapping is open at a column. -/
def openMapping (progress : Progress) (column : Nat) : Progress :=
  if progress.indent < column then
    { kinds := .blockMappingStart :: progress.kinds, indent := column,
      outer := progress.indent :: progress.outer }
  else progress

/-- A stream between the text of a key and its colon: the key goes in front of the last token. -/
structure Keyed (stream : TokenStream) (rest : List Char) (column : Nat) (name : String)
    (progress : Progress) : Prop where
  /-- The colon and the text behind it. -/
  rest : stream.cursor.rest = ':' :: rest
  /-- The stream is not left of the key. -/
  right : column ≤ stream.mark.column
  /-- No flow collection is open. -/
  block : stream.outerKeys = []
  /-- The last token is the candidate, and its colon is within reach. -/
  key : ∃ candidate, stream.key = some candidate ∧
    candidate.position + 1 = stream.tokens.length ∧ candidate.mark.column = column ∧
    candidate.reaches stream.mark = true
  /-- The name of the key is the last token cut. -/
  progress : stream.progress = progress.push (.scalar .plain name)

/-- What starts with another character is no marker. -/
theorem atMarker_of_ne {cursor : Cursor} {first char : Char} {rest : List Char}
    (starts : cursor.rest = first :: rest) (other : first ≠ char) :
    cursor.atMarker char = false := by
  simp only [Cursor.atMarker, starts]
  split
  case h_1 same =>
    obtain ⟨rfl, -⟩ := List.cons.inj same
    simp [other]
  case h_2 => simp

/-- A letter starts a plain scalar. -/
theorem takeToken_letter {first : Char} {rest : List Char} (block : stream.outerKeys = [])
    (starts : stream.cursor.rest = first :: rest) (letter : first.isAlpha = true) :
    stream.takeToken first rest = stream.takePlain := by
  have other (char : Char) (symbol : char.isAlpha = false) : first ≠ char := by
    rintro rfl
    rw [letter] at symbol
    contradiction
  refine takeToken_plain block ?_ (atMarker_of_ne starts (other '-' (by decide)))
    (atMarker_of_ne starts (other '.' (by decide)))
  have alphanum : first.isAlphanum = true := by simp [Char.isAlphanum, letter]
  have plain := Plain.isIndicator_of_isAlphanum alphanum
  simp [Printer.startsWithIndicator, plain, other '-' (by decide), other '?' (by decide),
    other ':' (by decide)]

/-- The text of a key is cut, and it is remembered as a candidate. -/
theorem Step.name {name : String} {rest : List Char}
    (stands : At stream.advance (name.toList ++ ':' :: rest) column true progress)
    (key : Plain.IsKey name.toList) (gap : atGap rest = true) :
    ∃ after, Step stream after ∧ Keyed after rest column name progress := by
  obtain ⟨first, others, split, letter⟩ := key.starts
  have saved : stream.advance.saveKey = .ok { stream.advance with
      key := some { required := !stream.advance.inFlow &&
                      decide (stream.advance.indent = stream.advance.mark.column)
                    position := stream.advance.tokens.length, mark := stream.advance.mark } } := by
    simp only [saveKey, stands.allowed, if_true, dropKey_loose stands.loose]
    rfl
  have taken := Plain.take_key (stream.advance.indent + 1).toNat stream.advance.mark key gap
  have starts : stream.advance.cursor.rest = first :: (others ++ ':' :: rest) := by
    rw [stands.rest, split]
    rfl
  obtain ⟨after, cut, keyed⟩ : ∃ after, stream.advance.takePlain = .ok after ∧
      Keyed after rest column name progress := by
    refine ⟨{ stream.advance with
        cursor := { rest := ':' :: rest, mark := stream.advance.mark.advance name.toList.length },
        key := some { required := !stream.advance.inFlow &&
                        decide (stream.advance.indent = stream.advance.mark.column)
                      position := stream.advance.tokens.length, mark := stream.advance.mark },
        keyAllowed := false,
        tokens := { kind := .scalar .plain (String.ofList name.toList)
                    start := stream.advance.mark
                    stop := stream.advance.mark.advance name.toList.length }
          :: stream.advance.tokens }, ?_,
      ⟨rfl, ?_, stands.block, ⟨_, rfl, rfl, stands.column, ?_⟩, ?_⟩⟩
    · have flow : stream.advance.inFlow = false := stands.inFlow
      simp only [takePlain, saved, bind, Except.bind, TokenStream.inFlow] at flow ⊢
      rw [flow, stands.cursor, taken]
      rfl
    · rw [← stands.column]
      exact Nat.le_add_right _ _
    · have short := key.short
      simp [KeyCandidate.reaches, TokenStream.mark, Mark.advance, short]
    · rw [← stands.progress, String.ofList_toList]
      rfl
  refine ⟨after, ⟨first, _, starts, (takeToken_letter stands.block starts letter).trans cut, ?_⟩,
    keyed⟩
  rw [keyed.rest]
  simp

/-- At its colon a key is put in its place, and so is the start of the mapping if the key is the
first one. -/
theorem Keyed.past {name : String} {rest : List Char} {candidate : KeyCandidate}
    (keyed : Keyed stream rest column name progress)
    (place : candidate.position + 1 = stream.tokens.length)
    (column' : candidate.mark.column = column) :
    Past (stream.takeKeyedValue candidate) rest false
      ((openMapping progress column).pushes [.key, .scalar .plain name, .value]) := by
  obtain ⟨cursor, tokens, indent, outerIndents, key, outerKeys, keyAllowed⟩ := stream
  obtain ⟨rest', -, block, -, same⟩ := keyed
  dsimp only at place rest' block
  subst block
  match tokens with
  | [] => contradiction
  | last :: others =>
    obtain ⟨kinds, rfl, rfl⟩ := Progress.mk.inj same
    obtain ⟨kind, others'⟩ := List.cons.inj kinds
    have position : candidate.position = others.length := by simpa using place
    have after : (cursor.skip 1).rest = rest := by simp [Cursor.skip, rest']
    have two : others.length + 1 + 1 - others.length = 2 := by omega
    by_cases lower : progress.indent < column <;>
      refine ⟨?_, ?_, ?_, ?_, ?_⟩ <;>
      simp [takeKeyedValue, openBlock, openMapping, insert, takeIndicator, take, push, allowKey,
        inFlow, TokenStream.progress, Progress.pushes, lower, column', position, two, after, kind,
        others']

/-- The colon of a key is cut. -/
theorem Step.colon {name : String} {rest : List Char}
    (keyed : Keyed stream rest column name progress) (left : progress.indent ≤ column)
    (gap : atGap rest = true) :
    ∃ after, Step stream after ∧ column < after.mark.column ∧
      Past after rest false
        ((openMapping progress column).pushes [.key, .scalar .plain name, .value]) := by
  obtain ⟨candidate, saved, place, column', reaches⟩ := keyed.key
  have right := keyed.right
  have indent : stream.indent = progress.indent := congrArg Progress.indent keyed.progress
  have still : stream.advance = stream :=
    advance_eq (keyed.rest ▸ ⟨clear_cons (by decide), by simp⟩) (Or.inr (by omega))
  have token : stream.takeToken ':' rest = .ok (stream.takeKeyedValue candidate) := by
    have marker (char : Char) (other : ':' ≠ char) := atMarker_of_ne keyed.rest other
    simp [takeToken, marker, gap, takeValue, saved, reaches]
  have past := keyed.past place column'
  have moved : (stream.takeKeyedValue candidate).mark.column = stream.mark.column + 1 := by
    unfold takeKeyedValue openBlock
    dsimp only
    split <;> rfl
  exact ⟨_, ⟨':', rest, by rw [still, keyed.rest], by rw [still, token],
    Nat.le_of_eq (congrArg List.length past.rest)⟩, by omega, past⟩

end RunningConfig.Yaml.TokenStream
