import RunningConfig.Proofs.Yaml.Gap
import RunningConfig.Yaml.TokenStream.OfText
/-!
# How far a text is cut

What has been cut and which blocks are open is all that matters of a stream between two lines: the
marks of its tokens do not. A stream stands at the next token with some progress; cutting one token
is a step, and the steps of a text need no more fuel than it has characters.
-/

namespace RunningConfig.Yaml

open Printer (spaces)

/-- The kinds cut so far, last one first, and the columns of the open blocks. -/
structure Progress where
  /-- The kinds of the tokens, last one first. -/
  kinds : List TokenKind
  /-- The column of the current block, negative outside every block. -/
  indent : Int
  /-- The columns of the blocks around it, innermost first. -/
  outer : List Int

namespace Progress

/-- One more token has been cut. -/
def push (progress : Progress) (kind : TokenKind) : Progress :=
  { progress with kinds := kind :: progress.kinds }

/-- Further tokens have been cut, the first one first. -/
def pushes (progress : Progress) (kinds : List TokenKind) : Progress :=
  { progress with kinds := kinds.reverse ++ progress.kinds }

/-- The blocks right of a column are closed. -/
def close (progress : Progress) (column : Int) : Progress :=
  let (count, indent, outer) := TokenStream.closing column progress.indent progress.outer
  { kinds := List.replicate count .blockEnd ++ progress.kinds, indent, outer }

/-- Tokens are cut in one go or in two. -/
theorem pushes_append (progress : Progress) (first second : List TokenKind) :
    progress.pushes (first ++ second) = (progress.pushes first).pushes second := by
  simp [pushes]

/-- Cutting tokens opens no block. -/
@[simp] theorem pushes_indent (progress : Progress) (kinds : List TokenKind) :
    (progress.pushes kinds).indent = progress.indent := rfl

/-- No block is right of a column that the current one reaches. -/
theorem close_of_le {progress : Progress} {column : Int} (reached : progress.indent ≤ column) :
    progress.close column = progress := by
  obtain ⟨kinds, indent, outer⟩ := progress
  cases outer with
  | nil => rfl
  | cons around outer => simp [close, TokenStream.closing, Int.not_lt.mpr reached]

/-- A block right of a column is closed first, then those around it. -/
theorem close_of_lt {kinds : List TokenKind} {indent around column : Int} {outer : List Int}
    (right : column < indent) :
    ({ kinds, indent, outer := around :: outer } : Progress).close column =
      ({ kinds := .blockEnd :: kinds, indent := around, outer } : Progress).close column := by
  simp only [close, TokenStream.closing, right, if_true]
  rw [List.replicate_succ', List.append_assoc]
  rfl

/-- Blocks are closed in one go or in two. -/
theorem close_close (progress : Progress) {column left : Int} (further : left ≤ column) :
    (progress.close column).close left = progress.close left := by
  obtain ⟨kinds, indent, outer⟩ := progress
  induction outer generalizing kinds indent with
  | nil => rfl
  | cons around outer ih =>
    by_cases right : column < indent
    · rw [close_of_lt right, ih, close_of_lt (Int.lt_of_le_of_lt further right)]
    · have reached : ({ kinds, indent, outer := around :: outer } : Progress).indent ≤ column :=
        Int.not_lt.mp right
      rw [close_of_le reached]

end Progress

namespace TokenStream

/-- How far a stream is. -/
def progress (stream : TokenStream) : Progress :=
  { kinds := stream.tokens.map Token.kind, indent := stream.indent, outer := stream.outerIndents }

/-- Outside flow collections, closing blocks is progress. -/
theorem progress_closeBlocks {stream : TokenStream} (block : stream.outerKeys = []) (column : Int) :
    (stream.closeBlocks column).progress = stream.progress.close column := by
  simp [closeBlocks, inFlow, block, progress, Progress.close]

/-- Closing blocks changes nothing else. -/
theorem closeBlocks_frame (stream : TokenStream) (column : Int) :
    (stream.closeBlocks column).cursor = stream.cursor ∧
      (stream.closeBlocks column).key = stream.key ∧
      (stream.closeBlocks column).outerKeys = stream.outerKeys ∧
      (stream.closeBlocks column).keyAllowed = stream.keyAllowed := by
  unfold closeBlocks
  split <;> exact ⟨rfl, rfl, rfl, rfl⟩

/-! ## Steps -/

/-- A gap is no longer than the text it starts. -/
theorem length_skipGap (flow comment : Bool) (rest : List Char) (mark : Mark) (keyAllowed : Bool) :
    (skipGap flow comment rest mark keyAllowed).1.rest.length ≤ rest.length := by
  fun_induction skipGap flow comment rest mark keyAllowed <;> simp_all <;> omega

/-- Going to the next token makes the text no longer. -/
theorem length_advance (stream : TokenStream) :
    stream.advance.cursor.rest.length ≤ stream.cursor.rest.length := by
  unfold advance
  simp only [closeBlocks_frame]
  exact length_skipGap _ _ _ _ _

/-- One token is cut. -/
def Step (stream after : TokenStream) : Prop :=
  ∃ char rest, stream.advance.cursor.rest = char :: rest ∧
    stream.advance.takeToken char rest = .ok after ∧ after.cursor.rest.length ≤ rest.length

/-- Any number of tokens are cut. -/
inductive Steps : TokenStream → TokenStream → Prop where
  /-- No token is cut. -/
  | refl (stream : TokenStream) : Steps stream stream
  /-- A first token is cut, and then the others. -/
  | head {stream next after : TokenStream} : Step stream next → Steps next after →
      Steps stream after

/-- A step is steps. -/
theorem Step.steps {stream after : TokenStream} (step : Step stream after) : Steps stream after :=
  .head step (.refl after)

/-- Steps are made one after the other. -/
theorem Steps.trans {stream next after : TokenStream} (first : Steps stream next)
    (second : Steps next after) : Steps stream after := by
  induction first with
  | refl => exact second
  | head step _ ih => exact .head step (ih second)

/-- A step takes one unit of fuel, and as many characters. -/
theorem Step.takeAll {stream after : TokenStream} (step : Step stream after) {fuel : Nat}
    (enough : stream.cursor.rest.length < fuel) :
    ∃ less, after.cursor.rest.length < less ∧ stream.takeAll fuel = after.takeAll less := by
  obtain ⟨char, rest, next, taken, shorter⟩ := step
  obtain ⟨less, rfl⟩ := Nat.exists_eq_add_one_of_ne_zero (Nat.ne_of_gt (Nat.zero_lt_of_lt enough))
  have length := length_advance stream
  rw [next, List.length_cons] at length
  refine ⟨less, by omega, ?_⟩
  simp only [TokenStream.takeAll, next, taken]
  rfl

/-- What steps lead to is what all tokens are taken from. -/
theorem Steps.takeAll {stream after : TokenStream} (steps : Steps stream after) {fuel : Nat}
    (enough : stream.cursor.rest.length < fuel) :
    ∃ less, after.cursor.rest.length < less ∧ stream.takeAll fuel = after.takeAll less := by
  induction steps generalizing fuel with
  | refl => exact ⟨fuel, enough, rfl⟩
  | head step _ ih =>
    obtain ⟨less, more, same⟩ := step.takeAll enough
    obtain ⟨least, enough, last⟩ := ih more
    exact ⟨least, enough, same.trans last⟩

/-! ## Standing at a token -/

/-- What follows the gaps of a text: no gap and no comment. -/
structure Solid (rest : List Char) : Prop where
  /-- No blank and no break comes next. -/
  clear : Clear rest
  /-- No comment starts there. -/
  comment : rest.head? ≠ some '#'

/-- The end of a text is solid. -/
theorem solid_nil : Solid [] := ⟨clear_nil, by simp⟩

/-- A gap ends at what is solid. -/
theorem skipGap_solid (flow : Bool) {rest : List Char} (mark : Mark) (allowed : Bool)
    (solid : Solid rest) : skipGap flow false rest mark allowed = ({ rest, mark }, allowed) := by
  cases rest with
  | nil => rfl
  | cons char rest =>
    obtain ⟨blank, breaks⟩ := Bool.or_eq_false_iff.mp (solid.clear char rfl)
    obtain ⟨space, tab⟩ := Bool.or_eq_false_iff.mp blank
    have hash : char ≠ '#' := fun same => solid.comment (by rw [same]; rfl)
    unfold skipGap
    split
    case h_1 impossible => contradiction
    case h_2 same =>
      obtain ⟨rfl, -⟩ := List.cons.inj same
      exact absurd breaks (by decide)
    case h_3 first later same =>
      obtain ⟨rfl, rfl⟩ := List.cons.inj same
      simp only [breaks, space, tab, hash, Bool.false_and, Bool.or_false,
        Bool.false_eq_true, if_false]

/-- Spaces are a gap. -/
theorem skipGap_spaces (count : Nat) {rest : List Char} (mark : Mark) (allowed : Bool)
    (solid : Solid rest) :
    skipGap false false (spaces count ++ rest) mark allowed =
      ({ rest, mark := mark.advance count }, allowed) := by
  induction count generalizing mark with
  | zero => simpa [spaces, Mark.advance] using skipGap_solid false mark allowed solid
  | succ count ih =>
    have moved : (mark.advance 1).advance count = mark.advance (count + 1) := by
      simp [Mark.advance]
      omega
    have step : skipGap false false (' ' :: (spaces count ++ rest)) mark allowed =
        skipGap false false (spaces count ++ rest) (mark.advance 1) allowed := by
      rw [skipGap.eq_def]
      rfl
    rw [show spaces (count + 1) = ' ' :: spaces count from rfl, List.cons_append, step, ih, moved]

/-- The end of a line and the indentation of the next one are a gap, and a key may follow. -/
theorem skipGap_line (count : Nat) {rest : List Char} (mark : Mark) (allowed : Bool)
    (solid : Solid rest) :
    skipGap false false ('\n' :: (spaces count ++ rest)) mark allowed =
      ({ rest, mark := (mark.nextLine 1).advance count }, true) := by
  have step : skipGap false false ('\n' :: (spaces count ++ rest)) mark allowed =
      skipGap false false (spaces count ++ rest) (mark.nextLine 1) (allowed || !false) := by
    rw [skipGap.eq_def]
    rfl
  rw [step, skipGap_spaces count _ _ solid, Bool.not_false, Bool.or_true]

/-- A candidate that need not be a key. -/
def Loose (key : Option KeyCandidate) : Prop := ∀ candidate ∈ key, candidate.required = false

/-- Without a candidate nothing has to be a key. -/
theorem loose_none : Loose none := by simp [Loose]

/-- A stream at a token in a block: what follows it and at which column, whether a key may start
there, and how far the stream is. -/
structure At (stream : TokenStream) (rest : List Char) (column : Nat) (allowed : Bool)
    (progress : Progress) : Prop where
  /-- The text that follows. -/
  rest : stream.cursor.rest = rest
  /-- The column of the token. -/
  column : stream.mark.column = column
  /-- Whether a key may start there. -/
  allowed : stream.keyAllowed = allowed
  /-- No flow collection is open. -/
  block : stream.outerKeys = []
  /-- Nothing before the token has to be a key. -/
  loose : Loose stream.key
  /-- The tokens cut and the blocks opened so far. -/
  progress : stream.progress = progress

/-- A stream goes over the gap that comes next, and closes the blocks right of where that ends. -/
theorem at_advance {stream : TokenStream} {rest : List Char} {mark : Mark} {allowed : Bool}
    {progress : Progress} (block : stream.outerKeys = []) (loose : Loose stream.key)
    (same : stream.progress = progress)
    (gap : skipGap false false stream.cursor.rest stream.mark stream.keyAllowed =
      ({ rest, mark }, allowed)) :
    At stream.advance rest mark.column allowed (progress.close mark.column) := by
  have block' : stream.inFlow = false := by simp [inFlow, block]
  subst same
  unfold advance
  rw [block', gap]
  obtain ⟨cursor, key, outerKeys, keyAllowed⟩ :=
    closeBlocks_frame { stream with cursor := { rest, mark }, keyAllowed := allowed } mark.column
  have block : ({ stream with cursor := { rest, mark }, keyAllowed := allowed } :
      TokenStream).outerKeys = [] := block
  exact ⟨by rw [cursor], by rw [TokenStream.mark, cursor], keyAllowed, by rw [outerKeys, block],
    by rwa [key], progress_closeBlocks block _⟩

end TokenStream

end RunningConfig.Yaml
