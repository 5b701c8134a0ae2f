import RunningConfig.Proofs.Yaml.Integer
import RunningConfig.Proofs.Yaml.Tokens
import RunningConfig.Yaml.Printer.Document
/-!
# Tokens of printed values

A printed value is cut into the tokens that its structure says, whatever its texts are. The proof
follows the printer: what stands on a line, then the entries of an object, then the items of a list,
and a value is one of these.
-/

namespace RunningConfig.Yaml

open Printer (spaces onLine afterKey afterHyphen listItems objectEntries)

/-! ## The style of a text -/

/-- A text is plain only if it can be, is not ambiguous, and is not empty. -/
theorem plain_of_style {text : String} (plain : Printer.style text = .plain) :
    Printer.fitsPlain text.toList = true ∧ Printer.isAmbiguous text = false ∧ text.toList ≠ [] := by
  unfold Printer.style at plain
  dsimp only at plain
  split at plain
  case isTrue => split at plain <;> contradiction
  case isFalse =>
    split at plain
    case isTrue fits =>
      obtain ⟨fits, clear⟩ := Bool.and_eq_true_iff.mp fits
      have clear : Printer.isAmbiguous text = false := by simpa using clear
      refine ⟨fits, clear, fun empty => ?_⟩
      rw [String.toList_eq_nil_iff] at empty
      subst empty
      exact absurd clear (by decide)
    case isFalse => split at plain <;> contradiction

/-- A text stands in single quotes only if it can. -/
theorem singleQuoted_of_style {text : String} (single : Printer.style text = .singleQuoted) :
    Quoted.Fits text.toList := by
  unfold Printer.style at single
  dsimp only at single
  split at single
  case isTrue => split at single <;> contradiction
  case isFalse oneLine =>
    split at single
    case isTrue => contradiction
    case isFalse =>
      split at single
      case isFalse => contradiction
      case isTrue fits =>
        simp only [Printer.fitsSingleQuotes, Bool.and_eq_true, Bool.not_eq_true',
          List.all_eq_true] at fits
        obtain ⟨⟨shown, before⟩, after⟩ := fits
        exact ⟨shown, by simpa using oneLine, before, after⟩

/-- A text is literal only if all of it is shown, and it is not empty. -/
theorem literal_of_style {text : String} (literal : Printer.style text = .literal) :
    (∀ char ∈ text.toList, Printer.isShown char = true) ∧ text.toList ≠ [] := by
  unfold Printer.style at literal
  dsimp only at literal
  split at literal
  case isTrue lines =>
    split at literal
    case isTrue fits =>
      simp only [Printer.fitsLiteral, Bool.and_eq_true, List.all_eq_true] at fits
      refine ⟨fits.1.1, fun empty => ?_⟩
      rw [empty] at lines
      contradiction
    case isFalse => contradiction
  case isFalse => split at literal <;> (try split at literal) <;> contradiction

/-- No text is folded. -/
theorem style_ne_folded (text : String) : Printer.style text ≠ .folded := by
  unfold Printer.style
  dsimp only
  split <;> split <;> (try split) <;> simp

/-! ## Kinds of tokens -/

/-- The tokens of a value that stands on a line. -/
def lineKinds : Value → List TokenKind
  | .null => [.scalar .plain "null"]
  | .boolean value => [.scalar .plain (toString value)]
  | .integer value => [.scalar .plain (toString value)]
  | .float value => [.scalar .plain value.toText]
  | .text value => [.scalar (Printer.style value) value]
  | .list _ => [.flowSequenceStart, .flowSequenceEnd]
  | .object _ => [.flowMappingStart, .flowMappingEnd]

mutual

/-- The tokens of a value. A list that is not empty has no tokens for its bounds. -/
def valueKinds : Value → List TokenKind
  | .list (first :: items) => itemKinds (first :: items)
  | .object (first :: entries) =>
    .blockMappingStart :: entryKinds (first :: entries) ++ [.blockEnd]
  | value => lineKinds value

/-- The tokens of the items of a list. -/
def itemKinds : List Value → List TokenKind
  | [] => []
  | item :: items => .blockEntry :: valueKinds item ++ itemKinds items

/-- The tokens of the entries of an object. -/
def entryKinds : List (String × Value) → List TokenKind
  | [] => []
  | (key, value) :: entries =>
    .key :: .scalar .plain key :: .value :: valueKinds value ++ entryKinds entries

end

namespace TokenStream

variable {stream : TokenStream} {next : List Char} {column block count : Nat} {allowed : Bool}
  {progress : Progress}

/-- A plain text and the end of its line are cut. -/
theorem Steps.plain (text : String)
    (stands : At stream.advance (text.toList ++ ['\n'] ++ (spaces count ++ next)) column allowed
      progress)
    (fits : Printer.fitsPlain text.toList = true) (nonempty : text.toList ≠ [])
    (right : progress.indent < column) (ends : Ends progress next count) :
    ∃ after, Steps stream after ∧ At after.advance next count true
      ((progress.pushes [.scalar .plain text]).close count) := by
  rw [List.append_assoc] at stands
  obtain ⟨after, step, stands⟩ := Step.plain stands fits nonempty right ends
  rw [String.ofList_toList] at stands
  exact ⟨after, step.steps, stands⟩

/-- A text and the end of its line are cut. -/
theorem Steps.text {text : String}
    (stands : At stream.advance (Printer.scalar (block + 2) text ++ (spaces count ++ next)) column
      allowed progress)
    (current : progress.indent = block) (right : block < column) (ends : Ends progress next count) :
    ∃ after, Steps stream after ∧ At after.advance next count true
      ((progress.pushes [.scalar (Printer.style text) text]).close count) := by
  have right : progress.indent < column := by omega
  unfold Printer.scalar at stands
  dsimp only at stands
  split at stands
  case h_1 plain =>
    obtain ⟨fits, -, nonempty⟩ := plain_of_style plain
    rw [plain]
    exact Steps.plain text stands fits nonempty right ends
  case h_2 single =>
    have stands' : At stream.advance ('\x27' :: (Printer.singleQuoted (block + 2) false text.toList
        ++ ['\x27']) ++ '\n' :: (spaces count ++ next)) column allowed progress := by
      simpa using stands
    obtain ⟨after, step, stands⟩ := Step.singleQuoted stands' (singleQuoted_of_style single)
      (Nat.succ_pos _) right ends
    rw [single]
    rw [String.ofList_toList] at stands
    exact ⟨after, step.steps, stands⟩
  case h_3 literal =>
    obtain ⟨shown, nonempty⟩ := literal_of_style literal
    have stands' : At stream.advance (Printer.literalHeader text.toList ++ ('\n' ::
        (Printer.literalLines (block + 2) true text.toList ++ (Block.ending text.toList
        ++ (spaces count ++ next))))) column allowed progress := by
      simpa [Block.ending] using stands
    obtain ⟨after, step, stands⟩ := Step.literal stands' nonempty shown current right ends
    rw [literal]
    rw [String.ofList_toList] at stands
    exact ⟨after, step.steps, stands⟩
  case h_4 double =>
    have stands' : At stream.advance ('"' :: (Printer.doubleQuoted text.toList ++ ['"'])
        ++ '\n' :: (spaces count ++ next)) column allowed progress := by
      simpa using stands
    obtain ⟨after, step, stands⟩ := Step.doubleQuoted stands' right ends
    rw [double]
    rw [String.ofList_toList] at stands
    exact ⟨after, step.steps, stands⟩
  case h_5 folded => exact absurd folded (style_ne_folded text)

/-- A value and the end of its line are cut. -/
theorem Steps.line {value : Value}
    (stands : At stream.advance (onLine (block + 2) value ++ (spaces count ++ next)) column
      allowed progress) (decimal : ∀ number, value ≠ .float number)
    (current : progress.indent = block) (right : block < column) (ends : Ends progress next count) :
    ∃ after, Steps stream after ∧ At after.advance next count true
      ((progress.pushes (lineKinds value)).close count) := by
  have right' : progress.indent < column := by omega
  cases value with
  | null =>
    exact Steps.plain "null" stands (by decide) (by decide) right' ends
  | boolean value =>
    refine Steps.plain (toString value) stands ?_ ?_ right' ends <;> cases value <;> decide
  | integer value =>
    exact Steps.plain (toString value) stands (Printer.fitsPlain_integer value)
      (Printer.toList_integer_ne_nil value) right' ends
  | float number => exact absurd rfl (decimal number)
  | text text => exact Steps.text stands current right ends
  | list items => exact Steps.empty stands .sequence right' ends
  | object entries => exact Steps.empty stands .mapping right' ends

end TokenStream

/-! ## Values -/

/-- A value that the printer writes so that it reads back: no float, no list with items right in a
list, and keys that are names. -/
inductive Printable : Value → Prop where
  /-- Null is printable. -/
  | null : Printable .null
  /-- Every truth value is printable. -/
  | boolean (value : Bool) : Printable (.boolean value)
  /-- Every integer is printable. -/
  | integer (value : Int) : Printable (.integer value)
  /-- Every text is printable. -/
  | text (value : String) : Printable (.text value)
  /-- A list of printable values is, if none of them is a list with items. -/
  | list {items : List Value} (each : ∀ item ∈ items, Printable item)
      (flat : ∀ item ∈ items, ∀ first inner, item ≠ .list (first :: inner)) :
      Printable (.list items)
  /-- An object of printable values is, if its keys are names. -/
  | object {entries : List (String × Value)} (each : ∀ entry ∈ entries, Printable entry.2)
      (keys : ∀ entry ∈ entries, Plain.IsKey entry.1.toList) : Printable (.object entries)

/-- What is printed of a value from its first token on, inside a block at a column. -/
def body (block : Nat) : Value → List Char
  | .list (item :: items) => '-' :: afterHyphen block item ++ listItems block items
  | .object (first :: entries) => objectEntries (block + 2) (first :: entries)
  | value => onLine (block + 2) value

/-- Where the first token of a value is: at the column of the block, two columns right of it, or
anywhere right of it. What starts a line may be a key. -/
def StartsAt (block column : Nat) (allowed : Bool) : Value → Prop
  | .list (_ :: _) => column = block ∧ allowed = true
  | .object (_ :: _) => column = block + 2 ∧ allowed = true
  | _ => block < column

namespace TokenStream

variable {stream : TokenStream} {next : List Char} {column block count : Nat} {allowed : Bool}
  {progress : Progress}

/-- A plain text is solid. -/
theorem solid_of_fitsPlain {text : List Char} (fits : Printer.fitsPlain text = true)
    (nonempty : text ≠ []) (tail : List Char) : Solid (text ++ tail) := by
  have fits := Plain.fits_of_fitsPlain fits nonempty
  refine ⟨fits.clear tail, ?_⟩
  obtain ⟨first, others, rfl⟩ := List.exists_cons_of_ne_nil nonempty
  simpa using fits.comment

/-- What starts with a character that is no gap and no hash is solid. -/
theorem solid_cons {first : Char} (solid : isGap first = false) (other : first ≠ '#')
    (rest : List Char) : Solid (first :: rest) :=
  ⟨clear_cons solid, by simpa using other⟩

/-- A text is written with no gap in front of it. -/
theorem solid_scalar (indent : Nat) (text : String) (tail : List Char) :
    Solid (Printer.scalar indent text ++ tail) := by
  unfold Printer.scalar
  dsimp only
  split
  case h_1 plain =>
    obtain ⟨fits, -, nonempty⟩ := plain_of_style plain
    rw [List.append_assoc]
    exact solid_of_fitsPlain fits nonempty _
  case h_2 => exact solid_cons (by decide) (by decide) _
  case h_3 =>
    rw [Block.literalHeader_eq]
    exact solid_cons (by decide) (by decide) _
  case h_4 => exact solid_cons (by decide) (by decide) _
  case h_5 => exact solid_cons (by decide) (by decide) _

/-- A name is written with no gap in front of it. -/
theorem solid_key {name : List Char} (key : Plain.IsKey name) (rest : List Char) :
    Solid (name ++ rest) := by
  obtain ⟨first, others, rfl, letter⟩ := key.starts
  have named := key.chars first List.mem_cons_self
  refine solid_cons (Plain.isGap_of_isNameChar named) ?_ _
  rintro rfl
  exact absurd letter (by decide)

/-- The entries of an object are written with no gap in front of them. -/
theorem solid_entries (column : Nat) {entries : List (String × Value)}
    (keys : ∀ entry ∈ entries, Plain.IsKey entry.1.toList) (nonempty : entries ≠ [])
    (tail : List Char) : Solid (objectEntries column entries ++ tail) := by
  obtain ⟨⟨key, value⟩, others, rfl⟩ := List.exists_cons_of_ne_nil nonempty
  rw [objectEntries, List.append_assoc, List.append_assoc, List.append_assoc]
  exact solid_key (keys _ List.mem_cons_self) _

/-- A value is written with no gap in front of it. -/
theorem solid_body {value : Value} (printable : Printable value) (block : Nat)
    (tail : List Char) : Solid (body block value ++ tail) := by
  cases printable with
  | null => exact solid_cons (by decide) (by decide) _
  | boolean value => cases value <;> exact solid_cons (by decide) (by decide) _
  | integer value =>
    have written : body block (.integer value) = (toString value).toList ++ ['\n'] := rfl
    rw [written, List.append_assoc]
    exact solid_of_fitsPlain (Printer.fitsPlain_integer value)
      (Printer.toList_integer_ne_nil value) _
  | text value => exact solid_scalar _ value tail
  | @list items each flat =>
    cases items <;> exact solid_cons (by decide) (by decide) _
  | @object entries each keys =>
    cases entries with
    | nil => exact solid_cons (by decide) (by decide) _
    | cons first others => exact solid_entries (block + 2) keys (by simp) tail

/-- Wherever a value starts, it is cut into its tokens, up to the next line. -/
def Cuts (value : Value) : Prop :=
  ∀ {stream : TokenStream} {next : List Char} {block column count : Nat} {allowed : Bool}
    {progress : Progress},
    At stream.advance (body block value ++ (spaces count ++ next)) column allowed progress →
    StartsAt block column allowed value → progress.indent = block → Ends progress next count →
    ∃ after, Steps stream after ∧ At after.advance next count true
      ((progress.pushes (valueKinds value)).close count)

/-- After its key a value starts where it should. -/
theorem at_value {value : Value} {tail : List Char}
    (past : Past stream (afterKey block value ++ tail) false progress)
    (current : progress.indent = block) (right : block < stream.mark.column)
    (printable : Printable value) :
    ∃ column allowed, At stream.advance (body block value ++ tail) column allowed progress ∧
      StartsAt block column allowed value := by
  have solid := solid_body printable block tail
  have still {column : Nat} (reached : block ≤ column) : progress.close column = progress :=
    Progress.close_of_le (by omega)
  -- A value stays on the line of its key, or it goes down to a line of its own.
  have line (same : afterKey block value ++ tail = spaces 1 ++ (body block value ++ tail)) :
      ∃ column, block < column ∧
        At stream.advance (body block value ++ tail) column false progress := by
    rw [same] at past
    obtain ⟨column, moved, stands⟩ := past.spaces solid
    rw [still (by omega)] at stands
    exact ⟨column, by omega, stands⟩
  have down (count : Nat) (reached : block ≤ count)
      (same : afterKey block value ++ tail =
        '\n' :: (spaces count ++ (body block value ++ tail))) :
      At stream.advance (body block value ++ tail) count true progress := by
    rw [same] at past
    have stands := past.line solid
    rwa [still reached] at stands
  cases printable with
  | null | boolean | integer | text =>
    obtain ⟨column, right, stands⟩ := line rfl
    exact ⟨column, false, stands, right⟩
  | @list items each flat =>
    cases items with
    | nil =>
      obtain ⟨column, right, stands⟩ := line rfl
      exact ⟨column, false, stands, right⟩
    | cons item items =>
      exact ⟨block, true, down block (Nat.le_refl _) (by simp [afterKey, listItems, body]), rfl,
        rfl⟩
  | @object entries each keys =>
    cases entries with
    | nil =>
      obtain ⟨column, right, stands⟩ := line rfl
      exact ⟨column, false, stands, right⟩
    | cons first others =>
      exact ⟨block + 2, true, down (block + 2) (by omega) (by simp [afterKey, body]), rfl, rfl⟩

/-- After its hyphen a value starts where it should, unless it is a list with items. -/
theorem at_item {value : Value} {tail : List Char}
    (past : Past stream (afterHyphen block value ++ tail) true progress)
    (current : progress.indent = block) (right : stream.mark.column = block + 1)
    (printable : Printable value) (flat : ∀ first inner, value ≠ .list (first :: inner)) :
    ∃ column, At stream.advance (body block value ++ tail) column true progress ∧
      StartsAt block column true value := by
  have gap : afterHyphen block value = ' ' :: body block value := by
    cases value with
    | null | boolean | integer | float | text => rfl
    | list items =>
      cases items with
      | nil => rfl
      | cons first inner => exact absurd rfl (flat first inner)
    | object entries => cases entries <;> rfl
  have past : Past stream (spaces 1 ++ (body block value ++ tail)) true progress := by
    rw [gap] at past
    exact past
  obtain ⟨column, moved, stands⟩ := past.spaces (solid_body printable block tail)
  rw [Progress.close_of_le (by omega)] at stands
  refine ⟨column, stands, ?_⟩
  unfold StartsAt
  split
  · rename_i same
    exact absurd rfl (flat _ _)
  · exact ⟨by omega, rfl⟩
  · omega

/-- A key and its colon are cut. -/
theorem Steps.key {name : String} {rest : List Char}
    (stands : At stream.advance (name.toList ++ ':' :: rest) column true progress)
    (key : Plain.IsKey name.toList) (left : progress.indent ≤ column) (gap : atGap rest = true) :
    ∃ after, Steps stream after ∧ column < after.mark.column ∧
      Past after rest false
        ((openMapping progress column).pushes [.key, .scalar .plain name, .value]) := by
  obtain ⟨named, first, keyed⟩ := Step.name stands key gap
  obtain ⟨after, second, right, past⟩ := Step.colon keyed left gap
  exact ⟨after, .head first second.steps, right, past⟩

/-- A mapping is open at its column. -/
theorem openMapping_indent (left : progress.indent ≤ column) :
    (openMapping progress column).indent = column := by
  unfold openMapping
  split
  · rfl
  · omega

/-- A mapping that is open is not opened again. -/
theorem openMapping_eq (current : progress.indent = column) :
    openMapping progress column = progress := by
  simp [openMapping, current]

/-- After a key comes a gap. -/
theorem atGap_afterKey (column : Nat) (value : Value) (tail : List Char) :
    atGap (afterKey column value ++ tail) = true := by
  unfold afterKey
  split <;> rfl

/-- The entries of an object are cut, if their values are. -/
theorem Steps.entries {entries : List (String × Value)} (nonempty : entries ≠ [])
    (cuts : ∀ entry ∈ entries, Cuts entry.2) (printable : ∀ entry ∈ entries, Printable entry.2)
    (keys : ∀ entry ∈ entries, Plain.IsKey entry.1.toList)
    (stands : At stream.advance (objectEntries column entries ++ (spaces count ++ next)) column true
      progress)
    (left : progress.indent ≤ column) (reached : count ≤ column) (solid : Solid next) :
    ∃ after, Steps stream after ∧ At after.advance next count true
      (((openMapping progress column).pushes (entryKinds entries)).close count) := by
  induction entries generalizing stream progress with
  | nil => contradiction
  | cons entry entries ih =>
    obtain ⟨name, value⟩ := entry
    obtain ⟨cut, cuts⟩ := List.forall_mem_cons.mp cuts
    obtain ⟨printed, printable⟩ := List.forall_mem_cons.mp printable
    obtain ⟨key, keys⟩ := List.forall_mem_cons.mp keys
    rw [objectEntries] at stands
    simp only [List.append_assoc, List.cons_append] at stands
    obtain ⟨colon, first, right, past⟩ := Steps.key stands key left (atGap_afterKey _ _ _)
    have current := openMapping_indent left
    obtain ⟨start, allowed, stands, starts⟩ := at_value past current right printed
    have kinds : entryKinds ((name, value) :: entries) =
        [.key, .scalar .plain name, .value] ++ (valueKinds value ++ entryKinds entries) := rfl
    rw [kinds, Progress.pushes_append, Progress.pushes_append]
    cases entries with
    | nil =>
      obtain ⟨after, second, stands⟩ := cut stands starts current ⟨solid, by
        rw [Progress.pushes_indent, current]
        exact Int.ofNat_le.mpr reached⟩
      exact ⟨after, first.trans second, stands⟩
    | cons other entries =>
      have solid' : Solid (objectEntries column (other :: entries) ++ (spaces count ++ next)) :=
        solid_entries column keys (by simp) _
      obtain ⟨after, second, stands⟩ := cut stands starts current
        ⟨solid', Int.le_of_eq current.symm⟩
      have current' : (((openMapping progress column).pushes
          [.key, .scalar .plain name, .value]).pushes (valueKinds value)).indent = column := current
      rw [Progress.close_of_le (Int.le_of_eq current')] at stands
      obtain ⟨last, third, stands⟩ := ih (by simp) cuts printable keys stands
        (Int.le_of_eq current')
      rw [openMapping_eq current'] at stands
      exact ⟨last, first.trans (second.trans third), stands⟩

/-- After a hyphen comes a gap. -/
theorem atGap_afterHyphen (column : Nat) (value : Value) (tail : List Char) :
    atGap (afterHyphen column value ++ tail) = true := by
  unfold afterHyphen
  split <;> rfl

/-- The items of a list are cut, if their values are. -/
theorem Steps.items {items : List Value} (nonempty : items ≠ [])
    (cuts : ∀ item ∈ items, Cuts item) (printable : ∀ item ∈ items, Printable item)
    (flat : ∀ item ∈ items, ∀ first inner, item ≠ .list (first :: inner))
    (stands : At stream.advance (body block (.list items) ++ (spaces count ++ next)) block true
      progress)
    (current : progress.indent = block) (ends : Ends progress next count) :
    ∃ after, Steps stream after ∧ At after.advance next count true
      ((progress.pushes (itemKinds items)).close count) := by
  induction items generalizing stream progress with
  | nil => contradiction
  | cons item items ih =>
    obtain ⟨cut, cuts⟩ := List.forall_mem_cons.mp cuts
    obtain ⟨printed, printable⟩ := List.forall_mem_cons.mp printable
    obtain ⟨alone, flat⟩ := List.forall_mem_cons.mp flat
    rw [body] at stands
    simp only [List.append_assoc, List.cons_append] at stands
    obtain ⟨hyphen, first, past, right⟩ := Step.hyphen stands current (atGap_afterHyphen _ _ _)
    obtain ⟨start, stands, starts⟩ := at_item past current right printed alone
    have kinds : itemKinds (item :: items) =
        [.blockEntry] ++ (valueKinds item ++ itemKinds items) := rfl
    rw [kinds, Progress.pushes_append, Progress.pushes_append]
    cases items with
    | nil =>
      obtain ⟨after, second, stands⟩ := cut stands starts current ⟨ends.solid, ends.reached⟩
      exact ⟨after, .head first second, stands⟩
    | cons other items =>
      have tail : listItems block (other :: items) ++ (spaces count ++ next) =
          spaces block ++ (body block (.list (other :: items)) ++ (spaces count ++ next)) := by
        simp [listItems, body]
      have solid' : Solid (body block (.list (other :: items)) ++ (spaces count ++ next)) :=
        solid_cons (by decide) (by decide) _
      rw [tail] at stands
      obtain ⟨after, second, stands⟩ :=
        cut stands starts current ⟨solid', Int.le_of_eq current.symm⟩
      have current' :
        ((progress.push .blockEntry).pushes (valueKinds item)).indent = block := current
      rw [Progress.close_of_le (Int.le_of_eq current')] at stands
      obtain ⟨last, third, stands⟩ := ih (by simp) cuts printable flat stands current'
        ⟨ends.solid, ends.reached⟩
      exact ⟨last, .head first (second.trans third), stands⟩

/-- A value that stands on a line is cut into its tokens. -/
theorem cuts_line {value : Value} (decimal : ∀ number, value ≠ .float number)
    (written : ∀ block, body block value = onLine (block + 2) value)
    (right : ∀ block column allowed, StartsAt block column allowed value = (block < column))
    (kinds : valueKinds value = lineKinds value) : Cuts value := by
  intro stream next block column count allowed progress stands starts current ends
  rw [written] at stands
  rw [right] at starts
  rw [kinds]
  exact Steps.line stands decimal current starts ends

/-- A printable value is cut into its tokens. -/
theorem cuts {value : Value} (printable : Printable value) : Cuts value := by
  induction printable with
  | null | boolean | integer | text =>
    exact cuts_line (by simp) (fun _ => rfl) (fun _ _ _ => rfl) rfl
  | @list items each flat ih =>
    cases items with
    | nil => exact cuts_line (by simp) (fun _ => rfl) (fun _ _ _ => rfl) rfl
    | cons item items =>
      intro stream next block column count allowed progress stands starts current ends
      obtain ⟨rfl, rfl⟩ := starts
      exact Steps.items (by simp) ih each flat stands current ends
  | @object entries each keys ih =>
    cases entries with
    | nil => exact cuts_line (by simp) (fun _ => rfl) (fun _ _ _ => rfl) rfl
    | cons first others =>
      intro stream next block column count allowed progress stands starts current ends
      obtain ⟨rfl, rfl⟩ := starts
      have reached := ends.reached
      obtain ⟨after, steps, stands⟩ := Steps.entries (by simp) ih each keys stands (by omega)
        (by omega) ends.solid
      refine ⟨after, steps, ?_⟩
      have opened : (progress.pushes (valueKinds (.object (first :: others)))).close count =
          ((openMapping progress (block + 2)).pushes
            (entryKinds (first :: others))).close count := by
        have lower : progress.indent < (block + 2 : Nat) := by omega
        rw [openMapping, if_pos lower]
        simp only [Progress.pushes]
        rw [Progress.close_of_lt (by omega)]
        simp [valueKinds]
      rw [opened]
      exact stands

end TokenStream

end RunningConfig.Yaml
