import RunningConfig.Proofs.Yaml.Allowed
import RunningConfig.Proofs.Yaml.Composing
/-!
# Documents of printed objects

The text that is printed of an object is one well formed document, and its root shows the object:
the text is cut into the tokens of the object, up to the end of the text, and these are composed.
-/

namespace RunningConfig.Yaml

open Printer (objectEntries)

namespace TokenStream

/-- At the end of the text every block is closed. -/
theorem finish_at {stream : TokenStream} {column : Nat} {allowed : Bool} {progress : Progress}
    (stands : At stream [] column allowed progress) :
    ∃ tokens, stream.finish = .ok tokens ∧
      tokens.map Token.kind = ((progress.close (-1)).push .streamEnd).kinds.reverse := by
  let mark := if stream.mark.column = 0 then stream.mark else stream.mark.nextLine 0
  let ended : TokenStream := { stream with cursor := { stream.cursor with mark } }
  have same : (ended.closeBlocks (-1)).progress = progress.close (-1) := by
    have block : ended.outerKeys = [] := stands.block
    rw [progress_closeBlocks block, ← stands.progress]
    rfl
  have loose : Loose (ended.closeBlocks (-1)).key := by
    rw [(closeBlocks_frame ended (-1)).2.1]
    exact stands.loose
  have left : ended.leaveBlocks =
      .ok { ended.closeBlocks (-1) with key := none, keyAllowed := false } := by
    rw [leaveBlocks, dropKey_loose loose]
    rfl
  refine ⟨_, by rw [finish]; exact congrArg (· >>= _) left, ?_⟩
  have kinds := congrArg Progress.kinds same
  simp only [push, List.map_reverse, List.map_cons]
  exact congrArg List.reverse (congrArg (TokenKind.streamEnd :: ·) kinds)

/-- A text that starts with a key has no mark of byte order in front of it. -/
theorem start_key {name rest : List Char} (key : Plain.IsKey name) :
    start (name ++ rest) = { rest := name ++ rest } := by
  obtain ⟨first, others, rfl, letter⟩ := key.starts
  have other : first ≠ '\uFEFF' := by
    rintro rfl
    exact absurd letter (by decide)
  simp [start, other]

/-- The text of an object is cut into the tokens of the object and the end. -/
theorem ofText_object {entries : List (String × Value)} (nonempty : entries ≠ [])
    (each : ∀ entry ∈ entries, Printable entry.2)
    (keys : ∀ entry ∈ entries, Plain.IsKey entry.1.toList) :
    ∃ tokens, ofText (objectEntries 0 entries) = .ok tokens ∧
      tokens.map Token.kind = valueKinds (.object entries) ++ [.streamEnd] := by
  let fresh : TokenStream := { cursor := { rest := objectEntries 0 entries } }
  have solid : Solid (objectEntries 0 entries) := by
    have solid := solid_entries 0 keys nonempty []
    rwa [List.append_nil] at solid
  have stands : At fresh.advance (objectEntries 0 entries ++ (Printer.spaces 0 ++ [])) 0 true
      { kinds := [], indent := -1, outer := [] } := by
    have whole : objectEntries 0 entries ++ (Printer.spaces 0 ++ []) = objectEntries 0 entries := by
      simp [Printer.spaces]
    rw [whole]
    exact at_advance rfl loose_none rfl (skipGap_solid _ _ _ solid)
  obtain ⟨after, steps, stands⟩ := Steps.entries nonempty
    (fun entry member => cuts (each entry member)) each keys stands (by decide) (Nat.le_refl 0)
    solid_nil
  obtain ⟨tokens, finished, kinds⟩ := finish_at stands
  obtain ⟨less, enough, taken⟩ := steps.takeAll (Nat.lt_succ_self fresh.cursor.rest.length)
  refine ⟨tokens, ?_, ?_⟩
  · have allowed : (objectEntries 0 entries).all isAllowed = true :=
      List.all_eq_true.mpr (Printer.allowed_objectEntries
        (fun entry member column => (Printer.allowed_value (each entry member) column).1) keys 0)
    have begins : start (objectEntries 0 entries) = { rest := objectEntries 0 entries } := by
      obtain ⟨⟨name, value⟩, others, rfl⟩ := List.exists_cons_of_ne_nil nonempty
      rw [objectEntries, List.append_assoc, List.append_assoc]
      exact start_key (keys _ List.mem_cons_self)
    obtain ⟨less, rfl⟩ := Nat.exists_eq_add_one_of_ne_zero (Nat.ne_of_gt (Nat.zero_lt_of_lt enough))
    have ends : after.takeAll (less + 1) = after.advance.finish := by
      simp only [takeAll, stands.rest]
    rw [ofText, if_pos allowed, begins]
    exact taken.trans (ends.trans finished)
  · -- The one block that is open is the mapping of the object, and the end of the text closes it.
    obtain ⟨first, others, rfl⟩ := List.exists_cons_of_ne_nil nonempty
    rw [kinds, Progress.close_close _ (by decide)]
    have opened : openMapping { kinds := [], indent := -1, outer := [] } 0 =
        { kinds := [.blockMappingStart], indent := 0, outer := [-1] } := rfl
    rw [opened]
    simp only [Progress.pushes]
    rw [Progress.close_of_lt (by decide), Progress.close_of_le (Int.le_refl _)]
    simp [Progress.push, valueKinds]

end TokenStream

/-- The document that is printed of an object has a root that shows the object. -/
theorem Document.ofText_document {entries : List (String × Value)} (nonempty : entries ≠ [])
    (printable : Printable (.object entries)) :
    ∃ root, Document.ofText (Printer.document (.object entries)) = .ok (.ofRoot root) ∧
      Shows (.object entries) root := by
  cases printable with
  | object each keys =>
    obtain ⟨tokens, cut, kinds⟩ := TokenStream.ofText_object nonempty each keys
    have text : (Printer.document (.object entries)).toList = objectEntries 0 entries := by
      obtain ⟨first, others, rfl⟩ := List.exists_cons_of_ne_nil nonempty
      simp [Printer.document]
    have same : ({ tokens } : Feed).kinds = valueKinds (.object entries) ++ [.streamEnd] := kinds
    have length := congrArg List.length kinds
    simp only [List.length_map, List.length_append, List.length_singleton] at length
    obtain ⟨root, after, composed, showing, left⟩ := composes (.object each keys) Handles.standard
      false (4 * tokens.length + 4) same (by omega) (by simp)
    refine ⟨root, ?_, showing⟩
    have first : ({ tokens } : Feed).next.kind = .blockMappingStart := by
      obtain ⟨one, others, rfl⟩ := List.exists_cons_of_ne_nil nonempty
      exact Feed.kind_next same
    have ended : Document.ended after.tokens = true := by
      obtain ⟨tokens, anchors⟩ := after
      match tokens with
      | [] => rfl
      | token :: others =>
        have kind : token.kind = .streamEnd := (List.cons.inj left).1
        simp [Document.ended, kind]
    have rooted : composeRoot Handles.standard { tokens } = .ok (root, after) := composed
    simp only [ofText, text, cut, bind, Except.bind, ofTokens, first, rooted, ended, if_true]
    rfl

end RunningConfig.Yaml
