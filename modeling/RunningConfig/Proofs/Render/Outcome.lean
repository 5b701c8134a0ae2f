import RunningConfig.Proofs.Outcome
import RunningConfig.Render.Fault
/-!
# Outcomes of rendering

A rendering gives a result or the first fault it meets. The lemmas here say when a sequence or a
traversal succeeds and which fault it reports, so that no later proof opens the monad: success is
taken apart step by step, and the fault of a traversal is that of its first faulty item.
-/

namespace RunningConfig.Rendered

variable {α β γ : Type}

/-- A step whose result is only reshaped succeeds with the reshaped result. -/
theorem bind_pure_eq_ok {first : Rendered α} {shape : α → β} {result : β} :
    (first >>= fun value => pure (shape value)) = .ok result ↔
      ∃ value, first = .ok value ∧ shape value = result := by
  simp only [bind_eq_ok, pure_eq_ok]

/-- What is shown for an item that may be missing. -/
def ofOption (act : α → Rendered β) (missing : β) : Option α → Rendered β
  | some item => act item
  | none => .ok missing

/-- A property of whatever an item shows, and of what stands for a missing item, holds of what is
shown. -/
theorem of_ofOption (holds : β → Prop) {act : α → Rendered β} {missing result : β}
    {item? : Option α} (none : holds missing)
    (each : ∀ item result, act item = .ok result → holds result)
    (shown : ofOption act missing item? = .ok result) : holds result := by
  cases item? with
  | none =>
    obtain rfl := Except.ok.inj shown
    exact none
  | some item => exact each item result shown

/-! ## Traversals -/

section Traversal

variable {act : α → Rendered β}

/-- A traversal of nothing gives nothing. -/
theorem mapM_nil_eq_ok {results : List β} : [].mapM act = .ok results ↔ results = [] :=
  mapM_eq_ok_iff.trans List.forall₂_nil_left_iff

/-- A traversal succeeds on its first item and then on the rest. -/
theorem mapM_cons_eq_ok {item : α} {items : List α} {results : List β} :
    (item :: items).mapM act = .ok results ↔
      ∃ result rest, act item = .ok result ∧ items.mapM act = .ok rest ∧
        results = result :: rest := by
  simp only [mapM_eq_ok_iff, List.forall₂_cons_left_iff]

/-- A property of every result follows from the items one by one. -/
theorem forall_mem_of_mapM {holds : β → Prop} {items : List α} {results : List β}
    (each : ∀ item result, act item = .ok result → holds result)
    (traversed : items.mapM act = .ok results) : ∀ result ∈ results, holds result := by
  rw [mapM_eq_ok_iff] at traversed
  induction traversed with
  | nil => simp
  | cons one _ ih => exact List.forall_mem_cons.mpr ⟨each _ _ one, ih⟩

/-- Every result is that of an item. -/
theorem exists_of_mem_mapM {items : List α} {results : List β} {result : β}
    (traversed : items.mapM act = .ok results) (member : result ∈ results) :
    ∃ item ∈ items, act item = .ok result := by
  rw [mapM_eq_ok_iff] at traversed
  induction traversed with
  | nil => contradiction
  | @cons item first _ _ one _ ih =>
    rcases List.mem_cons.mp member with rfl | member
    · exact ⟨item, List.mem_cons_self, one⟩
    · obtain ⟨other, found, shown⟩ := ih member
      exact ⟨other, List.mem_cons_of_mem item found, shown⟩

/-- What each result shows is what its item does, in order. -/
theorem filterMap_eq_of_mapM {view : β → Option γ} {look : α → γ} {items : List α}
    {results : List β}
    (each : ∀ item result, act item = .ok result → view result = some (look item))
    (traversed : items.mapM act = .ok results) : results.filterMap view = items.map look := by
  rw [mapM_eq_ok_iff] at traversed
  induction traversed with
  | nil => rfl
  | cons one _ ih => rw [List.filterMap_cons_some (each _ _ one), ih, List.map_cons]

/-- A property of every result is one of every item when it is so item by item. -/
theorem forall_mem_iff_of_mapM {holds : β → Prop} {asks : α → Prop} {items : List α}
    {results : List β} (each : ∀ item result, act item = .ok result → (holds result ↔ asks item))
    (traversed : items.mapM act = .ok results) :
    (∀ result ∈ results, holds result) ↔ ∀ item ∈ items, asks item := by
  rw [mapM_eq_ok_iff] at traversed
  induction traversed with
  | nil => simp
  | cons one _ ih => simp only [List.forall_mem_cons, each _ _ one, ih]

/-- Two traversals with the same results agree on whatever each result determines. -/
theorem map_eq_of_mapM (view : α → γ) {left right : List α} {results : List β}
    (determined : ∀ one other result, act one = .ok result → act other = .ok result →
      view one = view other)
    (ofLeft : left.mapM act = .ok results) (ofRight : right.mapM act = .ok results) :
    left.map view = right.map view := by
  induction left generalizing right results with
  | nil =>
    obtain rfl := mapM_nil_eq_ok.mp ofLeft
    cases right with
    | nil => rfl
    | cons other right =>
      obtain ⟨_, _, _, _, impossible⟩ := mapM_cons_eq_ok.mp ofRight
      contradiction
  | cons one left ih =>
    obtain ⟨result, rest, first, later, rfl⟩ := mapM_cons_eq_ok.mp ofLeft
    cases right with
    | nil => exact absurd (mapM_nil_eq_ok.mp ofRight) (by simp)
    | cons other right =>
      obtain ⟨_, _, second, others, same⟩ := mapM_cons_eq_ok.mp ofRight
      obtain ⟨rfl, rfl⟩ := List.cons.inj same
      simp only [List.map_cons, determined one other _ first second, ih later others]

/-- Two traversals with the same results are of the same items when each result determines its
item. -/
theorem eq_of_mapM {left right : List α} {results : List β}
    (determined : ∀ one other result, act one = .ok result → act other = .ok result → one = other)
    (ofLeft : left.mapM act = .ok results) (ofRight : right.mapM act = .ok results) :
    left = right := by
  have same := map_eq_of_mapM id determined ofLeft ofRight
  rwa [List.map_id, List.map_id] at same

/-- Traversals that agree on every item are the same. -/
theorem mapM_congr {other : α → Rendered β} {items : List α}
    (same : ∀ item ∈ items, act item = other item) : items.mapM act = items.mapM other := by
  induction items with
  | nil => rfl
  | cons item items ih =>
    rw [List.mapM_cons, List.mapM_cons, same item List.mem_cons_self,
      ih fun later member => same later (List.mem_cons_of_mem item member)]

end Traversal

/-! ## Faults -/

/-- The fault of an outcome that is not a result. -/
def fault? : Rendered α → Option RenderFault
  | .ok _ => none
  | .error fault => some fault

/-- An outcome has a fault exactly when it is that fault. -/
theorem fault?_eq_some {outcome : Rendered α} {fault : RenderFault} :
    outcome.fault? = some fault ↔ outcome = .error fault := by
  cases outcome <;> simp [fault?]

/-- An outcome has no fault exactly when it is a result. -/
theorem fault?_eq_none {outcome : Rendered α} :
    outcome.fault? = none ↔ ∃ result, outcome = .ok result := by
  cases outcome <;> simp [fault?]

/-- Reshaping a result changes no fault. -/
theorem fault?_bind_pure (first : Rendered α) (shape : α → β) :
    (first >>= fun value => pure (shape value)).fault? = first.fault? := by
  cases first <;> rfl

/-- The fault of a traversal is that of the first item that has one. -/
theorem fault?_mapM (act : α → Rendered β) (items : List α) :
    (items.mapM act).fault? = items.findSome? fun item => (act item).fault? := by
  induction items with
  | nil => rfl
  | cons item items ih =>
    rw [List.mapM_cons, List.findSome?_cons]
    cases act item with
    | error fault => rfl
    | ok result =>
      rw [← fault?_bind_pure (items.mapM act) (result :: ·)] at ih
      exact ih

end RunningConfig.Rendered
