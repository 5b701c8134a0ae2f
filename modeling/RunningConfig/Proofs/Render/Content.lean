import RunningConfig.Proofs.Render.Outcome
import RunningConfig.Render.Section
/-!
# The contents of sections

The enable lines and the lines of a class show a part that may be missing and may fail: each lemma
says what such a content is when that part succeeds. The users and the static routes are lists with
one line an item, which a placeholder stands for when there is none.
-/

namespace RunningConfig.Render

open Rendered (ofOption bind_pure_eq_ok)

/-- The enable lines are the secret, if any, and the password. -/
theorem enableLines_eq_ok {config : Config} {lines : List String} :
    enableLines config = .ok lines ↔
      ∃ secret, ofOption enableSecret Default.placeholder config.enableSecret = .ok secret ∧
        [secret, orPlaceholder (config.enablePassword.map ("enable password " ++ ·))] = lines := by
  unfold enableLines
  cases config.enableSecret with
  | none => exact bind_pure_eq_ok
  | some secret => exact bind_pure_eq_ok

/-- The minutes of a timeout, when set. -/
def minutes (timeout : ExecTimeout) : String :=
  match timeout.minutes with
  | some minutes => toString minutes.toNat
  | none => ""

/-- The body of a line is its five lines around its password, if any. -/
theorem lineBody_eq_ok {line : Line} {lines : List String} :
    lineBody line = .ok lines ↔
      ∃ password, ofOption linePassword Default.placeholder line.password = .ok password ∧
        [" exec-timeout " ++ minutes line.execTimeout ++ " "
            ++ toString line.execTimeout.seconds.toNat,
          " " ++ password,
          " " ++ orPlaceholder (line.logging.map fun mode => "logging " ++ Keyword.word mode),
          " " ++ login line.login,
          " " ++ orPlaceholder (line.transportInput.map fun protocol =>
            "transport input " ++ Keyword.word protocol)] = lines := by
  unfold lineBody
  cases line.password with
  | none => exact bind_pure_eq_ok
  | some password => exact bind_pure_eq_ok

/-- The lines of a class are its header and its body, if any. -/
theorem lineClass_eq_ok {kind : LineClass} {line : Option Line} {lines : List String} :
    lineClass kind line = .ok lines ↔
      ∃ body, ofOption lineBody [] line = .ok body ∧ lineHeader kind line :: body = lines := by
  unfold lineClass
  cases line with
  | none => exact bind_pure_eq_ok
  | some line => exact bind_pure_eq_ok

/-- The lines of an interface are its header, its settings in their order, and nothing for a
setting that is left out. -/
theorem interface_eq_ok {port : Interface} {lines : List String} :
    interface port = .ok lines ↔
      ∃ address, interfaceAddress port.ip4Address = .ok address ∧
        ("interface " ++ port.port.name) ::
          ((port.description.map (" description " ++ ·)).toList ++
            address :: (" duplex " ++ Keyword.word (port.duplex.getD Default.duplex)) ::
              (" speed " ++ Keyword.word (port.speed.getD Default.speed)) ::
                ((port.mtu.map fun mtu => " mtu " ++ toString mtu.toNat).toList ++
                  ((port.clockRate.map fun rate => " clock rate " ++ toString rate.toNat).toList ++
                    if port.shutdown = some true then [" shutdown"] else []))) = lines := by
  unfold interface
  simp only [bind_pure_eq_ok, List.append_assoc, List.cons_append, List.nil_append]

/-- The OSPF lines are those of the process, if any. -/
theorem ospfLines_eq_ofOption (config : Config) :
    ospfLines config = ofOption ospf [Default.placeholder] config.routerOspf := by
  unfold ospfLines
  cases config.routerOspf <;> rfl

section Missing

variable {α β γ : Type} {left right : Option α}

/-- An item that may be missing is known from its outcome when no item is shown as a missing one. -/
theorem ofOption_inj (view : α → γ) {act : α → Rendered β} {missing result : β}
    (determined : ∀ one, left = some one → ∀ other, right = some other →
      act one = .ok result → act other = .ok result → view one = view other)
    (shown : ∀ item, act item = .ok result → result ≠ missing)
    (ofLeft : ofOption act missing left = .ok result)
    (ofRight : ofOption act missing right = .ok result) : left.map view = right.map view := by
  cases left with
  | none =>
    cases right with
    | none => rfl
    | some other => exact absurd (Except.ok.inj ofLeft).symm (shown other ofRight)
  | some one =>
    cases right with
    | none => exact absurd (Except.ok.inj ofRight).symm (shown one ofLeft)
    | some other => exact congrArg some (determined one rfl other rfl ofLeft ofRight)

/-- An item that may be missing is known from its text when no item shows what a missing one
does. -/
theorem getD_map_inj {shape : α → String} {missing : String}
    (determined : ∀ one, left = some one → ∀ other, right = some other →
      shape one = shape other → one = other)
    (shown : ∀ item, shape item ≠ missing)
    (same : (left.map shape).getD missing = (right.map shape).getD missing) : left = right := by
  cases left with
  | none =>
    cases right with
    | none => rfl
    | some other => exact absurd same.symm (shown other)
  | some one =>
    cases right with
    | none => exact absurd same (shown one)
    | some other => exact congrArg some (determined one rfl other rfl same)

/-- A line that may be missing is known from what it shows when each item shows its own line. -/
theorem orPlaceholder_inj {shape : α → String}
    (determined : ∀ one other, shape one = shape other → one = other)
    (shown : ∀ item, shape item ≠ Default.placeholder)
    (same : orPlaceholder (left.map shape) = orPlaceholder (right.map shape)) : left = right :=
  getD_map_inj (fun one _ other _ => determined one other) shown same

/-- A line that may be left out is known from the lines it is or is not the first of, when what
follows never begins with such a line. -/
theorem optional_append_inj {shape : α → String} {leftRest rightRest : List String}
    (determined : ∀ one other, shape one = shape other → one = other)
    (leftOther : ∀ item, leftRest.head? ≠ some (shape item))
    (rightOther : ∀ item, rightRest.head? ≠ some (shape item))
    (same : (left.map shape).toList ++ leftRest = (right.map shape).toList ++ rightRest) :
    left = right ∧ leftRest = rightRest := by
  cases left with
  | none =>
    cases right with
    | none => exact ⟨rfl, same⟩
    | some other => exact absurd (congrArg List.head? same) (leftOther other)
  | some one =>
    cases right with
    | none => exact absurd (congrArg List.head? same).symm (rightOther one)
    | some other =>
      obtain ⟨first, rest⟩ := List.cons.inj same
      exact ⟨congrArg some (determined one other first), rest⟩

end Missing

/-- A line for each item, or a placeholder when there is none. -/
def listed {α : Type} (act : α → Rendered String) (items : List α) : Rendered (List String) :=
  if items.isEmpty then .ok [Default.placeholder] else items.mapM act

/-- The users are listed. -/
theorem users_eq_listed : users = listed user := rfl

/-- The static routes are listed. -/
theorem staticRoutes_eq_listed : staticRoutes = listed staticRoute := rfl

section Listed

variable {α β : Type} {act : α → Rendered String} {left right : List α} {lines : List String}

/-- A list of one item or more has the lines of its items. -/
theorem listed_cons (item : α) (items : List α) :
    listed act (item :: items) = (item :: items).mapM act := rfl

/-- A list is a lone placeholder or has lines none of which is one. -/
theorem listed_plain {items : List α}
    (shown : ∀ item line, act item = .ok line → line ≠ Default.placeholder)
    (found : listed act items = .ok lines) :
    lines = [Default.placeholder] ∨ lines ≠ [] ∧ ∀ line ∈ lines, line ≠ Default.placeholder := by
  cases items with
  | nil => exact Or.inl (Except.ok.inj found).symm
  | cons item items =>
    rw [listed_cons] at found
    refine Or.inr ⟨?_, Rendered.forall_mem_of_mapM shown found⟩
    obtain ⟨line, rest, -, -, rfl⟩ := Rendered.mapM_cons_eq_ok.mp found
    simp

/-- Items that are known from their lines, none of which is a placeholder, are known when they are
listed: a lone placeholder can only stand for no item. -/
theorem listed_inj (view : α → β)
    (determined : ∀ one other line, act one = .ok line → act other = .ok line →
      view one = view other)
    (shown : ∀ item line, act item = .ok line → line ≠ Default.placeholder)
    (ofLeft : listed act left = .ok lines) (ofRight : listed act right = .ok lines) :
    left.map view = right.map view := by
  have some_of_cons {item : α} {items : List α} (found : listed act (item :: items) = .ok lines) :
      lines ≠ [Default.placeholder] := by
    rw [listed_cons] at found
    obtain ⟨line, rest, first, -, rfl⟩ := Rendered.mapM_cons_eq_ok.mp found
    exact fun alone => shown item line first (List.cons.inj alone).1
  cases left with
  | nil =>
    cases right with
    | nil => rfl
    | cons other right => exact absurd (Except.ok.inj ofLeft).symm (some_of_cons ofRight)
  | cons one left =>
    cases right with
    | nil => exact absurd (Except.ok.inj ofRight).symm (some_of_cons ofLeft)
    | cons other right => exact Rendered.map_eq_of_mapM view determined ofLeft ofRight

end Listed

end RunningConfig.Render
