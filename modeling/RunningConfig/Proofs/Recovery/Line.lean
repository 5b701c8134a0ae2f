import RunningConfig.Proofs.Recovery.Credentials
/-!
# Lines of the three classes, known from what they show

The header and the body of a class determine its line once the defaults are written out. One thing
stands in the way: a password in plain text is shown without its storage type, so one that begins
like an encoded password can pass for it.
-/

namespace RunningConfig

open Text (BlankFirst Solid append_inj_of_solid number_append_inj)

/-- A password in plain text that begins like an encoded one, with the number of its storage type
and a blank. -/
def Password.Disguised (password : Password) : Prop :=
  password.effectiveEncryption = .plaintext ∧
    ("5 ".toList <+: password.plaintext.toList ∨ "7 ".toList <+: password.plaintext.toList)

instance (password : Password) : Decidable password.Disguised := by
  unfold Password.Disguised
  infer_instance

/-- A password that imitates an encoded one is disguised. -/
theorem Password.Imitates.disguised {password encoded : Password}
    (imitates : password.Imitates encoded) : password.Disguised := by
  obtain ⟨plain, hidden, shown, -, reads⟩ := imitates
  refine ⟨plain, ?_⟩
  rw [reads, String.toList_append]
  cases type : encoded.effectiveEncryption with
  | plaintext => exact absurd type hidden
  | md5 => exact Or.inl ⟨shown.toList, rfl⟩
  | vigenere => exact Or.inr ⟨shown.toList, rfl⟩

/-- No way to log in has a word that begins another. -/
theorem LoginMethod.prefixFree : Keyword.PrefixFree LoginMethod := by
  intro left right
  cases left <;> cases right <;> simp [Keyword.word]

/-- The last line number that is written out is the one that is shown. -/
theorem LineClass.filledEnd_eq_or (kind : LineClass) (last : Option UInt16) :
    kind.filledEnd last = last.or (Default.linePortEnd? kind) := by
  cases kind <;> cases last <;> rfl

namespace Render

/-- The header of a class ends in its last line number, or in the blank where there is none. -/
theorem lineHeader_eq (kind : LineClass) (line : Option Line) :
    lineHeader kind line = "line " ++ Keyword.word kind ++ " "
      ++ toString ((line.bind Line.portStart).getD 0).toNat ++ " "
      ++ (((line.bind Line.portEnd).or (Default.linePortEnd? kind)).map
        fun last => toString last.toNat).getD "" := by
  unfold lineHeader
  cases (line.bind Line.portEnd).or (Default.linePortEnd? kind) <;> rfl

/-- The line numbers of a class are known from its header. -/
theorem lineHeader_inj {kind : LineClass} {left right : Option Line}
    (same : lineHeader kind left = lineHeader kind right) :
    (left.bind Line.portStart).getD 0 = (right.bind Line.portStart).getD 0 ∧
      kind.filledEnd (left.bind Line.portEnd) = kind.filledEnd (right.bind Line.portEnd) := by
  simp only [lineHeader_eq, ← LineClass.filledEnd_eq_or, String.append_assoc,
    String.append_right_inj] at same
  obtain ⟨first, last⟩ := number_append_inj (by simp [BlankFirst]) (by simp [BlankFirst]) same
  rw [String.append_right_inj] at last
  exact ⟨UInt16.toNat_inj.mp first,
    getD_map_inj (fun _ _ _ _ shown => UInt16.toNat_inj.mp (Text.toString_inj shown))
      (fun _ => Text.toString_ne_empty _) last⟩

/-- A login policy shows its method and, after a blank, its method list if there is one. -/
theorem login_some (policy : LoginPolicy) :
    login (some policy) = "login " ++ (Keyword.word policy.method ++
      (policy.methodList.map (" " ++ ·)).getD "") := by
  obtain ⟨method, list⟩ := policy
  rw [← String.append_assoc]
  cases list <;> rfl

/-- A login policy is known from its line. -/
theorem login_inj {left right : Option LoginPolicy} (same : login left = login right) :
    left = right := by
  cases left with
  | none =>
    cases right with
    | none => rfl
    | some other =>
      rw [login_some] at same
      simp [login, ← String.toList_inj] at same
  | some one =>
    cases right with
    | none =>
      rw [login_some] at same
      simp [login, ← String.toList_inj] at same
    | some other =>
      rw [login_some, login_some, String.append_right_inj] at same
      obtain ⟨method, shown⟩ := Keyword.word_append_inj LoginMethod.prefixFree same
      have list := getD_map_inj (fun _ _ _ _ => (String.append_right_inj _).mp)
        (fun _ => by simp [← String.toList_inj]) shown
      rw [Option.some.injEq, LoginPolicy.mk.injEq]
      exact ⟨method, list⟩

/-- The minutes of a timeout are a word, empty when they are not set. -/
theorem solid_minutes (timeout : ExecTimeout) : Solid (minutes timeout) := by
  unfold minutes
  cases timeout.minutes with
  | none => decide
  | some number => exact Text.solid_toString _

/-- The timeout of a session is known from its line. -/
theorem execTimeout_inj {left right : ExecTimeout}
    (same : " exec-timeout " ++ minutes left ++ " " ++ toString left.seconds.toNat =
      " exec-timeout " ++ minutes right ++ " " ++ toString right.seconds.toNat) : left = right := by
  have shown (timeout : ExecTimeout) :
      minutes timeout = (timeout.minutes.map fun number => toString number.toNat).getD "" := by
    unfold minutes
    cases timeout.minutes <;> rfl
  simp only [String.append_assoc, String.append_right_inj] at same
  obtain ⟨first, last⟩ := append_inj_of_solid (solid_minutes left) (solid_minutes right)
    (by simp [BlankFirst]) (by simp [BlankFirst]) same
  rw [String.append_right_inj] at last
  rw [shown, shown] at first
  rw [ExecTimeout.mk.injEq]
  exact ⟨getD_map_inj (fun _ _ _ _ shown => UInt32.toNat_inj.mp (Text.toString_inj shown))
    (fun _ => Text.toString_ne_empty _) first, UInt32.toNat_inj.mp (Text.toString_inj last)⟩

/-- A password that is not disguised is known, with its storage type, from its line. -/
theorem linePassword_inj {left right : Password} {line : String} (leftOpen : ¬left.Disguised)
    (rightOpen : ¬right.Disguised) (ofLeft : linePassword left = .ok line)
    (ofRight : linePassword right = .ok line) : left.filled = right.filled := by
  rcases (alike_linePassword_iff left right).mp ⟨line, ofLeft, ofRight⟩ with
    ⟨same, -⟩ | imitates | imitates
  · exact Password.same_iff_filled.mp same
  · exact absurd imitates.disguised leftOpen
  · exact absurd imitates.disguised rightOpen

/-- A disguised password has the line of the encoded one it imitates. -/
example : linePassword { encryption := some .md5, plaintext := "cisco" } =
    linePassword { plaintext := "5 $1$mERr$hx5rVt7rPNoS4wqbXKX7m0" } := rfl

/-- The line of a password is no placeholder. -/
theorem linePassword_ne_placeholder {password : Password} {line : String}
    (shown : linePassword password = .ok line) : line ≠ Default.placeholder := by
  obtain ⟨encoded, -, rfl⟩ := Rendered.bind_pure_eq_ok.mp shown
  split <;> simp [Default.placeholder, ← String.toList_inj]

/-- A line whose password, if any, is not disguised is known from its body up to its line numbers,
once the storage type of the password is written out. -/
theorem lineBody_inj {left right : Line} {lines : List String}
    (leftOpen : ∀ password, left.password = some password → ¬password.Disguised)
    (rightOpen : ∀ password, right.password = some password → ¬password.Disguised)
    (ofLeft : lineBody left = .ok lines) (ofRight : lineBody right = .ok lines) :
    left.logging = right.logging ∧
      left.password.map Password.filled = right.password.map Password.filled ∧
      left.login = right.login ∧ left.execTimeout = right.execTimeout ∧
      left.transportInput = right.transportInput := by
  obtain ⟨leftPassword, leftShown, rfl⟩ := lineBody_eq_ok.mp ofLeft
  obtain ⟨rightPassword, rightShown, same⟩ := lineBody_eq_ok.mp ofRight
  simp only [List.cons.injEq, and_true] at same
  obtain ⟨timeout, password, logging, login, transport⟩ := same
  obtain rfl := String.append_right_inj _ |>.mp password
  have word {α : Type} [Keyword α] {directive : String} (one other : α)
      (shown : directive ++ Keyword.word one = directive ++ Keyword.word other) : one = other :=
    Keyword.word_injective ((String.append_right_inj _).mp shown)
  refine ⟨?_, ?_, ?_, ?_, ?_⟩
  · exact (orPlaceholder_inj word (fun _ => by simp [Default.placeholder, ← String.toList_inj])
      ((String.append_right_inj _).mp logging)).symm
  · exact ofOption_inj _
      (fun one given other also => linePassword_inj (leftOpen one given) (rightOpen other also))
      (fun _ => linePassword_ne_placeholder) leftShown rightShown
  · exact (login_inj ((String.append_right_inj _).mp login)).symm
  · exact (execTimeout_inj timeout).symm
  · exact (orPlaceholder_inj word (fun _ => by simp [Default.placeholder, ← String.toList_inj])
      ((String.append_right_inj _).mp transport)).symm

/-- A class whose line has no disguised password is known from its lines once the defaults are
written out. -/
theorem lineClass_inj {kind : LineClass} {left right : Option Line} {lines : List String}
    (leftOpen : ∀ line, left = some line →
      ∀ password, line.password = some password → ¬password.Disguised)
    (rightOpen : ∀ line, right = some line →
      ∀ password, line.password = some password → ¬password.Disguised)
    (ofLeft : lineClass kind left = .ok lines) (ofRight : lineClass kind right = .ok lines) :
    left.map (Line.filled kind) = right.map (Line.filled kind) := by
  obtain ⟨leftBody, leftShown, rfl⟩ := lineClass_eq_ok.mp ofLeft
  obtain ⟨rightBody, rightShown, same⟩ := lineClass_eq_ok.mp ofRight
  obtain ⟨header, rfl⟩ := List.cons.inj same
  obtain ⟨first, last⟩ := lineHeader_inj header
  have nonempty (line : Line) (shown : lineBody line = .ok rightBody) : rightBody ≠ [] := by
    obtain ⟨password, -, rfl⟩ := lineBody_eq_ok.mp shown
    simp
  refine ofOption_inj _ ?_ nonempty leftShown rightShown
  rintro one rfl other rfl leftLines rightLines
  obtain ⟨logging, password, login, timeout, transport⟩ :=
    lineBody_inj (leftOpen one rfl) (rightOpen other rfl) leftLines rightLines
  rw [Line.filled, Line.filled, Line.mk.injEq]
  exact ⟨congrArg some first.symm, last.symm, logging, password, login, timeout, transport⟩

/-- A class has lines, and none of them is a placeholder. -/
theorem lineClass_ne_placeholder {kind : LineClass} {line : Option Line} {lines : List String}
    (shown : lineClass kind line = .ok lines) :
    lines ≠ [] ∧ ∀ text ∈ lines, text ≠ Default.placeholder := by
  obtain ⟨body, bodied, rfl⟩ := lineClass_eq_ok.mp shown
  refine ⟨List.cons_ne_nil _ _, ?_⟩
  have header : lineHeader kind line ≠ Default.placeholder := by
    simp [lineHeader_eq, Default.placeholder, ← String.toList_inj]
  refine List.forall_mem_cons.mpr ⟨header, ?_⟩
  cases line with
  | none =>
    obtain rfl := Except.ok.inj bodied
    simp
  | some line =>
    obtain ⟨password, -, rfl⟩ := lineBody_eq_ok.mp bodied
    have indented (rest : String) : " " ++ rest ≠ Default.placeholder := by
      intro same
      have chars := congrArg String.toList same
      simp [Default.placeholder] at chars
    have timeout (rest : String) : " exec-timeout " ++ rest ≠ Default.placeholder := by
      simp [Default.placeholder, ← String.toList_inj]
    simp only [List.forall_mem_cons, List.not_mem_nil, false_implies, implies_true, and_true]
    rw [String.append_assoc, String.append_assoc]
    exact ⟨timeout _, indented _, indented _, indented _, indented _⟩

end Render

end RunningConfig
