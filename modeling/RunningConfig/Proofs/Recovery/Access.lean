import RunningConfig.Proofs.Config.Accepted
import RunningConfig.Proofs.Config.Filled
import RunningConfig.Proofs.Render.Content
import RunningConfig.Proofs.Text.Cut
/-!
# Access, known from its lines

The lines of the enable secret, of the authentication methods and of the users determine what they
show. A missing storage type or privilege shows like its default, so a user is known once the
defaults are written out.
-/

namespace RunningConfig

open Text (BlankFirst Solid append_inj_of_solid number_append_inj)

/-- Storage types with the same number are the same. -/
theorem Encryption.number_inj {left right : Encryption} (same : left.number = right.number) :
    left = right := by
  have found := ofNumber?_number left
  rw [same, ofNumber?_number] at found
  exact (Option.some.inj found).symm

/-- Two texts that begin with a storage type before a blank begin with the same one. -/
theorem Encryption.toText_append_inj {left right : Encryption} {leftRest rightRest : String}
    (leftBlank : BlankFirst leftRest) (rightBlank : BlankFirst rightRest)
    (same : left.toText ++ leftRest = right.toText ++ rightRest) :
    left = right ∧ leftRest = rightRest := by
  obtain ⟨number, rest⟩ := number_append_inj leftBlank rightBlank same
  exact ⟨number_inj (UInt8.toNat_inj.mp number), rest⟩

/-- No source of authentication has words that begin those of another. -/
theorem AuthenticationSource.prefixFree : Keyword.PrefixFree AuthenticationSource := by
  intro left right
  cases left <;> cases right <;> simp [Keyword.word]

/-- No user name begins another. -/
theorem Username.prefixFree : Keyword.PrefixFree Username := by
  intro left right
  cases left <;> cases right <;> simp [Keyword.word]

namespace Credential

/-- The entry of a credential is in the table and is that of the credential. -/
theorem mem_table_of_lookup? {plaintext : String} {entry : Entry}
    (found : lookup? plaintext = some entry) : entry ∈ table ∧ entry.plaintext = plaintext :=
  ⟨List.mem_of_find?_eq_some found, by simpa using List.find?_some found⟩

/-- A credential is known from an encoding that no two entries share. -/
theorem lookup?_map_inj {view : Entry → String} {left right shown : String}
    (distinct : ∀ one ∈ table, ∀ other ∈ table, view one = view other →
      one.plaintext = other.plaintext)
    (ofLeft : (lookup? left).map view = some shown)
    (ofRight : (lookup? right).map view = some shown) : left = right := by
  obtain ⟨one, foundLeft, rfl⟩ := Option.map_eq_some_iff.mp ofLeft
  obtain ⟨other, foundRight, same⟩ := Option.map_eq_some_iff.mp ofRight
  obtain ⟨inside, rfl⟩ := mem_table_of_lookup? foundLeft
  obtain ⟨also, rfl⟩ := mem_table_of_lookup? foundRight
  exact distinct one inside other also same.symm

/-- Credentials with the same encoding of one storage type are the same. -/
theorem encode?_inj {left right shown : String} {encryption : Encryption}
    (ofLeft : encode? left encryption = some shown)
    (ofRight : encode? right encryption = some shown) : left = right := by
  cases encryption with
  | plaintext => exact Option.some.inj (ofLeft.trans ofRight.symm)
  | md5 => exact lookup?_map_inj (by decide) ofLeft ofRight
  | vigenere => exact lookup?_map_inj (by decide) ofLeft ofRight

end Credential

namespace Render

/-- A credential is shown by its encoding. -/
theorem credential_eq_ok {plaintext shown : String} {encryption : Encryption} :
    credential plaintext encryption = .ok shown ↔
      Credential.encode? plaintext encryption = some shown := by
  unfold credential
  cases Credential.encode? plaintext encryption <;> simp

/-- Credentials that are shown alike under one storage type are the same. -/
theorem credential_inj {left right shown : String} {encryption : Encryption}
    (ofLeft : credential left encryption = .ok shown)
    (ofRight : credential right encryption = .ok shown) : left = right :=
  Credential.encode?_inj (credential_eq_ok.mp ofLeft) (credential_eq_ok.mp ofRight)

/-- An enable secret is known from its line. -/
theorem enableSecret_inj {left right : EnableSecret} {line : String}
    (ofLeft : enableSecret left = .ok line) (ofRight : enableSecret right = .ok line) :
    left = right := by
  obtain ⟨leftShown, leftCredential, rfl⟩ := Rendered.bind_pure_eq_ok.mp ofLeft
  obtain ⟨rightShown, rightCredential, same⟩ := Rendered.bind_pure_eq_ok.mp ofRight
  simp only [String.append_assoc, String.append_right_inj] at same
  obtain ⟨encryption, same⟩ := Encryption.toText_append_inj (by simp [BlankFirst])
    (by simp [BlankFirst]) same
  obtain rfl := String.append_right_inj _ |>.mp same
  rw [encryption] at rightCredential
  have plaintext := credential_inj leftCredential rightCredential
  rw [EnableSecret.mk.injEq]
  exact ⟨encryption.symm, plaintext⟩

/-- A user with its defaults written out is known from its line. -/
theorem user_inj {left right : User} {line : String} (ofLeft : user left = .ok line)
    (ofRight : user right = .ok line) : left.filled = right.filled := by
  obtain ⟨leftShown, leftCredential, rfl⟩ := Rendered.bind_pure_eq_ok.mp ofLeft
  obtain ⟨rightShown, rightCredential, same⟩ := Rendered.bind_pure_eq_ok.mp ofRight
  simp only [String.append_assoc, String.append_right_inj] at same
  obtain ⟨name, same⟩ := Keyword.word_append_inj Username.prefixFree same
  rw [String.append_right_inj] at same
  obtain ⟨level, same⟩ := number_append_inj (by simp [BlankFirst]) (by simp [BlankFirst]) same
  rw [String.append_right_inj] at same
  obtain ⟨encryption, same⟩ := Encryption.toText_append_inj (by simp [BlankFirst])
    (by simp [BlankFirst]) same
  obtain rfl := String.append_right_inj _ |>.mp same
  rw [encryption] at rightCredential
  have plaintext := credential_inj leftCredential rightCredential
  have privilege := UInt8.toNat_inj.mp level
  have password : left.password.filled = right.password.filled := by
    rw [Password.filled, Password.filled, Password.mk.injEq]
    exact ⟨congrArg some encryption.symm, plaintext⟩
  rw [User.filled, User.filled, User.mk.injEq]
  exact ⟨name.symm, congrArg some privilege.symm, password⟩

/-- The line of a user is no placeholder. -/
theorem user_ne_placeholder {account : User} {line : String} (shown : user account = .ok line) :
    line ≠ Default.placeholder := by
  obtain ⟨encoded, -, rfl⟩ := Rendered.bind_pure_eq_ok.mp shown
  simp [Default.placeholder, ← String.toList_inj]

/-- Users with their defaults written out are known from their lines. -/
theorem users_inj {left right : List User} {lines : List String}
    (ofLeft : users left = .ok lines) (ofRight : users right = .ok lines) :
    left.map User.filled = right.map User.filled := by
  rw [users_eq_listed] at ofLeft ofRight
  exact listed_inj _ (fun _ _ _ => user_inj) (fun _ _ => user_ne_placeholder) ofLeft ofRight

/-- An authentication method with a source and a name without blanks is known from its line. -/
theorem authentication_inj {keyword : String} {left right : AuthenticationMethod}
    (leftName : Solid left.methodList) (rightName : Solid right.methodList)
    (leftSources : left.sources ≠ []) (rightSources : right.sources ≠ [])
    (same : authentication keyword left = authentication keyword right) : left = right := by
  unfold authentication at same
  generalize ofLeft : " ".intercalate (left.sources.map Keyword.word) = leftText at same
  generalize ofRight : " ".intercalate (right.sources.map Keyword.word) = rightText at same
  simp only [String.append_assoc, String.append_right_inj] at same
  obtain ⟨name, same⟩ := append_inj_of_solid leftName rightName (by simp [BlankFirst])
    (by simp [BlankFirst]) same
  rw [String.append_right_inj, ← ofLeft, ← ofRight] at same
  have sources := Keyword.intercalate_word_inj AuthenticationSource.prefixFree leftSources
    rightSources same
  rw [AuthenticationMethod.mk.injEq]
  exact ⟨name, sources⟩

/-- The enable secret and the enable password are known from their lines. -/
theorem enableLines_inj {left right : Config} {lines : List String}
    (ofLeft : enableLines left = .ok lines) (ofRight : enableLines right = .ok lines) :
    left.enableSecret = right.enableSecret ∧ left.enablePassword = right.enablePassword := by
  obtain ⟨secret, leftSecret, rfl⟩ := enableLines_eq_ok.mp ofLeft
  obtain ⟨other, rightSecret, same⟩ := enableLines_eq_ok.mp ofRight
  obtain ⟨rfl, passwords⟩ := List.cons.inj same
  have shown : ∀ secret line, enableSecret secret = .ok line → line ≠ Default.placeholder := by
    intro secret line found
    obtain ⟨encoded, -, rfl⟩ := Rendered.bind_pure_eq_ok.mp found
    simp [Default.placeholder, ← String.toList_inj]
  have secrets := ofOption_inj id (fun _ _ _ _ => enableSecret_inj) (fun _ => shown _ _) leftSecret
    rightSecret
  have passwords := orPlaceholder_inj (fun _ _ => (String.append_right_inj _).mp)
    (fun _ => by simp [Default.placeholder, ← String.toList_inj]) (List.cons.inj passwords).1
  rw [Option.map_id_fun, id, id] at secrets
  exact ⟨secrets, passwords.symm⟩

/-- Authentication methods with sources and names without blanks are known from their lines. -/
theorem methodLine_inj {keyword : String} {left right : Option AuthenticationMethod}
    (leftValid : ∀ method, left = some method →
      method.sources ≠ [] ∧ Name.isMethodList method.methodList = true)
    (rightValid : ∀ method, right = some method →
      method.sources ≠ [] ∧ Name.isMethodList method.methodList = true)
    (same : orPlaceholder (left.map (authentication keyword)) =
      orPlaceholder (right.map (authentication keyword))) : left = right := by
  refine getD_map_inj ?_ ?_ same
  · intro one given other also shown
    obtain ⟨leftSources, leftName⟩ := leftValid one given
    obtain ⟨rightSources, rightName⟩ := rightValid other also
    exact authentication_inj (Name.not_mem_methodList rfl leftName)
      (Name.not_mem_methodList rfl rightName) leftSources rightSources shown
  · intro method
    unfold authentication
    generalize " ".intercalate (method.sources.map Keyword.word) = sources
    simp [Default.placeholder, ← String.toList_inj]

/-- The methods of authentication of an accepted configuration are known from their lines. -/
theorem aaaLines_inj {left right : Config} {lines : List String} (leftAccepted : left.Accepted)
    (rightAccepted : right.Accepted) (ofLeft : aaaLines left = .ok lines)
    (ofRight : aaaLines right = .ok lines) : left.aaaNewModel = right.aaaNewModel := by
  have same := Except.ok.inj (ofLeft.trans ofRight.symm)
  simp only [List.cons.injEq, and_true, true_and] at same
  obtain ⟨model, login, enable, ppp⟩ := same
  have leftMethods := leftAccepted.methods
  have rightMethods := rightAccepted.methods
  unfold Config.methods at leftMethods rightMethods
  cases leftBlock : left.aaaNewModel with
  | none =>
    cases rightBlock : right.aaaNewModel with
    | none => rfl
    | some other =>
      rw [leftBlock, rightBlock] at model
      simp [orPlaceholder, Default.placeholder] at model
  | some one =>
    cases rightBlock : right.aaaNewModel with
    | none =>
      rw [leftBlock, rightBlock] at model
      simp [orPlaceholder, Default.placeholder] at model
    | some other =>
      rw [leftBlock] at leftMethods
      rw [rightBlock] at rightMethods
      rw [leftBlock, rightBlock] at login enable ppp
      obtain ⟨leftLogin, leftEnable, leftPpp⟩ := Authentication.forall_mem_methods.mp leftMethods
      obtain ⟨rightLogin, rightEnable, rightPpp⟩ :=
        Authentication.forall_mem_methods.mp rightMethods
      rw [Option.some.injEq, Authentication.mk.injEq]
      exact ⟨methodLine_inj leftLogin rightLogin login,
        methodLine_inj leftEnable rightEnable enable, methodLine_inj leftPpp rightPpp ppp⟩

end Render

end RunningConfig
