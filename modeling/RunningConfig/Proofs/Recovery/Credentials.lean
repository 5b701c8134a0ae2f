import RunningConfig.Proofs.Recovery.Access
/-!
# What a shown credential tells

The line of an enable secret and that of a user tell the storage type and the plain text. That of a
line password does so but for one case: the device shows a password in plain text without its
storage type, so one whose text is the number and the encoding of another imitates it. Which two
credentials share a line is known exactly.
-/

namespace RunningConfig

/-- Two items are shown as the same. -/
def Rendered.Alike {α β : Type} (act : α → Rendered β) (left right : α) : Prop :=
  ∃ result, act left = .ok result ∧ act right = .ok result

/-- A credential has an encoding of a storage type. -/
def Credential.Encodes (plaintext : String) (encryption : Encryption) : Prop :=
  ∃ shown, encode? plaintext encryption = some shown

namespace Password

/-- Two passwords have the same storage type in force and the same plain text. -/
def Same (left right : Password) : Prop :=
  left.effectiveEncryption = right.effectiveEncryption ∧ left.plaintext = right.plaintext

/-- Passwords are the same exactly when they are equal with their storage type written out. -/
theorem same_iff_filled {left right : Password} : Same left right ↔ left.filled = right.filled := by
  rw [filled, filled, Password.mk.injEq, Option.some.injEq]
  rfl

/-- A password in plain text reads like an encoded one: the number of its storage type, a blank and
its encoding. -/
def Imitates (password encoded : Password) : Prop :=
  password.effectiveEncryption = .plaintext ∧ encoded.effectiveEncryption ≠ .plaintext ∧
    ∃ shown, Credential.encode? encoded.plaintext encoded.effectiveEncryption = some shown ∧
      password.plaintext = encoded.effectiveEncryption.toText ++ " " ++ shown

end Password

namespace Render

open Credential (Encodes encode?)
open Rendered (Alike)

/-! ## Secrets and users -/

/-- Enable secrets share a line exactly when they are the same and can be encoded. -/
theorem alike_enableSecret_iff (left right : EnableSecret) : Alike enableSecret left right ↔
    left.encryption = right.encryption ∧ left.plaintext = right.plaintext ∧
      Encodes left.plaintext left.encryption := by
  constructor
  · rintro ⟨line, ofLeft, ofRight⟩
    obtain rfl := enableSecret_inj ofLeft ofRight
    obtain ⟨shown, encoded, -⟩ := Rendered.bind_pure_eq_ok.mp ofLeft
    exact ⟨rfl, rfl, shown, credential_eq_ok.mp encoded⟩
  · rintro ⟨type, plaintext, shown, encoded⟩
    obtain rfl : left = right := by
      rw [EnableSecret.mk.injEq]
      exact ⟨type, plaintext⟩
    have found : enableSecret left = .ok _ :=
      Rendered.bind_pure_eq_ok.mpr ⟨shown, credential_eq_ok.mpr encoded, rfl⟩
    exact ⟨_, found, found⟩

/-- Users share a line exactly when they have the same name, privilege in force and password, which
can be encoded. -/
theorem alike_user_iff (left right : User) : Alike user left right ↔
    left.username = right.username ∧
      left.privilege.getD Default.privilege = right.privilege.getD Default.privilege ∧
      left.password.Same right.password ∧
      Encodes left.password.plaintext left.password.effectiveEncryption := by
  constructor
  · rintro ⟨line, ofLeft, ofRight⟩
    obtain ⟨name, level, password⟩ := User.mk.inj (user_inj ofLeft ofRight)
    obtain ⟨shown, encoded, -⟩ := Rendered.bind_pure_eq_ok.mp ofLeft
    exact ⟨name, Option.some.inj level, Password.same_iff_filled.mpr password, shown,
      credential_eq_ok.mp encoded⟩
  · rintro ⟨name, level, ⟨type, plaintext⟩, shown, encoded⟩
    have same : user left = user right := by
      unfold user
      rw [name, level, type, plaintext]
    have found : user left = .ok _ :=
      Rendered.bind_pure_eq_ok.mpr ⟨shown, credential_eq_ok.mpr encoded, rfl⟩
    exact ⟨_, found, same ▸ found⟩

/-! ## Line passwords -/

/-- An encoding as the line of a password shows it, after its storage type unless it is plain. -/
def tagged (encryption : Encryption) (shown : String) : String :=
  if encryption = .plaintext then shown else encryption.toText ++ " " ++ shown

/-- The line of a password is its encoding behind a keyword. -/
theorem linePassword_eq_ok {password : Password} {line : String} :
    linePassword password = .ok line ↔
      ∃ shown, encode? password.plaintext password.effectiveEncryption = some shown ∧
        "password " ++ tagged password.effectiveEncryption shown = line := by
  unfold linePassword tagged
  rw [Rendered.bind_pure_eq_ok]
  simp only [credential_eq_ok]
  by_cases plain : password.effectiveEncryption = .plaintext
  · simp only [if_pos plain]
  · simp only [if_neg plain, String.append_assoc]

/-- Two encodings that are shown alike are the same, unless one is plain and holds the other. -/
theorem tagged_inj {left right : Encryption} {leftShown rightShown : String}
    (same : tagged left leftShown = tagged right rightShown) :
    (left = right ∧ leftShown = rightShown) ∨
      (left = .plaintext ∧ right ≠ .plaintext ∧ leftShown = right.toText ++ " " ++ rightShown) ∨
      (right = .plaintext ∧ left ≠ .plaintext ∧ rightShown = left.toText ++ " " ++ leftShown) := by
  unfold tagged at same
  by_cases leftPlain : left = .plaintext
  · rw [if_pos leftPlain] at same
    by_cases rightPlain : right = .plaintext
    · rw [if_pos rightPlain] at same
      exact Or.inl ⟨leftPlain.trans rightPlain.symm, same⟩
    · rw [if_neg rightPlain] at same
      exact Or.inr (Or.inl ⟨leftPlain, rightPlain, same⟩)
  · rw [if_neg leftPlain] at same
    by_cases rightPlain : right = .plaintext
    · rw [if_pos rightPlain] at same
      exact Or.inr (Or.inr ⟨rightPlain, leftPlain, same.symm⟩)
    · rw [if_neg rightPlain, String.append_assoc, String.append_assoc] at same
      obtain ⟨type, shown⟩ := Encryption.toText_append_inj (by simp [Text.BlankFirst])
        (by simp [Text.BlankFirst]) same
      exact Or.inl ⟨type, (String.append_right_inj _).mp shown⟩

/-- The encoding of a password in plain text is its text. -/
theorem plaintext_of_encode? {plaintext shown : String} {encryption : Encryption}
    (encoded : encode? plaintext encryption = some shown) (plain : encryption = .plaintext) :
    plaintext = shown := by
  subst plain
  exact Option.some.inj encoded

/-- A password has the line of one that it imitates. -/
theorem alike_of_imitates {password encoded : Password} (imitates : password.Imitates encoded) :
    Alike linePassword password encoded := by
  obtain ⟨plain, hidden, shown, found, reads⟩ := imitates
  refine ⟨"password " ++ tagged encoded.effectiveEncryption shown, ?_,
    linePassword_eq_ok.mpr ⟨shown, found, rfl⟩⟩
  refine linePassword_eq_ok.mpr ⟨password.plaintext, ?_, ?_⟩
  · rw [plain]
    rfl
  · rw [plain, tagged, if_pos rfl, tagged, if_neg hidden, reads]

/-- Line passwords share a line exactly when they are the same and can be encoded, or one of them
imitates the other. -/
theorem alike_linePassword_iff (left right : Password) : Alike linePassword left right ↔
    (left.Same right ∧ Encodes left.plaintext left.effectiveEncryption) ∨ left.Imitates right ∨
      right.Imitates left := by
  constructor
  · rintro ⟨line, ofLeft, ofRight⟩
    obtain ⟨leftShown, leftEncoded, rfl⟩ := linePassword_eq_ok.mp ofLeft
    obtain ⟨rightShown, rightEncoded, same⟩ := linePassword_eq_ok.mp ofRight
    rcases tagged_inj ((String.append_right_inj _).mp same) with
      ⟨type, rfl⟩ | ⟨plain, hidden, holds⟩ | ⟨plain, hidden, holds⟩
    · rw [type] at rightEncoded
      exact Or.inl ⟨⟨type.symm, (Credential.encode?_inj rightEncoded leftEncoded).symm⟩,
        rightShown, leftEncoded⟩
    · refine Or.inr (Or.inr ⟨plain, hidden, leftShown, leftEncoded, ?_⟩)
      rw [plaintext_of_encode? rightEncoded plain, holds]
    · refine Or.inr (Or.inl ⟨plain, hidden, rightShown, rightEncoded, ?_⟩)
      rw [plaintext_of_encode? leftEncoded plain, holds]
  · rintro (⟨⟨type, plaintext⟩, shown, encoded⟩ | imitates | imitates)
    · have also : encode? right.plaintext right.effectiveEncryption = some shown := by
        rw [← type, ← plaintext, encoded]
      refine ⟨_, linePassword_eq_ok.mpr ⟨shown, encoded, rfl⟩,
        linePassword_eq_ok.mpr ⟨shown, also, ?_⟩⟩
      rw [type]
    · exact alike_of_imitates imitates
    · obtain ⟨line, own, other⟩ := alike_of_imitates imitates
      exact ⟨line, other, own⟩

/-- What the line of a credential tells of it. -/
structure Telling : Prop where
  /-- The line of an enable secret tells the storage type and the plain text. -/
  secrets : ∀ left right, Alike enableSecret left right ↔
    left.encryption = right.encryption ∧ left.plaintext = right.plaintext ∧
      Encodes left.plaintext left.encryption
  /-- The line of a user tells these besides the name and the privilege. -/
  users : ∀ left right, Alike user left right ↔
    left.username = right.username ∧
      left.privilege.getD Default.privilege = right.privilege.getD Default.privilege ∧
      left.password.Same right.password ∧
      Encodes left.password.plaintext left.password.effectiveEncryption
  /-- The line of a line password tells these unless a password in plain text imitates another. -/
  passwords : ∀ left right, Alike linePassword left right ↔
    (left.Same right ∧ Encodes left.plaintext left.effectiveEncryption) ∨ left.Imitates right ∨
      right.Imitates left

/-- Credentials are known from their lines but for line passwords in plain text that imitate encoded
ones. -/
theorem credentials_telling : Telling where
  secrets := alike_enableSecret_iff
  users := alike_user_iff
  passwords := alike_linePassword_iff

/-- A password in plain text that is the number and the encoding of another has its line. -/
theorem alike_linePassword_imitated :
    Alike linePassword ⟨none, "7 0822455D0A16"⟩ ⟨some .vigenere, "cisco"⟩ ∧
      ¬Password.Same ⟨none, "7 0822455D0A16"⟩ ⟨some .vigenere, "cisco"⟩ := by
  refine ⟨⟨"password 7 0822455D0A16", rfl, rfl⟩, ?_⟩
  rintro ⟨type, -⟩
  contradiction

end Render

end RunningConfig
