import WorkspaceConsole.Text.Utf8

/-!
# Reading back what was encoded

The bytes of a text decode to the text (`decode?_encode`). Its ASCII characters are bytes of their
own, and no other character has such bytes, so a text has a line feed among its bytes only if it has
one among its characters (`char_mem_of_mem_encode`).
-/

namespace WorkspaceConsole.Text.Utf8

variable {b : UInt8} {p : Pending} {c : Char}

theorem encode_eq (s : String) : encode s = s.toList.flatMap String.utf8EncodeChar := by
  rw [encode, String.toUTF8_eq_toByteArray, ← String.utf8Encode_toList, List.utf8Encode,
    List.toList_data_toByteArray]

/-! ## Byte by byte -/

theorem partsFrom_character (h : lead b = .character c) (bs : List UInt8) :
    partsFrom none (b :: bs) = some c :: partsFrom none bs := by
  rw [partsFrom, h]

theorem partsFrom_sequence (h : lead b = .sequence p) (bs : List UInt8) :
    partsFrom none (b :: bs) = partsFrom (some p) bs := by
  rw [partsFrom, h]

/-- The last byte of a character. -/
theorem partsFrom_last {bits least most : Nat} (hb : least ≤ b.toNat ∧ b.toNat ≤ most)
    (hc : bits * 64 + (b.toNat - 0x80) = c.toNat) (bs : List UInt8) :
    partsFrom (some ⟨bits, least, most, 1⟩) (b :: bs) = some c :: partsFrom none bs := by
  rw [partsFrom, if_pos hb]
  simp only [Nat.le_refl, if_true, hc, Char.ofNat_toNat]

/-- A byte in the middle of a character. -/
theorem partsFrom_middle {bits least most : Nat} (n : Nat)
    (hb : least ≤ b.toNat ∧ b.toNat ≤ most) (bs : List UInt8) :
    partsFrom (some ⟨bits, least, most, n + 2⟩) (b :: bs) =
      partsFrom (some ⟨bits * 64 + (b.toNat - 0x80), 0x80, 0xBF, n + 1⟩) bs := by
  rw [partsFrom, if_pos hb]
  exact if_neg (show ¬ n + 2 ≤ 1 by omega)

/-! ## The first byte -/

theorem lead_one (h : b.toNat < 0x80) : lead b = .character (Char.ofNat b.toNat) :=
  if_pos h

theorem lead_two (h : 0xC2 ≤ b.toNat) (h' : b.toNat < 0xE0) :
    lead b = .sequence ⟨b.toNat - 0xC0, 0x80, 0xBF, 1⟩ := by
  simp only [lead]
  rw [if_neg (by omega), if_neg (by omega), if_pos h']

/-- The first of three bytes: the second one must not make an overlong form or a surrogate. -/
theorem lead_three (h : 0xE0 ≤ b.toNat) (h' : b.toNat < 0xF0) :
    ∃ least most, lead b = .sequence ⟨b.toNat - 0xE0, least, most, 2⟩ ∧
      ∀ n, 0x80 ≤ n → n ≤ 0xBF → (b.toNat = 0xE0 → 0xA0 ≤ n) → (b.toNat = 0xED → n ≤ 0x9F) →
        least ≤ n ∧ n ≤ most := by
  simp only [lead]
  rw [if_neg (by omega), if_neg (by omega), if_neg (by omega)]
  by_cases hfirst : b.toNat = 0xE0
  · rw [if_pos hfirst, hfirst]
    exact ⟨_, _, rfl, fun n _ hn hlow _ => ⟨hlow rfl, hn⟩⟩
  · rw [if_neg hfirst]
    by_cases hlast : b.toNat = 0xED
    · rw [if_pos hlast, hlast]
      exact ⟨_, _, rfl, fun n hn _ _ hhigh => ⟨hn, hhigh rfl⟩⟩
    · rw [if_neg hlast, if_pos h']
      exact ⟨_, _, rfl, fun n hn hn' _ _ => ⟨hn, hn'⟩⟩

/-- The first of four bytes: the second one must not make an overlong form or go beyond the last
code point. -/
theorem lead_four (h : 0xF0 ≤ b.toNat) (h' : b.toNat ≤ 0xF4) :
    ∃ least most, lead b = .sequence ⟨b.toNat - 0xF0, least, most, 3⟩ ∧
      ∀ n, 0x80 ≤ n → n ≤ 0xBF → (b.toNat = 0xF0 → 0x90 ≤ n) → (b.toNat = 0xF4 → n ≤ 0x8F) →
        least ≤ n ∧ n ≤ most := by
  simp only [lead]
  rw [if_neg (by omega), if_neg (by omega), if_neg (by omega), if_neg (by omega),
    if_neg (by omega), if_neg (by omega)]
  by_cases hfirst : b.toNat = 0xF0
  · rw [if_pos hfirst, hfirst]
    exact ⟨_, _, rfl, fun n _ hn hlow _ => ⟨hlow rfl, hn⟩⟩
  · rw [if_neg hfirst]
    by_cases hlast : b.toNat = 0xF4
    · rw [if_neg (by omega), if_pos hlast, hlast]
      exact ⟨_, _, rfl, fun n hn _ _ hhigh => ⟨hn, hhigh rfl⟩⟩
    · rw [if_pos (by omega)]
      exact ⟨_, _, rfl, fun n hn hn' _ _ => ⟨hn, hn'⟩⟩

/-! ## Whole characters -/

theorem partsFrom_one (h : b.toNat = c.toNat) (hc : c.toNat < 0x80) (bs : List UInt8) :
    partsFrom none (b :: bs) = some c :: partsFrom none bs := by
  have hlead := lead_one (b := b) (by omega)
  rw [h, Char.ofNat_toNat] at hlead
  exact partsFrom_character hlead bs

theorem partsFrom_two {b₁ b₂ : UInt8} (h₁ : b₁.toNat = c.toNat / 64 + 0xC0)
    (h₂ : b₂.toNat = c.toNat % 64 + 0x80) (hlow : 0x80 ≤ c.toNat) (hhigh : c.toNat < 0x800)
    (bs : List UInt8) : partsFrom none (b₁ :: b₂ :: bs) = some c :: partsFrom none bs := by
  have hlead := lead_two (b := b₁) (by omega) (by omega)
  rw [partsFrom_sequence hlead]
  refine partsFrom_last ?_ ?_ bs <;> omega

theorem partsFrom_three {b₁ b₂ b₃ : UInt8} (h₁ : b₁.toNat = c.toNat / 4096 + 0xE0)
    (h₂ : b₂.toNat = c.toNat / 64 % 64 + 0x80) (h₃ : b₃.toNat = c.toNat % 64 + 0x80)
    (hlow : 0x800 ≤ c.toNat) (hhigh : c.toNat < 0x10000) (bs : List UInt8) :
    partsFrom none (b₁ :: b₂ :: b₃ :: bs) = some c :: partsFrom none bs := by
  have hvalid : c.toNat.isValidChar := c.valid
  obtain ⟨least, most, hlead, hrange⟩ := lead_three (b := b₁) (by omega) (by omega)
  have hsecond : least ≤ b₂.toNat ∧ b₂.toNat ≤ most := by
    refine hrange _ ?_ ?_ ?_ ?_ <;> omega
  rw [partsFrom_sequence hlead, partsFrom_middle 0 hsecond]
  refine partsFrom_last ?_ ?_ bs <;> omega

theorem partsFrom_four {b₁ b₂ b₃ b₄ : UInt8} (h₁ : b₁.toNat = c.toNat / 262144 + 0xF0)
    (h₂ : b₂.toNat = c.toNat / 4096 % 64 + 0x80) (h₃ : b₃.toNat = c.toNat / 64 % 64 + 0x80)
    (h₄ : b₄.toNat = c.toNat % 64 + 0x80) (hlow : 0x10000 ≤ c.toNat) (bs : List UInt8) :
    partsFrom none (b₁ :: b₂ :: b₃ :: b₄ :: bs) = some c :: partsFrom none bs := by
  have hvalid : c.toNat.isValidChar := c.valid
  obtain ⟨least, most, hlead, hrange⟩ := lead_four (b := b₁) (by omega) (by omega)
  have hsecond : least ≤ b₂.toNat ∧ b₂.toNat ≤ most := by
    refine hrange _ ?_ ?_ ?_ ?_ <;> omega
  have hthird : 0x80 ≤ b₃.toNat ∧ b₃.toNat ≤ 0xBF := by omega
  rw [partsFrom_sequence hlead, partsFrom_middle 1 hsecond, partsFrom_middle 0 hthird]
  refine partsFrom_last ?_ ?_ bs <;> omega

theorem toNat_ofNat_of_lt {m n : Nat} (hn : n < 256) (h : n = m) : (UInt8.ofNat n).toNat = m := by
  rw [UInt8.toNat_ofNat', ← h]
  exact Nat.mod_eq_of_lt hn

/-- **A character is read back from its bytes.** -/
theorem partsFrom_utf8EncodeChar (c : Char) (bs : List UInt8) :
    partsFrom none (String.utf8EncodeChar c ++ bs) = some c :: partsFrom none bs := by
  have hvalid : c.toNat.isValidChar := c.valid
  have hvalue : c.val.toNat = c.toNat := rfl
  fun_cases String.utf8EncodeChar c with
  | case1 v hone =>
    exact partsFrom_one (toNat_ofNat_of_lt (by omega) rfl) (by omega) bs
  | case2 v hone htwo =>
    refine partsFrom_two (toNat_ofNat_of_lt ?_ ?_) (toNat_ofNat_of_lt ?_ rfl) ?_ ?_ bs <;> omega
  | case3 v hone htwo hthree =>
    refine partsFrom_three (toNat_ofNat_of_lt ?_ ?_) (toNat_ofNat_of_lt ?_ rfl)
      (toNat_ofNat_of_lt ?_ rfl) ?_ ?_ bs <;> omega
  | case4 v hone htwo hthree =>
    refine partsFrom_four (toNat_ofNat_of_lt ?_ ?_) (toNat_ofNat_of_lt ?_ rfl)
      (toNat_ofNat_of_lt ?_ rfl) (toNat_ofNat_of_lt ?_ rfl) ?_ bs <;> omega

/-- A byte below 128 among those of a character is all of it. -/
theorem toNat_of_mem_utf8EncodeChar (h : b ∈ String.utf8EncodeChar c) (hb : b.toNat < 0x80) :
    c.toNat = b.toNat := by
  have hvalid : c.toNat.isValidChar := c.valid
  have hvalue : c.val.toNat = c.toNat := rfl
  have hbyte : ∀ n, 0x80 ≤ n → n < 256 → b ≠ UInt8.ofNat n := by
    rintro n hlow hn rfl
    rw [toNat_ofNat_of_lt hn rfl] at hb
    omega
  revert h
  fun_cases String.utf8EncodeChar c with
  | case1 v hone =>
    intro h
    rw [List.mem_singleton.1 h]
    exact (toNat_ofNat_of_lt (by omega) rfl).symm
  | case2 v hone htwo =>
    simp only [List.mem_cons, List.not_mem_nil, or_false]
    rintro (h | h) <;> exact absurd h (hbyte _ (by omega) (by omega))
  | case3 v hone htwo hthree =>
    simp only [List.mem_cons, List.not_mem_nil, or_false]
    rintro (h | h | h) <;> exact absurd h (hbyte _ (by omega) (by omega))
  | case4 v hone htwo hthree =>
    simp only [List.mem_cons, List.not_mem_nil, or_false]
    rintro (h | h | h | h) <;> exact absurd h (hbyte _ (by omega) (by omega))

/-! ## Texts -/

theorem parts_encode (s : String) : parts (encode s) = s.toList.map some := by
  rw [parts, encode_eq]
  induction s.toList with
  | nil => rfl
  | cons c cs ih => rw [List.flatMap_cons, partsFrom_utf8EncodeChar, ih, List.map_cons]

/-- **A text is read back from its bytes.** -/
theorem decode?_encode (s : String) : decode? (encode s) = some s := by
  have hall : (s.toList.map some).all Option.isSome = true := by simp
  have hparts : (s.toList.map some).filterMap id = s.toList := by simp
  rw [decode?, parts_encode, if_pos hall, hparts, String.ofList_toList]

/-- No character of a text is replaced when it is read back. -/
theorem decodeLossy_encode (s : String) : decodeLossy (encode s) = s := by
  have hkept : ((fun part : Option Char => part.getD '\uFFFD') ∘ some) = id := by
    funext c
    rfl
  rw [decodeLossy, parts_encode, List.map_map, hkept, List.map_id, String.ofList_toList]

/-- An ASCII byte of a text is one of its characters. -/
theorem char_mem_of_mem_encode {s : String} (h : b ∈ encode s) (hb : b.toNat < 0x80) :
    Char.ofNat b.toNat ∈ s.toList := by
  rw [encode_eq, List.mem_flatMap] at h
  obtain ⟨c, hc, hbc⟩ := h
  rw [← toNat_of_mem_utf8EncodeChar hbc hb, Char.ofNat_toNat]
  exact hc

end WorkspaceConsole.Text.Utf8
