import UefiTyping.Json.Decode

/-!
# Texts read back

What a string holds for a text is read back as that text. The scanner reads it as a part of
one string: no character of a text, however it is escaped, ends the string that it stands in.
-/
namespace UefiTyping.Json

/-! ## Reading -/

theorem unescape?_cons {c : Char} (h : c ≠ '\\') (rest : List Char) :
    unescape? (c :: rest) = (unescape? rest).map (c :: ·) := by
  rw [unescape?.eq_def]
  split <;> simp_all

/-- A code unit that is no half of a surrogate pair is a character. -/
theorem unescape?_unicode {a b c d : Char} {unit : Nat} (hunit : codeUnit? a b c d = some unit)
    (hsmall : unit < 0xd800) (rest : List Char) :
    unescape? ('\\' :: 'u' :: a :: b :: c :: d :: rest) =
      (unescape? rest).map (Char.ofNat unit :: ·) := by
  have hhigh : isHighSurrogate unit = false := by
    rw [isHighSurrogate, Bool.and_eq_false_iff]
    exact .inl (decide_eq_false (by omega))
  have hlow : isLowSurrogate unit = false := by
    rw [isLowSurrogate, Bool.and_eq_false_iff]
    exact .inl (decide_eq_false (by omega))
  rw [unescape?, hunit]
  simp only [hhigh, hlow, Bool.false_eq_true, if_false]

theorem codeUnit?_ofByte (b : UInt8) :
    codeUnit? '0' '0' (Nat.digitChar (b.toNat / 16)) (Nat.digitChar (b.toNat % 16)) =
      some b.toNat := by
  have hzero : Hex.byte? '0' '0' = some 0 := by decide
  simp [codeUnit?, hzero, Hex.byte?_ofByte]

theorem toNat_toUInt8_of_lt_space {c : Char} (h : c < ' ') : c.toUInt8.toNat = c.toNat := by
  have hsmall : c.toNat < 32 := h
  show c.toNat % 256 = c.toNat
  omega

/-- A character is read back from the front of a string. -/
theorem unescape?_escapeChar_append (c : Char) (rest : List Char) :
    unescape? (escapeChar c ++ rest) = (unescape? rest).map (c :: ·) := by
  rw [escapeChar.eq_def]
  split
  case h_8 hbackslash _ _ _ _ _ =>
    by_cases hcontrol : c < ' '
    · have hbyte := toNat_toUInt8_of_lt_space hcontrol
      have hsmall : c.toUInt8.toNat < 0xd800 := by
        have := c.toUInt8.toNat_lt
        omega
      rw [if_pos hcontrol]
      show unescape? ('\\' :: 'u' :: '0' :: '0' :: _ :: _ :: rest) = _
      rw [unescape?_unicode (codeUnit?_ofByte c.toUInt8) hsmall, hbyte, Char.ofNat_toNat]
    · rw [if_neg hcontrol]
      exact unescape?_cons hbackslash rest
  all_goals rfl

/-- A text is read back from a string. -/
theorem unescape?_escape (text : List Char) : unescape? (escape text) = some text := by
  induction text with
  | nil => rfl
  | cons c text ih =>
    rw [escape, List.flatMap_cons, unescape?_escapeChar_append, ← escape, ih]
    rfl

theorem text?_ofText (text : String) : (ofText text).text? = some text := by
  simp [ofText, text?, unescape?_escape]

theorem textKey_escape (text : String) : Decoder.textKey (escape text.toList) = some text := by
  simp [Decoder.textKey, unescape?_escape]

/-! ## Scanning -/

/-- The scanner reads the characters as a part of a string. -/
def IsSpelled (written : List Char) : Prop :=
  ∀ read tokens, written.foldlM Scanner.step (.string read, tokens) =
    some (.string (written.reverse ++ read), tokens)

theorem IsSpelled.append {first second : List Char} (h : IsSpelled first) (h' : IsSpelled second) :
    IsSpelled (first ++ second) := by
  intro read tokens
  rw [List.foldlM_append, h read tokens]
  show second.foldlM Scanner.step _ = _
  rw [h', List.reverse_append, List.append_assoc]

theorem isSpelled_escapeChar (c : Char) : IsSpelled (escapeChar c) := by
  intro read tokens
  rw [escapeChar.eq_def]
  split
  case h_8 hquote hbackslash _ _ _ _ _ =>
    by_cases hcontrol : c < ' '
    · -- An escape of four digits, of which the first two are zeros.
      have hzero : Hex.digit? '0' = some 0 := by decide
      have hbyte : c.toUInt8.toNat < 256 := c.toUInt8.toNat_lt
      have hhigh : Hex.digit? (Nat.digitChar (c.toUInt8.toNat / 16)) = some _ :=
        Hex.digit?_digitChar (by omega)
      have hlow : Hex.digit? (Nat.digitChar (c.toUInt8.toNat % 16)) = some _ :=
        Hex.digit?_digitChar (by omega)
      rw [if_pos hcontrol]
      simp [Hex.ofByte, Scanner.step, hzero, hhigh, hlow]
    · have hquote : c ≠ '"' := hquote
      have hbackslash : c ≠ '\\' := hbackslash
      rw [if_neg hcontrol]
      simp [Scanner.step, hquote, hbackslash, hcontrol]
  all_goals rfl

/-- What is written for a text is part of one string. -/
theorem isSpelled_escape (text : List Char) : IsSpelled (escape text) := by
  induction text with
  | nil => exact fun read tokens => rfl
  | cons c text ih => exact (isSpelled_escapeChar c).append ih

end UefiTyping.Json
