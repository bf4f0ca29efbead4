import Mathlib.Data.List.TakeWhile
import UefiTyping.Json.Decode

/-!
# Numerals read back

An integer is written as a numeral of the format and read back from it. A numeral of any kind
is one word: no character that can stand in one ends a word, and none is a literal name.
-/
namespace UefiTyping.Json

/-! ## Integers -/

theorem isDigit_of_mem_toDigits {n : Nat} {c : Char} (h : c ∈ Nat.toDigits 10 n) :
    c.isDigit = true :=
  Nat.isDigit_of_mem_toDigits (by decide) (by decide) h

theorem all_isDigit_toDigits (n : Nat) : (Nat.toDigits 10 n).all Char.isDigit = true :=
  List.all_eq_true.2 fun _ => isDigit_of_mem_toDigits

theorem toDigits_ne_minus_cons (n : Nat) (rest : List Char) : Nat.toDigits 10 n ≠ '-' :: rest := by
  intro h
  have hminus : '-' ∈ Nat.toDigits 10 n := by
    rw [h]
    exact List.mem_cons_self
  exact absurd (isDigit_of_mem_toDigits hminus) (by decide)

theorem escapeChar_of_isDigit {c : Char} (h : c.isDigit = true) : escapeChar c = [c] := by
  rw [escapeChar.eq_def]
  split
  case h_8 =>
    have hspace : ¬ c < ' ' := by
      rw [Char.isDigit, Bool.and_eq_true, decide_eq_true_eq] at h
      exact fun hspace => absurd (UInt32.lt_of_lt_of_le hspace (UInt32.le_trans (by decide) h.1))
        (UInt32.lt_irrefl _)
    rw [if_neg hspace]
  all_goals cases h

/-- A numeral in a string stands for itself. -/
theorem escape_toDigits (n : Nat) : escape (Nat.toDigits 10 n) = Nat.toDigits 10 n := by
  have hchars : (Nat.toDigits 10 n).map escapeChar = (Nat.toDigits 10 n).map fun c => [c] :=
    List.map_congr_left fun c hc => escapeChar_of_isDigit (isDigit_of_mem_toDigits hc)
  rw [escape, List.flatMap_def, hchars, ← List.flatMap_def, List.flatMap_singleton']

/-- Only zero is written with a zero in front. -/
theorem head?_toDigits_ne_zero {n : Nat} (h : 0 < n) : (Nat.toDigits 10 n).head? ≠ some '0' := by
  induction n using Nat.strongRecOn with
  | ind n ih =>
    by_cases hsmall : n < 10
    · have hdigit : ∀ d, d < 10 → 0 < d → [Nat.digitChar d].head? ≠ some '0' := by decide
      rw [Nat.toDigits_of_lt_base hsmall]
      exact hdigit n hsmall h
    · have hfront := ih (n / 10) (by omega) (by omega)
      rw [Nat.toDigits_of_base_le (by decide) (by omega)]
      cases hdigits : Nat.toDigits 10 (n / 10) with
      | nil => exact absurd hdigits Nat.toDigits_ne_nil
      | cons digit digits =>
        rw [hdigits] at hfront
        exact hfront

theorem afterDigits?_toDigits (n : Nat) : afterDigits? (Nat.toDigits 10 n) = some [] := by
  have hall : ∀ c ∈ Nat.toDigits 10 n, c.isDigit = true := fun _ => isDigit_of_mem_toDigits
  rw [afterDigits?, List.takeWhile_eq_self_iff.2 hall, List.dropWhile_eq_nil_iff.2 hall]
  simp [Nat.toDigits_ne_nil]

theorem afterWhole?_toDigits (n : Nat) : afterWhole? (Nat.toDigits 10 n) = some [] := by
  rcases Nat.eq_zero_or_pos n with rfl | hpos
  · rfl
  · rw [afterWhole?.eq_def]
    split
    · rename_i rest hzero
      exact absurd (congrArg List.head? hzero) (head?_toDigits_ne_zero hpos)
    · exact afterDigits?_toDigits n

theorem isNumeral_toDigits (n : Nat) : isNumeral (Nat.toDigits 10 n) = true := by
  rw [isNumeral.eq_def]
  split
  · rename_i rest hminus
    exact absurd hminus (toDigits_ne_minus_cons n rest)
  · simp only [afterWhole?_toDigits]
    rfl

/-- An integer is written as a numeral. -/
theorem isNumeral_integerNumeral (i : Int) : isNumeral (integerNumeral i) = true := by
  cases i with
  | ofNat n => exact isNumeral_toDigits n
  | negSucc n =>
    show ((afterWhole? (Nat.toDigits 10 (n + 1)) >>= afterFraction? >>= afterExponent?) ==
      some []) = true
    rw [afterWhole?_toDigits]
    rfl

theorem integerOf?_toDigits (n : Nat) : integerOf? (Nat.toDigits 10 n) = some (n : Int) := by
  rw [integerOf?.eq_def]
  split
  · rename_i rest hminus
    exact absurd hminus (toDigits_ne_minus_cons n rest)
  · rw [if_pos (all_isDigit_toDigits n), Nat.ofDigitChars_toDigits (by decide) (by decide)]

/-- An integer is read back from its numeral. -/
theorem integerOf?_integerNumeral (i : Int) : integerOf? (integerNumeral i) = some i := by
  cases i with
  | ofNat n => exact integerOf?_toDigits n
  | negSucc n =>
    have hne : Nat.toDigits 10 (n + 1) ≠ ['0'] := fun h =>
      head?_toDigits_ne_zero (Nat.succ_pos n) (by rw [h]; rfl)
    show (if _ then _ else none) = _
    rw [if_pos ⟨all_isDigit_toDigits (n + 1), hne⟩,
      Nat.ofDigitChars_toDigits (by decide) (by decide)]
    rfl

/-! ## Numerals as words -/

theorem mem_of_afterDigits? {text rest : List Char} (h : afterDigits? text = some rest) {c : Char}
    (hc : c ∈ text) : c.isDigit = true ∨ c ∈ rest := by
  rw [afterDigits?, Option.ite_none_left_eq_some] at h
  obtain ⟨-, h⟩ := h
  obtain rfl := Option.some.inj h
  rw [← List.takeWhile_append_dropWhile (p := Char.isDigit) (l := text), List.mem_append] at hc
  exact hc.imp_left List.mem_takeWhile_imp

/-- A character that can stand in a numeral. -/
def isNumeralChar (c : Char) : Bool := c.isDigit || ['-', '+', '.', 'e', 'E'].contains c

theorem isNumeralChar_of_isDigit {c : Char} (h : c.isDigit = true) : isNumeralChar c = true := by
  rw [isNumeralChar, h, Bool.true_or]

theorem mem_of_afterWhole? {text rest : List Char} (h : afterWhole? text = some rest) {c : Char}
    (hc : c ∈ text) : isNumeralChar c = true ∨ c ∈ rest := by
  rw [afterWhole?.eq_def] at h
  split at h
  · obtain rfl := Option.some.inj h
    rcases List.mem_cons.1 hc with rfl | hc
    · exact .inl (by decide)
    · exact .inr hc
  · exact (mem_of_afterDigits? h hc).imp_left isNumeralChar_of_isDigit

theorem mem_of_afterFraction? {text rest : List Char} (h : afterFraction? text = some rest)
    {c : Char} (hc : c ∈ text) : isNumeralChar c = true ∨ c ∈ rest := by
  rw [afterFraction?.eq_def] at h
  split at h
  · rcases List.mem_cons.1 hc with rfl | hc
    · exact .inl (by decide)
    · exact (mem_of_afterDigits? h hc).imp_left isNumeralChar_of_isDigit
  · obtain rfl := Option.some.inj h
    exact .inr hc

theorem mem_of_afterExponent? {text rest : List Char} (h : afterExponent? text = some rest)
    {c : Char} (hc : c ∈ text) : isNumeralChar c = true ∨ c ∈ rest := by
  cases text with
  | nil => cases hc
  | cons mark text =>
    rw [afterExponent?.eq_def] at h
    dsimp only at h
    by_cases hmark : mark = 'e' ∨ mark = 'E'
    · have hmarkChar : isNumeralChar mark = true := by
        rcases hmark with rfl | rfl <;> decide
      rw [if_pos hmark] at h
      rcases List.mem_cons.1 hc with rfl | hc
      · exact .inl hmarkChar
      · split at h
        case h_1 | h_2 =>
          rcases List.mem_cons.1 hc with rfl | hc
          · exact .inl (by decide)
          · exact (mem_of_afterDigits? h hc).imp_left isNumeralChar_of_isDigit
        case h_3 => exact (mem_of_afterDigits? h hc).imp_left isNumeralChar_of_isDigit
    · rw [if_neg hmark] at h
      obtain rfl := Option.some.inj h
      exact .inr hc

/-- A numeral is made of digits, signs, points and exponent marks. -/
theorem isNumeralChar_of_mem {word : List Char} (h : isNumeral word = true) {c : Char}
    (hc : c ∈ word) : isNumeralChar c = true := by
  have hunsigned : ∀ {text : List Char}, c ∈ text →
      ((afterWhole? text >>= afterFraction? >>= afterExponent?) == some []) = true →
        isNumeralChar c = true := by
    intro text hc h
    rw [beq_iff_eq, Option.bind_eq_bind, Option.bind_eq_some_iff] at h
    obtain ⟨exponent, h, hexponent⟩ := h
    obtain ⟨fraction, hwhole, hfraction⟩ := Option.bind_eq_some_iff.1 h
    rcases mem_of_afterWhole? hwhole hc with hchar | hc
    · exact hchar
    · rcases mem_of_afterFraction? hfraction hc with hchar | hc
      · exact hchar
      · exact (mem_of_afterExponent? hexponent hc).resolve_right List.not_mem_nil
  rw [isNumeral.eq_def] at h
  split at h
  · rcases List.mem_cons.1 hc with rfl | hc
    · decide
    · exact hunsigned hc h
  · exact hunsigned hc h

theorem endsWord_of_isNumeralChar {c : Char} (h : isNumeralChar c = true) :
    Scanner.endsWord c = false := by
  rw [← Bool.not_eq_true]
  intro hends
  simp only [Scanner.endsWord, isSpace, Bool.or_eq_true, beq_iff_eq] at hends
  rcases hends with ((((rfl | rfl) | rfl) | rfl) | rfl) | hmark
  case inr =>
    rw [Token.ofMark?.eq_def] at hmark
    split at hmark
    case h_7 => cases hmark
    all_goals exact absurd h (by decide)
  all_goals exact absurd h (by decide)

/-- A numeral is one word. -/
theorem endsWord_of_mem_numeral {word : List Char} (h : isNumeral word = true) {c : Char}
    (hc : c ∈ word) : Scanner.endsWord c = false :=
  endsWord_of_isNumeralChar (isNumeralChar_of_mem h hc)

theorem ofWord?_of_isNumeral {word : List Char} (h : isNumeral word = true) :
    ofWord? word = some (.number word) := by
  have hname : ∀ name ∈ [['n', 'u', 'l', 'l'], ['t', 'r', 'u', 'e'], ['f', 'a', 'l', 's', 'e']],
      word ≠ name := by
    rintro name hname rfl
    revert h
    revert word
    decide
  rw [ofWord?, if_neg (hname _ (by simp)), if_neg (hname _ (by simp)), if_neg (hname _ (by simp)),
    if_pos h]

end UefiTyping.Json
