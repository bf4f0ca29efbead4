/-!
# Hexadecimal text

Lower-case hexadecimal numerals, as generated variable names and messages write
addresses, and the two-digit form of a byte. Reading takes digits of either case.
-/
namespace UefiTyping.Hex

/-! ## Numerals -/

/-- The lower-case numeral of `n`, without leading zeros. -/
def numeral (n : Nat) : String := String.ofList (Nat.toDigits 16 n)

/-- The numeral of `n` marked by `0x`, the way messages write an address. -/
def marked (n : Nat) : String := "0x" ++ numeral n

/-! ## Bytes -/

/-- The two digits of a byte, high half first. -/
def ofByte (b : UInt8) : List Char :=
  [Nat.digitChar (b.toNat / 16), Nat.digitChar (b.toNat % 16)]

/-- The digits of a byte sequence, two to a byte. -/
def ofBytes (bytes : List UInt8) : List Char := bytes.flatMap ofByte

/-- The value of one digit of either case. -/
def digit? (c : Char) : Option Nat :=
  if '0' ≤ c ∧ c ≤ '9' then some (c.toNat - '0'.toNat)
  else if 'a' ≤ c ∧ c ≤ 'f' then some (c.toNat - 'a'.toNat + 10)
  else if 'A' ≤ c ∧ c ≤ 'F' then some (c.toNat - 'A'.toNat + 10)
  else none

/-- The byte that two digits write. -/
def byte? (high low : Char) : Option UInt8 := do
  return UInt8.ofNat (16 * (← digit? high) + (← digit? low))

/-- The bytes that a text of digit pairs writes; an odd count is refused. -/
def bytes? : List Char → Option (List UInt8)
  | [] => some []
  | high :: low :: rest => do return (← byte? high low) :: (← bytes? rest)
  | [_] => none

/-! ## Reading back what was written -/

theorem digit?_digitChar {n : Nat} (h : n < 16) : digit? (Nat.digitChar n) = some n := by
  revert n; decide

/-- The number that digits write. -/
def valueOf (digits : List Char) : Nat :=
  digits.foldl (fun value c => 16 * value + (digit? c).getD 0) 0

theorem valueOf_toDigits (n : Nat) : valueOf (Nat.toDigits 16 n) = n := by
  induction n using Nat.strongRecOn with
  | ind n ih =>
    rw [Nat.toDigits_eq_if (by decide)]
    split
    case isTrue hsmall => simp [valueOf, digit?_digitChar hsmall]
    case isFalse hlarge =>
      have hfront := ih (n / 16) (by omega)
      rw [valueOf] at hfront
      rw [valueOf, List.foldl_append, hfront, List.foldl_cons, List.foldl_nil,
        digit?_digitChar (Nat.mod_lt n (by decide)), Option.getD_some, Nat.div_add_mod]

/-- Different numbers have different numerals. -/
theorem numeral_inj {m n : Nat} : numeral m = numeral n ↔ m = n := by
  constructor
  · intro h
    have hdigits : Nat.toDigits 16 m = Nat.toDigits 16 n := String.ofList_injective h
    rw [← valueOf_toDigits m, hdigits, valueOf_toDigits]
  · rintro rfl
    rfl

theorem byte?_ofByte (b : UInt8) :
    byte? (Nat.digitChar (b.toNat / 16)) (Nat.digitChar (b.toNat % 16)) = some b := by
  have hb : b.toNat < 256 := b.toNat_lt
  have hd : 16 * (b.toNat / 16) + b.toNat % 16 = b.toNat := by omega
  rw [byte?, digit?_digitChar (by omega), digit?_digitChar (by omega)]
  show some (UInt8.ofNat (16 * (b.toNat / 16) + b.toNat % 16)) = some b
  rw [hd, UInt8.ofNat_toNat]

@[simp] theorem bytes?_ofBytes (bytes : List UInt8) : bytes? (ofBytes bytes) = some bytes := by
  induction bytes with
  | nil => rfl
  | cons b bs ih => simp_all [ofBytes, ofByte, bytes?, byte?_ofByte]

@[simp] theorem length_ofBytes (bytes : List UInt8) :
    (ofBytes bytes).length = 2 * bytes.length := by
  induction bytes with
  | nil => rfl
  | cons b bs ih => simp [ofBytes, ofByte] at ih ⊢; omega

end UefiTyping.Hex
