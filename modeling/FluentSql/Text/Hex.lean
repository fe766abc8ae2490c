/-! Octets as text: two lower-case hexadecimal digits each. Reading takes digits of either case. -/

namespace FluentSql.Text

/-- The value of a hexadecimal digit. -/
def hexValue? (c : Char) : Option Nat :=
  if '0' ≤ c ∧ c ≤ '9' then some (c.toNat - 48)
  else if 'a' ≤ c ∧ c ≤ 'f' then some (c.toNat - 87)
  else if 'A' ≤ c ∧ c ≤ 'F' then some (c.toNat - 55)
  else none

/-- The lower-case digit of a value below sixteen. -/
def hexDigit (n : Nat) : Char :=
  Char.ofNat (if n < 10 then 48 + n else 87 + n)

theorem hexValue?_hexDigit : ∀ n < 16, hexValue? (hexDigit n) = some n := by decide

namespace Hex

def encode : List UInt8 → List Char
  | [] => []
  | b :: bs => hexDigit (b.toNat / 16) :: hexDigit (b.toNat % 16) :: encode bs

def decode? : List Char → Option (List UInt8)
  | [] => some []
  | [_] => none
  | h :: l :: cs => do
    let h ← hexValue? h
    let l ← hexValue? l
    return UInt8.ofNat (16 * h + l) :: (← decode? cs)

def toText (bs : List UInt8) : String :=
  String.ofList (encode bs)

/-- A number in lower-case hexadecimal, at least `width` digits. -/
def ofNat (width n : Nat) : String :=
  let ds := Nat.toDigits 16 n
  String.ofList (List.replicate (width - ds.length) '0' ++ ds)

theorem decode?_encode (bs : List UInt8) : decode? (encode bs) = some bs := by
  induction bs with
  | nil => rfl
  | cons b bs ih =>
    have hb : b.toNat < 256 := b.toNat_lt
    have h : UInt8.ofNat (16 * (b.toNat / 16) + b.toNat % 16) = b := by
      rw [Nat.div_add_mod]; simp
    simpa [encode, decode?, hexValue?_hexDigit _ (show b.toNat / 16 < 16 by omega),
      hexValue?_hexDigit _ (show b.toNat % 16 < 16 by omega), ih] using h

end Hex

end FluentSql.Text
