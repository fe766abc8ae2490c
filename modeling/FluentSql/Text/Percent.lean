import FluentSql.Text.Hex
import FluentSql.Text.Utf8

/-! Percent-encoding. Encoding writes the UTF-8 octets outside a chosen set of characters as `%`
and two upper-case digits; decoding reads every such group back and leaves a `%` that begins none
as it is. -/

namespace FluentSql.Text.Percent

/-- The octets of a text with every `%` group read. -/
def decodeOctets : List UInt8 → List UInt8
  | 0x25 :: h :: l :: bs =>
    match hexValue? (Char.ofNat h.toNat), hexValue? (Char.ofNat l.toNat) with
    | some h, some l => UInt8.ofNat (16 * h + l) :: decodeOctets bs
    | _, _ => 0x25 :: decodeOctets (h :: l :: bs)
  | b :: bs => b :: decodeOctets bs
  | [] => []

/-- The text behind a percent-encoded one. -/
def decode (s : String) : Except Utf8Error String :=
  Utf8.decode (decodeOctets (Utf8.encode s))

/-- One octet as a group. -/
def group (b : UInt8) : List Char :=
  ['%', (hexDigit (b.toNat / 16)).toUpper, (hexDigit (b.toNat % 16)).toUpper]

/-- A text with the characters outside `keep` written as groups. -/
def encode (keep : Char → Bool) (s : String) : String :=
  String.ofList (s.toList.flatMap fun c =>
    if keep c then [c] else (String.utf8EncodeChar c).flatMap group)

end FluentSql.Text.Percent
