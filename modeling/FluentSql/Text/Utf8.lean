/-! Octets to text. A text is sent as the UTF-8 form of its characters; octets that are no such form
are refused with the place of the first bad character and the number of octets that already
rule it out, or with the place alone when the octets only stop short. -/

namespace FluentSql.Text

/-- Why octets are no UTF-8: `start` octets are good, and the next `length` can begin no
character; without a length, the octets end inside a character. -/
structure Utf8Error where
  start : Nat
  length : Option Nat
  deriving DecidableEq, Repr

def Utf8Error.message (e : Utf8Error) : String :=
  match e.length with
  | some n => s!"invalid utf-8 sequence of {n} bytes from index {e.start}"
  | none => s!"incomplete utf-8 byte sequence from index {e.start}"

namespace Utf8

def encode (s : String) : List UInt8 :=
  s.toList.flatMap String.utf8EncodeChar

/-- How many octets a character beginning with this one has, and the range of its second. -/
def lead? (b : UInt8) : Option (Nat × UInt8 × UInt8) :=
  if 0xC2 ≤ b ∧ b ≤ 0xDF then some (2, 0x80, 0xBF)
  else if b = 0xE0 then some (3, 0xA0, 0xBF)
  else if b = 0xED then some (3, 0x80, 0x9F)
  else if 0xE1 ≤ b ∧ b ≤ 0xEF then some (3, 0x80, 0xBF)
  else if b = 0xF0 then some (4, 0x90, 0xBF)
  else if 0xF1 ≤ b ∧ b ≤ 0xF3 then some (4, 0x80, 0xBF)
  else if b = 0xF4 then some (4, 0x80, 0x8F)
  else none

/-- The character of a first octet of `width` and the tails behind it. -/
def assemble (width : Nat) (b : UInt8) (tails : List UInt8) : Char :=
  let top := b.toNat % Nat.pow 2 (7 - width)
  Char.ofNat (tails.foldl (fun n t => 64 * n + t.toNat % 64) top)

/-- The tails of a character of `width` octets, and the octets behind them; else how many octets of
the character are good, counted with its first, and whether the octets just end. -/
def tails (low high : UInt8) : (width : Nat) → (seen : Nat) → List UInt8 →
    Except (Option Nat) (List UInt8 × List UInt8)
  | 0, _, bs => .ok ([], bs)
  | _ + 1, _, [] => .error none
  | n + 1, seen, b :: bs =>
    if low ≤ b ∧ b ≤ high then do
      let (ts, rest) ← tails 0x80 0xBF n (seen + 1) bs
      return (b :: ts, rest)
    else .error (some seen)

theorem tails_length {low high : UInt8} {n seen : Nat} {bs ts rest : List UInt8}
    (h : tails low high n seen bs = .ok (ts, rest)) : rest.length ≤ bs.length := by
  induction n generalizing low high seen bs ts rest with
  | zero => simp only [tails, Except.ok.injEq, Prod.mk.injEq] at h; simp [h.2]
  | succ n ih =>
    cases bs with
    | nil => simp [tails] at h
    | cons b bs =>
      simp only [tails] at h
      split at h
      · cases hr : tails 0x80 0xBF n (seen + 1) bs with
        | error e => simp [hr, bind, Except.bind] at h
        | ok p =>
          simp only [hr, bind, Except.bind, pure, Except.pure, Except.ok.injEq,
            Prod.mk.injEq] at h
          have := ih hr
          simp only [List.length_cons, ← h.2]
          omega
      · simp at h

/-- Reads octets whose first stands at `start` of the whole. -/
def decodeFrom (start : Nat) (bs : List UInt8) : Except Utf8Error (List Char) :=
  match bs with
  | [] => .ok []
  | b :: bs =>
    if b < 0x80 then (Char.ofNat b.toNat :: ·) <$> decodeFrom (start + 1) bs
    else match lead? b with
      | none => .error ⟨start, some 1⟩
      | some (width, low, high) =>
        match _h : tails low high (width - 1) 1 bs with
        | .error length => .error ⟨start, length⟩
        | .ok (ts, rest) => (assemble width b ts :: ·) <$> decodeFrom (start + width) rest
termination_by bs.length
decreasing_by
  · simp
  · have := tails_length _h; simp; omega

/-- The text of which the octets are the UTF-8 form. -/
def decode (bs : List UInt8) : Except Utf8Error String :=
  String.ofList <$> decodeFrom 0 bs

def decode? (bs : List UInt8) : Option String :=
  (decode bs).toOption

end Utf8

end FluentSql.Text
