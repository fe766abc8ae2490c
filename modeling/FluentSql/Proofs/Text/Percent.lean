import FluentSql.Proofs.Text.Utf8
import FluentSql.Text.Percent

/-! Percent-encoding and back. Of an encoded text every character is one that was kept, a `%` or a
hexadecimal digit; every group is read as its octet, and so the text is read back whatever is kept
of ASCII but the `%` itself, `decode_encode`. -/

namespace FluentSql.Text.Percent

/-! ### Octets -/

theorem utf8EncodeChar_of_lt {c : Char} (h : c.toNat < 0x80) :
    String.utf8EncodeChar c = [UInt8.ofNat c.toNat] :=
  if_pos (Nat.le_of_lt_succ h)

/-- The digit of a group, and the octet that it is written as. -/
def digit (n : Nat) : Char :=
  (hexDigit n).toUpper

theorem utf8EncodeChar_digit : ∀ n < 16,
    String.utf8EncodeChar (digit n) = [UInt8.ofNat (digit n).toNat] := by decide

theorem hexValue?_digit : ∀ n < 16,
    hexValue? (Char.ofNat (UInt8.ofNat (digit n).toNat).toNat) = some n := by decide

theorem isAlphanum_digit : ∀ n < 16, (digit n).isAlphanum = true := by decide

theorem decodeOctets_cons_of_ne {b : UInt8} (h : b ≠ 0x25) (bs : List UInt8) :
    decodeOctets (b :: bs) = b :: decodeOctets bs := by
  rw [decodeOctets]
  rintro h l rest rfl -
  exact h rfl

theorem decodeOctets_group (b : UInt8) (bs : List UInt8) :
    decodeOctets ((group b).flatMap String.utf8EncodeChar ++ bs) = b :: decodeOctets bs := by
  have hb : b.toNat < 256 := b.toNat_lt
  have hhigh : b.toNat / 16 < 16 := by omega
  have hlow : b.toNat % 16 < 16 := by omega
  have hoctets : (group b).flatMap String.utf8EncodeChar =
      [0x25, UInt8.ofNat (digit (b.toNat / 16)).toNat, UInt8.ofNat (digit (b.toNat % 16)).toNat] := by
    show String.utf8EncodeChar '%' ++ (String.utf8EncodeChar (digit _) ++
      (String.utf8EncodeChar (digit _) ++ [])) = _
    rw [utf8EncodeChar_digit _ hhigh, utf8EncodeChar_digit _ hlow]
    rfl
  have hwhole : UInt8.ofNat (16 * (b.toNat / 16) + b.toNat % 16) = b := by
    rw [Nat.div_add_mod, UInt8.ofNat_toNat]
  rw [hoctets]
  simp only [List.cons_append, List.nil_append, decodeOctets, hexValue?_digit _ hhigh,
    hexValue?_digit _ hlow, hwhole]

theorem decodeOctets_groups (bs rest : List UInt8) :
    decodeOctets ((bs.flatMap group).flatMap String.utf8EncodeChar ++ rest) =
      bs ++ decodeOctets rest := by
  induction bs with
  | nil => rfl
  | cons b bs ih =>
    rw [List.flatMap_cons, List.flatMap_append, List.append_assoc, decodeOctets_group, ih,
      List.cons_append]

/-! ### Texts -/

section Texts

variable {keep : Char → Bool}

/-- What a character is written as. -/
def written (keep : Char → Bool) (c : Char) : List Char :=
  if keep c then [c] else (String.utf8EncodeChar c).flatMap group

theorem toList_encode (s : String) : (encode keep s).toList = s.toList.flatMap (written keep) :=
  String.toList_ofList

theorem decodeOctets_written (hkeep : ∀ c, keep c = true → c.toNat < 0x80 ∧ c ≠ '%') (c : Char)
    (rest : List UInt8) :
    decodeOctets ((written keep c).flatMap String.utf8EncodeChar ++ rest) =
      String.utf8EncodeChar c ++ decodeOctets rest := by
  rw [written]
  cases hc : keep c with
  | false => exact decodeOctets_groups _ rest
  | true =>
    obtain ⟨hascii, hsign⟩ := hkeep c hc
    have hoctet : UInt8.ofNat c.toNat ≠ 0x25 := by
      intro h
      have hn : c.toNat = 0x25 := by
        rw [← Utf8.toNat_ofNat (n := c.toNat) (by omega), h]
        rfl
      exact hsign (Char.toNat_inj.1 hn)
    rw [if_pos rfl, List.flatMap_singleton, utf8EncodeChar_of_lt hascii, List.singleton_append,
      decodeOctets_cons_of_ne hoctet]
    rfl

theorem decodeOctets_encode (hkeep : ∀ c, keep c = true → c.toNat < 0x80 ∧ c ≠ '%')
    (cs : List Char) :
    decodeOctets ((cs.flatMap (written keep)).flatMap String.utf8EncodeChar) =
      cs.flatMap String.utf8EncodeChar := by
  induction cs with
  | nil => rfl
  | cons c cs ih =>
    rw [List.flatMap_cons, List.flatMap_append, decodeOctets_written hkeep, ih, List.flatMap_cons]

theorem decodeOctets_text (hkeep : ∀ c, keep c = true → c.toNat < 0x80 ∧ c ≠ '%') (s : String) :
    decodeOctets (Utf8.encode (encode keep s)) = Utf8.encode s := by
  rw [Utf8.encode, toList_encode, decodeOctets_encode hkeep]
  rfl

theorem decode_encode (hkeep : ∀ c, keep c = true → c.toNat < 0x80 ∧ c ≠ '%') (s : String) :
    decode (encode keep s) = .ok s := by
  rw [decode, decodeOctets_text hkeep, Utf8.decode, Utf8.encode, Utf8.decodeFrom_flatMap]
  exact congrArg Except.ok String.ofList_toList

/-- The characters of an encoded text. -/
theorem mem_encode {s : String} {c : Char} (h : c ∈ (encode keep s).toList) :
    keep c = true ∨ c = '%' ∨ c.isAlphanum = true := by
  rw [toList_encode] at h
  obtain ⟨d, -, hc⟩ := List.mem_flatMap.1 h
  rw [written] at hc
  split at hc
  next hd =>
    rw [List.mem_singleton.1 hc]
    exact .inl hd
  next =>
    obtain ⟨b, -, hb⟩ := List.mem_flatMap.1 hc
    have hlt : b.toNat < 256 := b.toNat_lt
    have hgroup : group b = ['%', digit (b.toNat / 16), digit (b.toNat % 16)] := rfl
    rw [hgroup] at hb
    simp only [List.mem_cons, List.not_mem_nil, or_false] at hb
    rcases hb with rfl | rfl | rfl
    · exact .inr (.inl rfl)
    · exact .inr (.inr (isAlphanum_digit _ (by omega)))
    · exact .inr (.inr (isAlphanum_digit _ (by omega)))

end Texts

end FluentSql.Text.Percent
