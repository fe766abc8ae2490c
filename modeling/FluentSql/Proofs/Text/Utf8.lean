import FluentSql.Text.Utf8

/-! Text to octets and back. The octets of a character are of one of four shapes by its size; the
first tells how many there are, and the bounds on the second rule out just those that no character
has. So every text is read back from its octets, `decode?_encode`. -/

namespace FluentSql.Text.Utf8

/-! ### The octets of a character -/

theorem toNat_ofNat {n : Nat} (h : n < 256) : (UInt8.ofNat n).toNat = n := by
  rw [UInt8.toNat_ofNat', Nat.mod_eq_of_lt h]

/-- The numbers of characters leave a gap for halves of pairs. -/
theorem toNat_valid (c : Char) : c.toNat < 0xD800 ∨ 0xDFFF < c.toNat ∧ c.toNat < 0x110000 :=
  c.valid

/-- What a first octet says, by its number. -/
theorem lead?_ofNat {n : Nat} (h : n < 256) :
    lead? (UInt8.ofNat n) =
      if 0xC2 ≤ n ∧ n ≤ 0xDF then some (2, 0x80, 0xBF)
      else if n = 0xE0 then some (3, 0xA0, 0xBF)
      else if n = 0xED then some (3, 0x80, 0x9F)
      else if 0xE1 ≤ n ∧ n ≤ 0xEF then some (3, 0x80, 0xBF)
      else if n = 0xF0 then some (4, 0x90, 0xBF)
      else if 0xF1 ≤ n ∧ n ≤ 0xF3 then some (4, 0x80, 0xBF)
      else if n = 0xF4 then some (4, 0x80, 0x8F)
      else none := by
  have hn := toNat_ofNat h
  simp [lead?, UInt8.le_iff_toNat_le, ← UInt8.toNat_inj, hn]

variable {low high : UInt8} {n seen start width : Nat} {b : UInt8} {bs ts rest : List UInt8}

theorem tails_cons (hlow : low ≤ b) (hhigh : b ≤ high)
    (h : tails 0x80 0xBF n (seen + 1) bs = .ok (ts, rest)) :
    tails low high (n + 1) seen (b :: bs) = .ok (b :: ts, rest) := by
  rw [tails, if_pos ⟨hlow, hhigh⟩, h]
  rfl

theorem decodeFrom_of_lead (hb : ¬ b < 0x80) (hl : lead? b = some (width, low, high))
    (ht : tails low high (width - 1) 1 bs = .ok (ts, rest)) :
    decodeFrom start (b :: bs) =
      (assemble width b ts :: ·) <$> decodeFrom (start + width) rest := by
  rw [decodeFrom, if_neg hb, hl]
  simp only
  split
  next he =>
    rw [ht] at he
    cases he
  next he =>
    rw [ht] at he
    cases he
    rfl

/-- An octet behind the first, which holds six bits. -/
def tailOf (m : Nat) : UInt8 :=
  UInt8.ofNat (m + 128)

theorem toNat_tailOf {m : Nat} (h : m < 64) : (tailOf m).toNat = m + 128 :=
  toNat_ofNat (by omega)

theorem tailOf_bounds {m l u : Nat} (hm : m < 64) (hl : l ≤ m + 128) (hu : m + 128 ≤ u)
    (hu' : u < 256) : UInt8.ofNat l ≤ tailOf m ∧ tailOf m ≤ UInt8.ofNat u := by
  rw [UInt8.le_iff_toNat_le, UInt8.le_iff_toNat_le, toNat_tailOf hm, toNat_ofNat (by omega),
    toNat_ofNat hu']
  exact ⟨hl, hu⟩

theorem tails_map {ms : List Nat} (h : ∀ m ∈ ms, m < 64) :
    tails 0x80 0xBF ms.length seen (ms.map tailOf ++ bs) = .ok (ms.map tailOf, bs) := by
  induction ms generalizing seen with
  | nil => rfl
  | cons m ms ih =>
    obtain ⟨hm, hms⟩ := List.forall_mem_cons.1 h
    obtain ⟨hlow, hhigh⟩ := tailOf_bounds (l := 0x80) (u := 0xBF) hm (by omega) (by omega) (by omega)
    exact tails_cons hlow hhigh (ih hms)

theorem assemble_map {ms : List Nat} (hn : n < 256) (h : ∀ m ∈ ms, m < 64) :
    assemble width (UInt8.ofNat n) (ms.map tailOf) =
      Char.ofNat (ms.foldl (fun a m => 64 * a + m) (n % Nat.pow 2 (7 - width))) := by
  rw [assemble, toNat_ofNat hn, List.foldl_map]
  refine congrArg Char.ofNat ?_
  generalize n % Nat.pow 2 (7 - width) = top
  induction ms generalizing top with
  | nil => rfl
  | cons m ms ih =>
    obtain ⟨hm, hms⟩ := List.forall_mem_cons.1 h
    have hbits : (tailOf m).toNat % 64 = m := by
      rw [toNat_tailOf hm]
      omega
    rw [List.foldl_cons, List.foldl_cons, hbits]
    exact ih hms (64 * top + m)

/-- The first octet of several starts no character of one. -/
theorem not_lt_of_lead (h : 0xC0 ≤ n) (h' : n < 256) : ¬ UInt8.ofNat n < 0x80 := by
  rw [UInt8.lt_iff_toNat_lt, toNat_ofNat h']
  show ¬ n < 128
  omega

/-! ### Characters, by their size -/

section Characters

variable {c : Char}

theorem decodeFrom_one (h : c.toNat ≤ 0x7F) :
    decodeFrom start (String.utf8EncodeChar c ++ bs) = (c :: ·) <$> decodeFrom (start + 1) bs := by
  have henc : String.utf8EncodeChar c = [UInt8.ofNat c.toNat] := if_pos h
  have hn := toNat_ofNat (n := c.toNat) (by omega)
  have hb : UInt8.ofNat c.toNat < 0x80 := by
    rw [UInt8.lt_iff_toNat_lt, hn]
    exact Nat.lt_succ_of_le h
  rw [henc, List.singleton_append, decodeFrom, if_pos hb, hn, Char.ofNat_toNat]

/-- The octets of several are read as the character whose number they hold, if the second lies
between the bounds that the first one sets. -/
theorem decodeFrom_several {m l u : Nat} {ms : List Nat} (hn : 0xC0 ≤ n) (hn' : n < 256)
    (hm : m < 64) (hms : ∀ x ∈ ms, x < 64)
    (hlead : lead? (UInt8.ofNat n) = some (ms.length + 2, UInt8.ofNat l, UInt8.ofNat u))
    (hl : l ≤ m + 128) (hu : m + 128 ≤ u) (hu' : u < 256)
    (hc : ms.foldl (fun a m => 64 * a + m) (64 * (n % Nat.pow 2 (5 - ms.length)) + m) = c.toNat) :
    decodeFrom start (UInt8.ofNat n :: ((m :: ms).map tailOf ++ bs)) =
      (c :: ·) <$> decodeFrom (start + (ms.length + 2)) bs := by
  obtain ⟨hlow, hhigh⟩ := tailOf_bounds hm hl hu hu'
  have hsub : 7 - (ms.length + 2) = 5 - ms.length := by omega
  have hchar : assemble (ms.length + 2) (UInt8.ofNat n) ((m :: ms).map tailOf) = c := by
    rw [assemble_map hn' (List.forall_mem_cons.2 ⟨hm, hms⟩), List.foldl_cons, hsub, hc,
      Char.ofNat_toNat]
  have htails : tails (UInt8.ofNat l) (UInt8.ofNat u) (ms.length + 1) 1
      ((m :: ms).map tailOf ++ bs) = .ok ((m :: ms).map tailOf, bs) :=
    tails_cons hlow hhigh (tails_map hms)
  rw [decodeFrom_of_lead (not_lt_of_lead hn hn') hlead htails, hchar]

theorem decodeFrom_two (h : 0x7F < c.toNat) (h' : c.toNat ≤ 0x7FF) :
    decodeFrom start (String.utf8EncodeChar c ++ bs) = (c :: ·) <$> decodeFrom (start + 2) bs := by
  have henc : String.utf8EncodeChar c =
      UInt8.ofNat (c.toNat / 64 % 32 + 192) :: [c.toNat % 64].map tailOf :=
    (if_neg (Nat.not_le.2 h)).trans (if_pos h')
  have hlead : lead? (UInt8.ofNat (c.toNat / 64 % 32 + 192)) = some (2, 0x80, 0xBF) := by
    rw [lead?_ofNat (by omega), if_pos (by omega)]
  rw [henc]
  refine decodeFrom_several (l := 0x80) (u := 0xBF) (by omega) (by omega) (by omega)
    (List.forall_mem_nil _) hlead (by omega) (by omega) (by omega) ?_
  show 64 * ((c.toNat / 64 % 32 + 192) % 32) + c.toNat % 64 = c.toNat
  omega

/-- What the first of three octets demands of the second is what all characters of that size have:
they are too large for two octets, and none is half of a pair. -/
theorem lead?_three (h : 0x7FF < c.toNat) (h' : c.toNat ≤ 0xFFFF) :
    ∃ l u, lead? (UInt8.ofNat (c.toNat / 4096 % 16 + 224)) =
        some (3, UInt8.ofNat l, UInt8.ofNat u) ∧
      l ≤ c.toNat / 64 % 64 + 128 ∧ c.toNat / 64 % 64 + 128 ≤ u ∧ u < 256 := by
  have hv := toNat_valid c
  rw [lead?_ofNat (by omega), if_neg (by omega)]
  by_cases h0 : c.toNat / 4096 % 16 + 224 = 0xE0
  · rw [if_pos h0]
    exact ⟨0xA0, 0xBF, rfl, by omega, by omega, by omega⟩
  by_cases hd : c.toNat / 4096 % 16 + 224 = 0xED
  · rw [if_neg h0, if_pos hd]
    exact ⟨0x80, 0x9F, rfl, by omega, by omega, by omega⟩
  · rw [if_neg h0, if_neg hd, if_pos (by omega)]
    exact ⟨0x80, 0xBF, rfl, by omega, by omega, by omega⟩

theorem decodeFrom_three (h : 0x7FF < c.toNat) (h' : c.toNat ≤ 0xFFFF) :
    decodeFrom start (String.utf8EncodeChar c ++ bs) = (c :: ·) <$> decodeFrom (start + 3) bs := by
  have henc : String.utf8EncodeChar c =
      UInt8.ofNat (c.toNat / 4096 % 16 + 224) :: [c.toNat / 64 % 64, c.toNat % 64].map tailOf := by
    have h7 : ¬ c.toNat ≤ 0x7F := by omega
    exact (if_neg h7).trans ((if_neg (Nat.not_le.2 h)).trans (if_pos h'))
  obtain ⟨l, u, hlead, hl, hu, hu'⟩ := lead?_three h h'
  rw [henc]
  refine decodeFrom_several (by omega) (by omega) (by omega)
    (List.forall_mem_singleton.2 (by omega)) hlead hl hu hu' ?_
  show 64 * (64 * ((c.toNat / 4096 % 16 + 224) % 16) + c.toNat / 64 % 64) + c.toNat % 64 = c.toNat
  omega

/-- The same for four octets: three are too few, and no character is larger than the largest. -/
theorem lead?_four (h : 0xFFFF < c.toNat) :
    ∃ l u, lead? (UInt8.ofNat (c.toNat / 262144 % 8 + 240)) =
        some (4, UInt8.ofNat l, UInt8.ofNat u) ∧
      l ≤ c.toNat / 4096 % 64 + 128 ∧ c.toNat / 4096 % 64 + 128 ≤ u ∧ u < 256 := by
  have hv := toNat_valid c
  rw [lead?_ofNat (by omega), if_neg (by omega), if_neg (by omega), if_neg (by omega),
    if_neg (by omega)]
  by_cases h0 : c.toNat / 262144 % 8 + 240 = 0xF0
  · rw [if_pos h0]
    exact ⟨0x90, 0xBF, rfl, by omega, by omega, by omega⟩
  by_cases h4 : c.toNat / 262144 % 8 + 240 = 0xF4
  · rw [if_neg h0, if_neg (by omega), if_pos h4]
    exact ⟨0x80, 0x8F, rfl, by omega, by omega, by omega⟩
  · rw [if_neg h0, if_pos (by omega)]
    exact ⟨0x80, 0xBF, rfl, by omega, by omega, by omega⟩

theorem decodeFrom_four (h : 0xFFFF < c.toNat) :
    decodeFrom start (String.utf8EncodeChar c ++ bs) = (c :: ·) <$> decodeFrom (start + 4) bs := by
  have hv := toNat_valid c
  have henc : String.utf8EncodeChar c =
      UInt8.ofNat (c.toNat / 262144 % 8 + 240) ::
        [c.toNat / 4096 % 64, c.toNat / 64 % 64, c.toNat % 64].map tailOf := by
    have h7 : ¬ c.toNat ≤ 0x7F := by omega
    have h11 : ¬ c.toNat ≤ 0x7FF := by omega
    exact (if_neg h7).trans ((if_neg h11).trans (if_neg (Nat.not_le.2 h)))
  obtain ⟨l, u, hlead, hl, hu, hu'⟩ := lead?_four h
  rw [henc]
  refine decodeFrom_several (by omega) (by omega) (by omega)
    (List.forall_mem_cons.2 ⟨by omega, List.forall_mem_singleton.2 (by omega)⟩) hlead hl hu hu' ?_
  show 64 * (64 * (64 * ((c.toNat / 262144 % 8 + 240) % 8) + c.toNat / 4096 % 64) +
    c.toNat / 64 % 64) + c.toNat % 64 = c.toNat
  omega

/-- A character is read back from its octets, whatever stands behind them. -/
theorem decodeFrom_char (c : Char) (start : Nat) (bs : List UInt8) :
    ∃ next, decodeFrom start (String.utf8EncodeChar c ++ bs) =
      (c :: ·) <$> decodeFrom next bs := by
  by_cases h1 : c.toNat ≤ 0x7F
  · exact ⟨_, decodeFrom_one h1⟩
  by_cases h2 : c.toNat ≤ 0x7FF
  · exact ⟨_, decodeFrom_two (by omega) h2⟩
  by_cases h3 : c.toNat ≤ 0xFFFF
  · exact ⟨_, decodeFrom_three (by omega) h3⟩
  · exact ⟨_, decodeFrom_four (by omega)⟩

end Characters

/-! ### Texts -/

theorem decodeFrom_flatMap (cs : List Char) (start : Nat) :
    decodeFrom start (cs.flatMap String.utf8EncodeChar) = .ok cs := by
  induction cs generalizing start with
  | nil =>
    rw [List.flatMap_nil, decodeFrom]
  | cons c cs ih =>
    obtain ⟨next, h⟩ := decodeFrom_char c start (cs.flatMap String.utf8EncodeChar)
    rw [List.flatMap_cons, h, ih]
    rfl

/-- Every text is read back from its octets. -/
theorem decode?_encode (s : String) : decode? (encode s) = some s := by
  rw [decode?, decode, encode, decodeFrom_flatMap]
  exact congrArg some String.ofList_toList

end FluentSql.Text.Utf8
