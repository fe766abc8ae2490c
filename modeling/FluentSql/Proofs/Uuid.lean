import FluentSql.Uuid
import Mathlib.Tactic.Common

/-! What identifiers are read from. Whatever of the accepted spellings a text has, it has 32
hexadecimal digits, and no two ways to find them; the octets are those that the digits name, and
written out again they are the same digits in lower case, `text_of_read?`. -/

namespace FluentSql

/-! ### Hexadecimal digits -/

namespace Text

theorem toNat_le_of_le {c d : Char} (h : c ≤ d) : c.toNat ≤ d.toNat :=
  UInt32.le_iff_toNat_le.1 h

theorem toNat_lt_of_hexValue? {c : Char} {n : Nat} (h : hexValue? c = some n) : c.toNat < 128 := by
  have h9 : ('9' : Char).toNat < 128 := by decide
  have hf : ('f' : Char).toNat < 128 := by decide
  have hF : ('F' : Char).toNat < 128 := by decide
  unfold hexValue? at h
  split at h
  next hc => exact Nat.lt_of_le_of_lt (toNat_le_of_le hc.2) h9
  split at h
  next hc => exact Nat.lt_of_le_of_lt (toNat_le_of_le hc.2) hf
  split at h
  next hc => exact Nat.lt_of_le_of_lt (toNat_le_of_le hc.2) hF
  next => cases h

/-- A digit in either case is that of its value in lower case. -/
theorem hexDigit_of_hexValue? {c : Char} {n : Nat} (h : hexValue? c = some n) :
    n < 16 ∧ hexDigit n = c.toLower := by
  have all : ∀ k < 128, (hexValue? (Char.ofNat k)).all
      (fun n => decide (n < 16 ∧ hexDigit n = (Char.ofNat k).toLower)) = true := by decide
  have hc := all c.toNat (toNat_lt_of_hexValue? h)
  rw [Char.ofNat_toNat, h] at hc
  exact of_decide_eq_true hc

namespace Hex

theorem length_encode (bs : List UInt8) : (encode bs).length = 2 * bs.length := by
  induction bs with
  | nil => rfl
  | cons b bs ih =>
    rw [encode, List.length_cons, List.length_cons, List.length_cons, ih]
    omega

/-- Octets that were read are written in the digits they were read from, in lower case. -/
theorem encode_of_decode? {cs : List Char} {bs : List UInt8} (h : decode? cs = some bs) :
    (∀ c ∈ cs, (hexValue? c).isSome = true) ∧ encode bs = cs.map Char.toLower := by
  induction cs using decode?.induct generalizing bs with
  | case1 =>
    cases h
    exact ⟨List.forall_mem_nil _, rfl⟩
  | case2 c => cases h
  | case3 hi lo cs ih =>
    simp only [decode?, Option.bind_eq_bind, Option.bind_eq_some_iff, Option.pure_def,
      Option.some.injEq] at h
    obtain ⟨m, hm, n, hn, bs, hbs, rfl⟩ := h
    obtain ⟨hdigits, hrest⟩ := ih hbs
    obtain ⟨hm16, hhi⟩ := hexDigit_of_hexValue? hm
    obtain ⟨hn16, hlo⟩ := hexDigit_of_hexValue? hn
    have hb : (UInt8.ofNat (16 * m + n)).toNat = 16 * m + n := by
      rw [UInt8.toNat_ofNat', Nat.mod_eq_of_lt (by omega)]
    have hdiv : (16 * m + n) / 16 = m := by omega
    have hmod : (16 * m + n) % 16 = n := by omega
    refine ⟨?_, ?_⟩
    · refine List.forall_mem_cons.2 ⟨?_, List.forall_mem_cons.2 ⟨?_, hdigits⟩⟩
      · rw [hm]
        rfl
      · rw [hn]
        rfl
    · rw [encode, hb, hdiv, hmod, hhi, hlo, hrest, List.map_cons, List.map_cons]

end Hex

end Text

/-! ### Spellings -/

namespace Uuid

open Text

/-- The digits of an identifier, in either case. -/
structure Digits (ds : List Char) : Prop where
  length : ds.length = 32
  digit : ∀ d ∈ ds, (hexValue? d).isSome = true

/-- The text spells the identifier of these digits. -/
inductive Spells : List Char → List Char → Prop where
  | simple {ds : List Char} : Digits ds → Spells ds ds
  | hyphenated {ds : List Char} : Digits ds → Spells (group groups ds) ds
  | braced {ds : List Char} : Digits ds → Spells ('{' :: (group groups ds ++ ['}'])) ds
  | urn {mark ds : List Char} : mark.map Char.toUpper = scheme → Digits ds →
      Spells (mark ++ group groups ds) ds

theorem Spells.digits {s ds : List Char} (h : Spells s ds) : Digits ds := by
  cases h with
  | simple hds => exact hds
  | hyphenated hds => exact hds
  | braced hds => exact hds
  | urn hm hds => exact hds

/-- The number of digits in groups. -/
def total : List Nat → Nat
  | [] => 0
  | n :: ns => n + total ns

/-- Where hyphens could be taken out, they can be put in again. -/
theorem group_of_ungroup? {ns : List Nat} {s ds : List Char} (h : ungroup? ns s = some ds) :
    s = group ns ds ∧ ds.length = total ns := by
  induction ns generalizing s ds with
  | nil =>
    rw [ungroup?] at h
    split at h
    next hs =>
      cases h
      exact ⟨List.isEmpty_iff.1 hs, rfl⟩
    next => cases h
  | cons n ns ih =>
    cases ns with
    | nil =>
      rw [ungroup?] at h
      split at h
      next hs =>
        cases h
        exact ⟨rfl, hs⟩
      next => cases h
    | cons m ns =>
      rw [ungroup?] at h
      · split at h
        next r hr =>
          obtain ⟨rest, hrest, rfl⟩ := Option.map_eq_some_iff.1 h
          obtain ⟨hg, hl⟩ := ih hrest
          have hlen : (s.take n).length = n := by
            have hdrop := congrArg List.length hr
            rw [List.length_drop, List.length_cons] at hdrop
            rw [List.length_take]
            omega
          refine ⟨?_, ?_⟩
          · rw [group, List.take_left' hlen, List.drop_left' hlen, ← hg, ← hr,
              List.take_append_drop]
            simp
          · rw [List.length_append, hlen, hl]
            rfl
        next => cases h
      · simp

theorem digits_of_decode? {ds : List Char} {bs : List UInt8} (hl : ds.length = 32)
    (h : Hex.decode? ds = some bs) : Digits ds :=
  ⟨hl, (Hex.encode_of_decode? h).1⟩

/-- Digits in groups. -/
theorem exists_of_grouped? {s : List Char} {bs : List UInt8} (h : grouped? s = some bs) :
    ∃ ds, s = group groups ds ∧ Digits ds ∧ Hex.decode? ds = some bs := by
  obtain ⟨ds, hu, hd⟩ := Option.bind_eq_some_iff.1 h
  obtain ⟨hs, hl⟩ := group_of_ungroup? hu
  exact ⟨ds, hs, digits_of_decode? hl hd, hd⟩

theorem eq_braced {s : List Char} (hl : s.length = 38) (hh : s.head? = some '{')
    (ht : s.getLast? = some '}') : s = '{' :: ((s.drop 1).dropLast ++ ['}']) := by
  cases s with
  | nil => cases hh
  | cons c cs =>
    obtain rfl : c = '{' := Option.some.inj hh
    have hne : cs ≠ [] := by
      rintro rfl
      cases hl
    have hlast : cs.getLast hne = '}' := by
      rw [List.getLast?_cons_of_ne_nil hne, List.getLast?_eq_some_getLast hne] at ht
      exact Option.some.inj ht
    rw [List.drop_one, List.tail_cons, ← hlast, List.dropLast_concat_getLast]

/-- What is read has one of the spellings, and is what its digits name. -/
theorem spells_of_read? {s : List Char} {bs : List UInt8} (h : read? s = some bs) :
    ∃ ds, Spells s ds ∧ Hex.decode? ds = some bs := by
  unfold read? at h
  split at h
  next hl => exact ⟨s, .simple (digits_of_decode? hl h), h⟩
  split at h
  next hl =>
    obtain ⟨ds, rfl, hds, hd⟩ := exists_of_grouped? h
    exact ⟨ds, .hyphenated hds, hd⟩
  split at h
  next hl =>
    obtain ⟨hl, hh, ht⟩ := hl
    obtain ⟨ds, hs, hds, hd⟩ := exists_of_grouped? h
    rw [eq_braced hl hh ht, hs]
    exact ⟨ds, .braced hds, hd⟩
  split at h
  next hl =>
    obtain ⟨ds, hs, hds, hd⟩ := exists_of_grouped? h
    rw [← List.take_append_drop 9 s, hs]
    exact ⟨ds, .urn hl.2 hds, hd⟩
  next => cases h

theorem ungroup?_group {ns : List Nat} {ds : List Char} (hns : ns ≠ []) (h : ds.length = total ns) :
    ungroup? ns (group ns ds) = some ds ∧
      (group ns ds).length + 1 = ds.length + ns.length := by
  induction ns generalizing ds with
  | nil => exact absurd rfl hns
  | cons n ns ih =>
    cases ns with
    | nil =>
      have hn : ds.length = n := h
      rw [group, ungroup?, if_pos hn]
      exact ⟨rfl, rfl⟩
    | cons m ns =>
      have hsum : ds.length = n + total (m :: ns) := h
      have hlen : (ds.take n).length = n := by
        rw [List.length_take]
        omega
      have hdrop : (ds.drop n).length = total (m :: ns) := by
        rw [List.length_drop]
        omega
      obtain ⟨hu, hl⟩ := ih (List.cons_ne_nil m ns) hdrop
      have hgroup : group (n :: m :: ns) ds = ds.take n ++ '-' :: group (m :: ns) (ds.drop n) := by
        rw [group]
        exact List.cons_ne_nil m ns
      rw [hgroup]
      refine ⟨?_, ?_⟩
      · rw [ungroup?]
        · rw [List.drop_left' hlen, List.take_left' hlen]
          simp only [hu]
          exact congrArg some (List.take_append_drop n ds)
        · exact List.cons_ne_nil m ns
      · rw [List.length_append, List.length_cons, hlen, List.length_cons]
        omega

theorem grouped?_group {ds : List Char} (h : Digits ds) :
    grouped? (group groups ds) = Hex.decode? ds ∧ (group groups ds).length = 36 := by
  have hgroups : groups ≠ [] := List.cons_ne_nil _ _
  obtain ⟨hu, hl⟩ := ungroup?_group hgroups h.length
  rw [h.length] at hl
  refine ⟨?_, ?_⟩
  · rw [grouped?, hu]
    rfl
  · have hlen : groups.length = 5 := rfl
    omega

/-- Every spelling is read, as what its digits name. -/
theorem read?_of_spells {s ds : List Char} (h : Spells s ds) : read? s = Hex.decode? ds := by
  have hdigits := h.digits
  obtain ⟨hg, hl⟩ := grouped?_group hdigits
  cases h with
  | simple hds => rw [read?, if_pos hds.length]
  | hyphenated hds => rw [read?, if_neg (by omega), if_pos hl, hg]
  | braced hds =>
    have hlen : ('{' :: (group groups ds ++ ['}'])).length = 38 := by
      rw [List.length_cons, List.length_append, hl]
      rfl
    have hlast : ('{' :: (group groups ds ++ ['}'])).getLast? = some '}' := by
      rw [← List.cons_append, List.getLast?_concat]
    rw [read?, if_neg (by omega), if_neg (by omega), if_pos ⟨hlen, rfl, hlast⟩, List.drop_one,
      List.tail_cons, List.dropLast_concat, hg]
  | @urn mark _ hm hds =>
    have hmark : mark.length = 9 := by
      rw [← List.length_map Char.toUpper, hm]
      rfl
    have hlen : (mark ++ group groups ds).length = 45 := by
      rw [List.length_append, hl, hmark]
    have htake : (mark ++ group groups ds).take 9 = mark := List.take_left' hmark
    have hdrop : (mark ++ group groups ds).drop 9 = group groups ds := List.drop_left' hmark
    rw [read?, if_neg (by omega), if_neg (by omega), if_neg (by omega), htake, hdrop,
      if_pos ⟨hlen, hm⟩, hg]

/-- What is read is sixteen octets, whose text is the digits of the spelling in lower case and with
hyphens. -/
theorem text_of_read? {s : List Char} {bs : List UInt8} (h : read? s = some bs) :
    bs.length = 16 ∧ ∃ ds, Spells s ds ∧ text bs = group groups (ds.map Char.toLower) := by
  obtain ⟨ds, hs, hd⟩ := spells_of_read? h
  have he := (Hex.encode_of_decode? hd).2
  have hlen := congrArg List.length he
  rw [Hex.length_encode, List.length_map, hs.digits.length] at hlen
  exact ⟨by omega, ds, hs, by rw [text, he]⟩

theorem isSome_decode? {ds : List Char} (heven : ds.length % 2 = 0)
    (h : ∀ d ∈ ds, (hexValue? d).isSome = true) : (Hex.decode? ds).isSome = true := by
  induction ds using Hex.decode?.induct with
  | case1 => rfl
  | case2 c => cases heven
  | case3 hi lo cs ih =>
    obtain ⟨hhi, hrest⟩ := List.forall_mem_cons.1 h
    obtain ⟨hlo, hcs⟩ := List.forall_mem_cons.1 hrest
    rw [List.length_cons, List.length_cons] at heven
    obtain ⟨m, hm⟩ := Option.isSome_iff_exists.1 hhi
    obtain ⟨n, hn⟩ := Option.isSome_iff_exists.1 hlo
    obtain ⟨bs, hbs⟩ := Option.isSome_iff_exists.1 (ih (by omega) hcs)
    rw [Hex.decode?, hm, hn, hbs]
    rfl

/-- A text spells one identifier, if any. -/
theorem Spells.lower_eq {s ds es : List Char} (hd : Spells s ds) (he : Spells s es) :
    ds.map Char.toLower = es.map Char.toLower := by
  have hsome : (Hex.decode? ds).isSome = true :=
    isSome_decode? (by rw [hd.digits.length]) hd.digits.digit
  obtain ⟨bs, hbs⟩ := Option.isSome_iff_exists.1 hsome
  have hes : Hex.decode? es = some bs := by
    rw [← read?_of_spells he, read?_of_spells hd, hbs]
  rw [← (Hex.encode_of_decode? hbs).2, (Hex.encode_of_decode? hes).2]

end Uuid

end FluentSql
