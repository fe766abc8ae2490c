import FluentSql.Text.Blank
import Mathlib.Data.List.Forall2

/-! Texts that are the same up to the case of ASCII letters. Folding to upper or to lower case brings
together just these, `map_toUpper_eq_iff` and `map_toLower_eq_iff`, and a character that is no letter
keeps apart from all others. -/

namespace FluentSql.Text

/-- The characters are the same, or one ASCII letter in its two cases, which are 32 apart. -/
def SameLetter (c d : Char) : Prop :=
  c = d ∨ c.isAlpha ∧ d.isAlpha ∧ (c.toNat + 32 = d.toNat ∨ d.toNat + 32 = c.toNat)

/-- The texts are the same but for the case of ASCII letters. -/
def Caseless (s t : List Char) : Prop :=
  List.Forall₂ SameLetter s t

/-- No character is an ASCII letter. -/
def Letterless (s : List Char) : Prop :=
  ∀ c ∈ s, c.isAlpha = false

-- spelled out, as the search for an instance may find one that goes over all characters
instance : DecidablePred Letterless :=
  List.decidableBAll fun c : Char => c.isAlpha = false

/-! ### Characters -/

theorem toNat_toUpper (c : Char) :
    c.toUpper.toNat = if 97 ≤ c.toNat ∧ c.toNat ≤ 122 then c.toNat - 32 else c.toNat := by
  unfold Char.toUpper
  split
  next h =>
    have hc : 97 ≤ c.toNat ∧ c.toNat ≤ 122 := h
    have hval : ('A'.val - 'a'.val).toNat = 2 ^ 32 - 32 := by decide
    show (c.val + ('A'.val - 'a'.val)).toNat = _
    rw [if_pos hc, UInt32.toNat_add, hval, Char.toNat_val]
    omega
  next h => exact (if_neg h).symm

theorem toNat_toLower (c : Char) :
    c.toLower.toNat = if 65 ≤ c.toNat ∧ c.toNat ≤ 90 then c.toNat + 32 else c.toNat := by
  unfold Char.toLower
  split
  next h =>
    have hc : 65 ≤ c.toNat ∧ c.toNat ≤ 90 := h
    have hval : ('a'.val - 'A'.val).toNat = 32 := by decide
    show (c.val + ('a'.val - 'A'.val)).toNat = _
    rw [if_pos hc, UInt32.toNat_add, hval, Char.toNat_val]
    omega
  next h => exact (if_neg h).symm

theorem isAlpha_iff (c : Char) :
    c.isAlpha ↔ (65 ≤ c.toNat ∧ c.toNat ≤ 90) ∨ (97 ≤ c.toNat ∧ c.toNat ≤ 122) := by
  have hupper : c.isUpper ↔ 65 ≤ c.toNat ∧ c.toNat ≤ 90 := decide_eq_true_iff
  have hlower : c.isLower ↔ 97 ≤ c.toNat ∧ c.toNat ≤ 122 :=
    Bool.and_eq_true_iff.trans (and_congr decide_eq_true_iff decide_eq_true_iff)
  exact Bool.or_eq_true_iff.trans (or_congr hupper hlower)

theorem toUpper_eq_iff {c d : Char} : c.toUpper = d.toUpper ↔ SameLetter c d := by
  rw [← Char.toNat_inj, toNat_toUpper, toNat_toUpper, SameLetter, isAlpha_iff, isAlpha_iff,
    ← Char.toNat_inj]
  split <;> split <;> omega

theorem toLower_eq_iff {c d : Char} : c.toLower = d.toLower ↔ SameLetter c d := by
  rw [← Char.toNat_inj, toNat_toLower, toNat_toLower, SameLetter, isAlpha_iff, isAlpha_iff,
    ← Char.toNat_inj]
  split <;> split <;> omega

theorem sameLetter_toUpper (c : Char) : SameLetter c.toUpper c := by
  have h := toNat_toUpper c
  rw [← toUpper_eq_iff, ← Char.toNat_inj, toNat_toUpper c.toUpper]
  split at h <;> split <;> omega

/-- Only a letter has another case. -/
theorem SameLetter.eq_of_not_isAlpha {c d : Char} (h : SameLetter c d) (hd : d.isAlpha = false) :
    c = d := by
  rcases h with rfl | ⟨-, hd', -⟩
  · rfl
  · rw [hd] at hd'
    cases hd'

theorem isBlank_of_isAlpha {c : Char} (h : c.isAlpha) : isBlank c = false := by
  rw [isAlpha_iff] at h
  simp only [isBlank, Bool.or_eq_false_iff, Bool.and_eq_false_iff, decide_eq_false_iff_not,
    beq_eq_false_iff_ne]
  omega

theorem SameLetter.isBlank_eq {c d : Char} (h : SameLetter c d) : isBlank c = isBlank d := by
  rcases h with rfl | ⟨hc, hd, -⟩
  · rfl
  · rw [isBlank_of_isAlpha hc, isBlank_of_isAlpha hd]

theorem isBlank_toUpper (c : Char) : isBlank c.toUpper = isBlank c :=
  (sameLetter_toUpper c).isBlank_eq

/-! ### Texts -/

theorem map_toUpper_eq_iff {s t : List Char} :
    s.map Char.toUpper = t.map Char.toUpper ↔ Caseless s t := by
  rw [← List.forall₂_eq_eq_eq, List.forall₂_map_left_iff, List.forall₂_map_right_iff]
  simp only [toUpper_eq_iff, Caseless]

theorem map_toLower_eq_iff {s t : List Char} :
    s.map Char.toLower = t.map Char.toLower ↔ Caseless s t := by
  rw [← List.forall₂_eq_eq_eq, List.forall₂_map_left_iff, List.forall₂_map_right_iff]
  simp only [toLower_eq_iff, Caseless]

theorem caseless_map_toUpper (s : List Char) : Caseless (s.map Char.toUpper) s :=
  List.forall₂_map_left_iff.2 (List.forall₂_same.2 fun c _ => sameLetter_toUpper c)

theorem Caseless.eq_of_letterless {s t : List Char} (h : Caseless s t) (ht : Letterless t) :
    s = t := by
  induction h with
  | nil => rfl
  | cons hcd _ ih =>
    rw [Letterless, List.forall_mem_cons] at ht
    rw [hcd.eq_of_not_isAlpha ht.1, ih ht.2]

theorem Caseless.map_isBlank {s t : List Char} (h : Caseless s t) :
    s.map isBlank = t.map isBlank := by
  induction h with
  | nil => rfl
  | cons hcd _ ih => rw [List.map_cons, List.map_cons, hcd.isBlank_eq, ih]

end FluentSql.Text
