import FluentSql.Postgres.Driver
import FluentSql.Proofs.Number.Numeral

/-! The tags with which the server ends its replies. The number of rows that a statement affected is
the last word of its tag, and where that is no number of 64 bits none are counted, `tells_iff`. -/

namespace FluentSql

/-! ### The last word of a text -/

/-- What stands behind the last blank of a text; all of it if it has none. -/
def LastWord (w s : List Char) : Prop :=
  ' ' ∉ w ∧ (s = w ∨ ∃ front, s = front ++ ' ' :: w)

theorem exists_lastWord (s : List Char) : ∃ w, LastWord w s := by
  induction s with
  | nil => exact ⟨[], List.not_mem_nil, .inl rfl⟩
  | cons c s ih =>
    obtain ⟨w, hw, rfl | ⟨front, rfl⟩⟩ := ih
    · by_cases hc : c = ' '
      · exact ⟨s, hw, .inr ⟨[], by rw [hc, List.nil_append]⟩⟩
      · exact ⟨c :: s, List.not_mem_cons_of_ne_of_not_mem (Ne.symm hc) hw, .inl rfl⟩
    · exact ⟨w, hw, .inr ⟨c :: front, rfl⟩⟩

theorem LastWord.getLast?_pieces {w s : List Char} (h : LastWord w s) :
    (Text.pieces (· == ' ') s).getLast? = some w := by
  obtain ⟨hw, hs⟩ := h
  have hpiece : Text.pieces (· == ' ') w = [w] := by
    refine Text.pieces_solid fun c hc => beq_eq_false_iff_ne.2 ?_
    rintro rfl
    exact hw hc
  obtain rfl | ⟨front, rfl⟩ := hs
  · rw [hpiece, List.getLast?_singleton]
  · rw [Text.pieces_gap rfl, hpiece, List.getLast?_concat]

namespace Postgres

/-! ### Tags -/

/-- The number of rows that a tag tells: the one whose numeral is its last word, and none if that is
no numeral of 64 bits. -/
def Tells (tag : String) (n : UInt64) : Prop :=
  ∃ w, LastWord w tag.toList ∧
    (Numeral w n.toNat ∨ n = 0 ∧ ∀ k : UInt64, ¬ Numeral w k.toNat)

/-- A tag tells one number. -/
theorem tells_iff {tag : String} {n : UInt64} : Tells tag n ↔ affected tag = n := by
  have hnumber {w : List Char} (hw : LastWord w tag.toList) :
      affected tag = (readUInt64 w).toOption.getD 0 := by
    rw [affected, hw.getLast?_pieces]
    rfl
  constructor
  · rintro ⟨w, hw, hn | ⟨rfl, hnone⟩⟩
    · rw [hnumber hw, readUInt64_eq_ok_iff.2 hn]
      rfl
    · rw [hnumber hw]
      cases hr : readUInt64 w with
      | error e => rfl
      | ok k => exact absurd (readUInt64_eq_ok_iff.1 hr) (hnone k)
  · rintro rfl
    obtain ⟨w, hw⟩ := exists_lastWord tag.toList
    refine ⟨w, hw, ?_⟩
    rw [hnumber hw]
    cases hr : readUInt64 w with
    | error e =>
      refine .inr ⟨rfl, fun k hk => ?_⟩
      cases hr.symm.trans (readUInt64_eq_ok_iff.2 hk)
    | ok k => exact .inl (readUInt64_eq_ok_iff.1 hr)

example : affected "INSERT 0 12" = 12 ∧ affected "CREATE TABLE" = 0 := by decide

end Postgres

end FluentSql
