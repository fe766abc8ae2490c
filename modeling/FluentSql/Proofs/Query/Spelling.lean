import FluentSql.Query.Condition
import FluentSql.Proofs.Text.Words

/-! How operators are spelled. An operator is named by its words in SQL, in either case and however
they are spaced, and two of them by a sign beside. Nothing else is an operator,
`ofText_eq_ok_iff_spells`: where words are parted otherwise, none is named. -/

namespace FluentSql.Operator

open Text (Padded SameWords folded runs solid upperRuns)

/-- The texts that spell an operator. -/
inductive Spells : String → Operator → Prop where
  | sql {s : String} {o : Operator} : SameWords s.toList o.sql.toList → Spells s o
  | same {s : String} : Padded "==".toList s.toList → Spells s .eq
  | other {s : String} : Padded "!=".toList s.toList → Spells s .ne

/-- The error for a text that spells no operator. -/
def unknown (s : String) : Error :=
  .unsupported ("unknown operator '" ++ s ++ "'")

/-! ### The table of spellings -/

theorem find?_eq_some_iff {t : String} {o : Operator} :
    all.find? (fun o => o.sql == t) = some o ↔ o.sql = t := by
  constructor
  · intro h
    have hsql := List.find?_some h
    exact beq_iff_eq.1 hsql
  · rintro rfl
    cases o <;> rfl

theorem alias?_eq_some_iff {t : String} {o : Operator} :
    alias? t = some o ↔ (t = "==" ∧ o = .eq) ∨ (t = "!=" ∧ o = .ne) := by
  grind [alias?]

theorem lookup_eq_some_iff {t : String} {o : Operator} :
    (all.find? (fun o => o.sql == t) <|> alias? t) = some o ↔
      o.sql = t ∨ (t = "==" ∧ o = .eq) ∨ (t = "!=" ∧ o = .ne) := by
  rw [← find?_eq_some_iff, ← alias?_eq_some_iff]
  cases hfind : all.find? (fun o => o.sql == t) with
  | none => simp
  | some o' =>
    -- no operator is written like a sign beside
    have hsql := find?_eq_some_iff.1 hfind
    have halias : alias? t = none := by
      subst hsql
      cases o' <;> rfl
    simp [halias]

/-- An operator is written in upper case, with single blanks. -/
theorem intercalate_runs_sql (o : Operator) :
    [' '].intercalate (runs o.sql.toList) = o.sql.toList := by
  cases o <;> decide

theorem upperRuns_sql (o : Operator) : upperRuns o.sql.toList = runs o.sql.toList := by
  cases o <;> decide

theorem folded_eq_sql_iff {s : String} {o : Operator} :
    folded s = o.sql ↔ SameWords s.toList o.sql.toList := by
  rw [Text.folded_eq_iff (intercalate_runs_sql o), Text.sameWords_iff, upperRuns_sql]

theorem folded_eq_same_iff {s : String} : folded s = "==" ↔ Padded "==".toList s.toList := by
  have hruns : runs "==".toList = ["==".toList] := by decide
  rw [Text.folded_eq_iff (by decide), hruns]
  exact Text.upperRuns_eq_singleton_iff (by decide) (by decide)

theorem folded_eq_other_iff {s : String} : folded s = "!=" ↔ Padded "!=".toList s.toList := by
  have hruns : runs "!=".toList = ["!=".toList] := by decide
  rw [Text.folded_eq_iff (by decide), hruns]
  exact Text.upperRuns_eq_singleton_iff (by decide) (by decide)

/-! ### Reading an operator -/

section Reading

variable {s t : String} {o : Operator}

theorem ofText_eq (s : String) :
    ofText s = match all.find? (fun o => o.sql == folded s) <|> alias? (folded s) with
      | some o => .ok o
      | none => .error (unknown s) := by
  unfold ofText folded unknown
  split
  next o h => simp only [h]
  next h =>
    simp only [h]
    rfl

theorem ofText_eq_ok_iff_spells : ofText s = .ok o ↔ Spells s o := by
  have hlookup : ofText s = .ok o ↔
      (all.find? (fun o => o.sql == folded s) <|> alias? (folded s)) = some o := by
    rw [ofText_eq]
    split <;> simp [*]
  rw [hlookup, lookup_eq_some_iff, eq_comm, folded_eq_sql_iff, folded_eq_same_iff,
    folded_eq_other_iff]
  constructor
  · rintro (h | ⟨h, rfl⟩ | ⟨h, rfl⟩)
    · exact .sql h
    · exact .same h
    · exact .other h
  · rintro (h | h | h)
    · exact .inl h
    · exact .inr (.inl ⟨h, rfl⟩)
    · exact .inr (.inr ⟨h, rfl⟩)

theorem ofText_of_not_spells (h : ∀ o, ¬ Spells s o) : ofText s = .error (unknown s) := by
  rw [ofText_eq]
  split
  next o ho =>
    have hok : ofText s = .ok o := by rw [ofText_eq, ho]
    exact absurd (ofText_eq_ok_iff_spells.1 hok) (h o)
  next => rfl

/-- Only the words count, and not the case of their letters. -/
theorem toOption_ofText_of_sameWords (h : SameWords s.toList t.toList) :
    (ofText s).toOption = (ofText t).toOption := by
  have hfolded : folded s = folded t := by
    rw [← String.toList_inj, Text.toList_folded, Text.toList_folded, Text.sameWords_iff.1 h]
  rw [ofText_eq, ofText_eq, hfolded]
  split <;> rfl

/-! ### Words parted otherwise -/

/-- The words of the texts that spell an operator. -/
def spellings : List (List (List Char)) :=
  all.map (fun o => runs o.sql.toList) ++ [["==".toList], ["!=".toList]]

theorem upperRuns_mem_spellings (h : Spells s o) : upperRuns s.toList ∈ spellings := by
  cases h with
  | sql h =>
    rw [Text.sameWords_iff.1 h, upperRuns_sql]
    exact List.mem_append_left _ (List.mem_map_of_mem (by cases o <;> decide))
  | same h =>
    rw [(Text.upperRuns_eq_singleton_iff (by decide) (by decide)).2 h]
    decide
  | other h =>
    rw [(Text.upperRuns_eq_singleton_iff (by decide) (by decide)).2 h]
    decide

/-- No two spellings have the same letters and signs in different words. -/
theorem spellings_flatten_inj :
    ∀ vs ∈ spellings, ∀ ws ∈ spellings, vs.flatten = ws.flatten → vs = ws := by
  decide

theorem ofText_of_parted (hs : Spells s o)
    (hsolid : Text.Caseless (solid s.toList) (solid t.toList))
    (hwords : ¬ SameWords s.toList t.toList) : ofText t = .error (unknown t) := by
  refine ofText_of_not_spells fun o' ht => hwords (Text.sameWords_iff.2 ?_)
  refine spellings_flatten_inj _ (upperRuns_mem_spellings hs) _ (upperRuns_mem_spellings ht) ?_
  rw [Text.flatten_upperRuns, Text.flatten_upperRuns, Text.map_toUpper_eq_iff.2 hsolid]

end Reading

/-- The texts that are operators, and what is said of all others. Two texts of the same words are one
operator or none, and where the characters of an operator stand in other words, a word cut in two or
two words joined, there is none. -/
theorem ofText_grammar :
    (∀ s o, ofText s = .ok o ↔ Spells s o) ∧
      (∀ s, (∀ o, ¬ Spells s o) → ofText s = .error (unknown s)) ∧
      (∀ s t : String, SameWords s.toList t.toList →
        (ofText s).toOption = (ofText t).toOption) ∧
      (∀ s t : String, ∀ o, Spells s o → Text.Caseless (solid s.toList) (solid t.toList) →
        ¬ SameWords s.toList t.toList → ofText t = .error (unknown t)) ∧
      ∀ o, ofText o.sql = .ok o := by
  refine ⟨fun _ _ => ofText_eq_ok_iff_spells, fun _ => ofText_of_not_spells,
    fun _ _ => toOption_ofText_of_sameWords, fun _ _ _ => ofText_of_parted, fun o => ?_⟩
  exact ofText_eq_ok_iff_spells.2 (.sql (Text.sameWords_iff.2 rfl))

theorem ofText_grammar_spaced :
    (Spells " Not\tin" .notIn ∧ ofText " Not\tin" = .ok .notIn) ∧
      ((∀ o, ¬ Spells "~~" o) ∧ ofText "~~" = .error (unknown "~~")) ∧
      (SameWords "is\nnull".toList "IS NULL".toList ∧
        (ofText "is\nnull").toOption = (ofText "IS NULL").toOption) ∧
      (¬ SameWords " Not\tin".toList "NOTIN".toList ∧
        ofText "NOTIN" = .error (unknown "NOTIN")) ∧
      (¬ SameWords ">=".toList "> =".toList ∧ ofText "> =" = .error (unknown "> =")) := by
  obtain ⟨reads, refuses, respaced, parted, -⟩ := ofText_grammar
  have hnotIn : Spells " Not\tin" .notIn := .sql (Text.sameWords_iff.2 (by decide))
  have hgte : Spells ">=" .gte := .sql (Text.sameWords_iff.2 (by decide))
  have hnone (o : Operator) : ¬ Spells "~~" o := fun h =>
    absurd (upperRuns_mem_spellings h) (by decide)
  have hnull : SameWords "is\nnull".toList "IS NULL".toList := Text.sameWords_iff.2 (by decide)
  have hjoined : ¬ SameWords " Not\tin".toList "NOTIN".toList := by
    rw [Text.sameWords_iff]
    decide
  have hcut : ¬ SameWords ">=".toList "> =".toList := by
    rw [Text.sameWords_iff]
    decide
  exact ⟨⟨hnotIn, (reads _ _).2 hnotIn⟩, ⟨hnone, refuses _ hnone⟩, ⟨hnull, respaced _ _ hnull⟩,
    ⟨hjoined, parted _ _ _ hnotIn (Text.map_toUpper_eq_iff.1 (by decide)) hjoined⟩,
    ⟨hcut, parted _ _ _ hgte (Text.map_toUpper_eq_iff.1 (by decide)) hcut⟩⟩

end FluentSql.Operator
