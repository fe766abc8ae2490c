import FluentSql.Proofs.Text.Caseless

/-! The words of a text, its maximal runs without white space. A text is made of words and white space
in just one way, and so it is cut, `runs_eq_iff`. Joined by single blanks and in upper case, texts
become the same if their words are the same up to the case of letters, `folded_eq_iff`. -/

namespace FluentSql.Text

/-- At least one character, and no white space. -/
structure IsWord (w : List Char) : Prop where
  ne_nil : w ≠ []
  solid : ∀ c ∈ w, isBlank c = false

theorem isWord_iff {w : List Char} : IsWord w ↔ w ≠ [] ∧ w.all (!isBlank ·) := by
  simp only [List.all_eq_true, Bool.not_eq_true']
  exact ⟨fun h => ⟨h.ne_nil, h.solid⟩, fun h => ⟨h.1, h.2⟩⟩

instance : DecidablePred IsWord := fun _ =>
  decidable_of_iff _ isWord_iff.symm

/-- The text is made of these words, in this order, and white space. Behind a word white space
follows or the text ends. -/
inductive Worded : List (List Char) → List Char → Prop where
  | nil : Worded [] []
  | blank {c : Char} {ws : List (List Char)} {s : List Char} : isBlank c = true → Worded ws s →
      Worded ws (c :: s)
  | word {w : List Char} {ws : List (List Char)} {s : List Char} : IsWord w →
      (∀ c ∈ s.head?, isBlank c = true) → Worded ws s → Worded (w :: ws) (w ++ s)

theorem Caseless.isWord {v w : List Char} (h : Caseless v w) (hw : IsWord w) : IsWord v := by
  refine ⟨?_, fun c hc => ?_⟩
  · rintro rfl
    exact hw.ne_nil (List.forall₂_nil_left_iff.1 h)
  · have hmem : isBlank c ∈ w.map isBlank := h.map_isBlank ▸ List.mem_map_of_mem hc
    obtain ⟨d, hd, hcd⟩ := List.mem_map.1 hmem
    rw [← hcd, hw.solid d hd]

/-- The runs of a text without white space, in order. -/
def runs (s : List Char) : List (List Char) :=
  (pieces isBlank s).filter (!·.isEmpty)

theorem words_eq_runs (s : String) : words s = (runs s.toList).map String.ofList :=
  rfl

theorem pieces_append {w : List Char} (h : ∀ c ∈ w, isBlank c = false) {s p : List Char}
    {ps : List (List Char)} (hs : pieces isBlank s = p :: ps) :
    pieces isBlank (w ++ s) = (w ++ p) :: ps := by
  induction w with
  | nil => exact hs
  | cons c w ih =>
    have hc := h c List.mem_cons_self
    have ih := ih fun d hd => h d (List.mem_cons_of_mem _ hd)
    simp [pieces, hc, ih]

theorem runs_blank {c : Char} (h : isBlank c = true) (s : List Char) : runs (c :: s) = runs s := by
  simp [runs, pieces, h]

theorem runs_word {w s : List Char} (hw : IsWord w) (hs : ∀ c ∈ s.head?, isBlank c = true) :
    runs (w ++ s) = w :: runs s := by
  have hne := hw.ne_nil
  cases s with
  | nil =>
    rw [runs, pieces_append hw.solid rfl]
    simp [runs, pieces, hne]
  | cons c s =>
    have hc : isBlank c = true := hs c rfl
    have hpieces : pieces isBlank (c :: s) = [] :: pieces isBlank s := by simp [pieces, hc]
    rw [runs_blank hc, runs, pieces_append hw.solid hpieces]
    simp [runs, hne]

theorem Worded.runs_eq {ws : List (List Char)} {s : List Char} (h : Worded ws s) : runs s = ws := by
  induction h with
  | nil => rfl
  | blank hc _ ih => rw [runs_blank hc, ih]
  | word hw hs _ ih => rw [runs_word hw hs, ih]

theorem isWord_singleton {c : Char} (h : isBlank c = false) : IsWord [c] :=
  ⟨List.cons_ne_nil _ _, fun d hd => by rwa [List.mem_singleton.1 hd]⟩

theorem IsWord.cons {c : Char} {w : List Char} (h : isBlank c = false) (hw : IsWord w) :
    IsWord (c :: w) :=
  ⟨List.cons_ne_nil _ _, List.forall_mem_cons.2 ⟨h, hw.solid⟩⟩

theorem exists_worded (s : List Char) : ∃ ws, Worded ws s := by
  induction s with
  | nil => exact ⟨[], .nil⟩
  | cons c s ih =>
    obtain ⟨ws, hws⟩ := ih
    cases hc : isBlank c with
    | true => exact ⟨ws, .blank hc hws⟩
    | false =>
      -- the character begins a word, or it goes on with the one that the rest begins with
      cases hws with
      | nil => exact ⟨[[c]], .word (isWord_singleton hc) (by simp) .nil⟩
      | blank hb h =>
        exact ⟨[c] :: ws, .word (isWord_singleton hc) (by simpa using hb) (.blank hb h)⟩
      | @word w ws s hw hs h => exact ⟨(c :: w) :: ws, .word (hw.cons hc) hs h⟩

theorem runs_eq_iff {ws : List (List Char)} {s : List Char} : runs s = ws ↔ Worded ws s := by
  constructor
  · rintro rfl
    obtain ⟨ws, hws⟩ := exists_worded s
    rwa [hws.runs_eq]
  · exact Worded.runs_eq

theorem Worded.isWord {ws : List (List Char)} {s : List Char} (h : Worded ws s) :
    ∀ w ∈ ws, IsWord w := by
  induction h with
  | nil => simp
  | blank _ _ ih => exact ih
  | word hw _ _ ih => exact List.forall_mem_cons.2 ⟨hw, ih⟩

/-! ### What there is beside white space -/

/-- The characters of a text that are no white space. -/
def solid (s : List Char) : List Char :=
  s.filter (!isBlank ·)

theorem solid_word {w : List Char} (h : IsWord w) : solid w = w :=
  List.filter_eq_self.2 fun c hc => by rw [h.solid c hc, Bool.not_false]

theorem Worded.solid_eq {ws : List (List Char)} {s : List Char} (h : Worded ws s) :
    solid s = ws.flatten := by
  induction h with
  | nil => rfl
  | blank hc _ ih => rw [solid, List.filter_cons_of_neg (by simp [hc]), ← solid, ih]
  | word hw _ _ ih =>
    rw [solid, List.filter_append, ← solid, ← solid, solid_word hw, ih, List.flatten_cons]

/-- The text is another one with white space around it. -/
def Padded (t s : List Char) : Prop :=
  ∃ front back, (∀ c ∈ front, isBlank c = true) ∧ (∀ c ∈ back, isBlank c = true) ∧
    s = front ++ t ++ back

theorem worded_nil {s : List Char} (h : ∀ c ∈ s, isBlank c = true) : Worded [] s := by
  induction s with
  | nil => exact .nil
  | cons c s ih =>
    rw [List.forall_mem_cons] at h
    exact .blank h.1 (ih h.2)

theorem Worded.blanks {ws : List (List Char)} {front s : List Char}
    (hfront : ∀ c ∈ front, isBlank c = true) (h : Worded ws s) : Worded ws (front ++ s) := by
  induction front with
  | nil => exact h
  | cons c front ih =>
    rw [List.forall_mem_cons] at hfront
    exact .blank hfront.1 (ih hfront.2)

theorem forall_of_worded_nil {s : List Char} (h : Worded [] s) : ∀ c ∈ s, isBlank c = true := by
  generalize hws : ([] : List (List Char)) = ws at h
  induction h with
  | nil => simp
  | blank hc _ ih => exact List.forall_mem_cons.2 ⟨hc, ih hws⟩
  | word => cases hws

/-- A text of one word is that word with white space around it. -/
theorem worded_singleton_iff {w s : List Char} (hw : IsWord w) : Worded [w] s ↔ Padded w s := by
  constructor
  · intro h
    generalize hws : [w] = ws at h
    induction h with
    | nil => cases hws
    | blank hc _ ih =>
      obtain ⟨front, back, hfront, hback, rfl⟩ := ih hws
      exact ⟨_ :: front, back, List.forall_mem_cons.2 ⟨hc, hfront⟩, hback, rfl⟩
    | word _ _ h =>
      cases hws
      exact ⟨[], _, by simp, forall_of_worded_nil h, rfl⟩
  · rintro ⟨front, back, hfront, hback, rfl⟩
    rw [List.append_assoc]
    exact .blanks hfront (.word hw (fun c hc => hback c (List.mem_of_mem_head? hc))
      (worded_nil hback))

/-- Trimming takes away the white space around a word. -/
theorem trim_of_padded {w : List Char} {s : String} (hw : IsWord w) (h : Padded w s.toList) :
    trim s = String.ofList w := by
  obtain ⟨front, back, hfront, hback, hs⟩ := h
  have hstart {v : List Char} (hv : IsWord v) (t : List Char) : trimStart (v ++ t) = v ++ t := by
    obtain ⟨c, v, rfl⟩ := List.exists_cons_of_ne_nil hv.ne_nil
    exact List.dropWhile_cons_of_neg (by simp [hv.solid c List.mem_cons_self])
  have hblanks {p : List Char} (hp : ∀ c ∈ p, isBlank c = true) (t : List Char) :
      trimStart (p ++ t) = trimStart t := List.dropWhile_append_of_pos hp
  have hreverse : IsWord w.reverse :=
    ⟨List.reverse_ne_nil_iff.2 hw.ne_nil, fun c hc => hw.solid c (List.mem_reverse.1 hc)⟩
  have hend : trimEnd (w ++ back) = w := by
    rw [trimEnd, List.reverse_append, hblanks fun c hc => hback c (List.mem_reverse.1 hc),
      ← List.append_nil w.reverse, hstart hreverse, List.append_nil, List.reverse_reverse]
  rw [trim, hs, List.append_assoc, hblanks hfront, hstart hw, hend]

/-! ### Words in upper case, joined by blanks -/

theorem IsWord.upper {w : List Char} (h : IsWord w) : IsWord (w.map Char.toUpper) := by
  refine ⟨fun he => h.ne_nil (List.map_eq_nil_iff.1 he), fun c hc => ?_⟩
  obtain ⟨d, hd, rfl⟩ := List.mem_map.1 hc
  rw [isBlank_toUpper, h.solid d hd]

theorem intercalate_cons_cons (v w : List Char) (ws : List (List Char)) :
    [' '].intercalate (v :: w :: ws) = v ++ ' ' :: [' '].intercalate (w :: ws) := by
  simp [List.intercalate]

theorem worded_intercalate {ws : List (List Char)} (h : ∀ w ∈ ws, IsWord w) :
    Worded ws ([' '].intercalate ws) := by
  induction ws with
  | nil => exact .nil
  | cons v ws ih =>
    rw [List.forall_mem_cons] at h
    cases ws with
    | nil =>
      have hv : Worded [v] (v ++ []) := .word h.1 (by simp) .nil
      simpa [List.intercalate] using hv
    | cons w ws =>
      rw [intercalate_cons_cons]
      exact .word h.1 (by simp; decide) (.blank (by decide) (ih h.2))

theorem map_toUpper_intercalate (ws : List (List Char)) :
    ([' '].intercalate ws).map Char.toUpper = [' '].intercalate (ws.map (List.map Char.toUpper)) := by
  induction ws with
  | nil => rfl
  | cons v ws ih =>
    cases ws with
    | nil => simp [List.intercalate]
    | cons w ws =>
      have hblank : ' '.toUpper = ' ' := by decide
      rw [intercalate_cons_cons, List.map_append, List.map_cons, ih, hblank, List.map_cons,
        List.map_cons, List.map_cons, intercalate_cons_cons]

/-- The words of a text, in upper case. -/
def upperRuns (s : List Char) : List (List Char) :=
  (runs s).map (List.map Char.toUpper)

theorem isWord_of_mem_upperRuns {s w : List Char} (h : w ∈ upperRuns s) : IsWord w := by
  obtain ⟨v, hv, rfl⟩ := List.mem_map.1 h
  exact ((runs_eq_iff.1 rfl).isWord v hv).upper

/-- A word without letters is all there is of a text if it is its one word. -/
theorem upperRuns_eq_singleton_iff {w s : List Char} (hw : IsWord w)
    (hletter : Letterless w) : upperRuns s = [w] ↔ Padded w s := by
  have hupper : w.map Char.toUpper = w :=
    (caseless_map_toUpper w).eq_of_letterless hletter
  rw [← worded_singleton_iff hw, ← runs_eq_iff, upperRuns]
  constructor
  · intro h
    obtain ⟨v, hv, hvw⟩ := List.map_eq_singleton_iff.1 h
    rw [← hupper, map_toUpper_eq_iff] at hvw
    rw [hv, hvw.eq_of_letterless hletter]
  · intro h
    rw [h, List.map_singleton, hupper]

theorem flatten_upperRuns (s : List Char) :
    (upperRuns s).flatten = (solid s).map Char.toUpper := by
  rw [(runs_eq_iff.1 rfl : Worded (runs s) s).solid_eq, upperRuns, List.map_flatten]

/-- The words of a text, in upper case and with one blank between them. -/
def folded (s : String) : String :=
  upper (String.intercalate " " (words s))

theorem toList_folded (s : String) :
    (folded s).toList = [' '].intercalate (upperRuns s.toList) := by
  have hblank : " ".toList = [' '] := rfl
  have hruns : (words s).map String.toList = runs s.toList := by
    simp [words_eq_runs, Function.comp_def]
  rw [folded, upper, String.toList_ofList, String.toList_intercalate, hblank, hruns,
    map_toUpper_intercalate, upperRuns]

/-- The folded text is cut where the text is cut. -/
theorem folded_eq_iff {s t : String} (ht : [' '].intercalate (runs t.toList) = t.toList) :
    folded s = t ↔ upperRuns s.toList = runs t.toList := by
  constructor
  · rintro rfl
    rw [toList_folded]
    exact (worded_intercalate fun w => isWord_of_mem_upperRuns).runs_eq.symm
  · intro h
    rw [← String.toList_inj, toList_folded, h, ht]

/-- The words of the texts are the same up to the case of letters. -/
def SameWords (s t : List Char) : Prop :=
  ∃ vs ws, Worded vs s ∧ Worded ws t ∧ List.Forall₂ Caseless vs ws

theorem sameWords_iff {s t : List Char} : SameWords s t ↔ upperRuns s = upperRuns t := by
  have hmap (vs ws : List (List Char)) :
      vs.map (List.map Char.toUpper) = ws.map (List.map Char.toUpper) ↔
        List.Forall₂ Caseless vs ws := by
    rw [← List.forall₂_eq_eq_eq, List.forall₂_map_left_iff, List.forall₂_map_right_iff]
    simp only [map_toUpper_eq_iff]
  rw [upperRuns, upperRuns, hmap]
  constructor
  · rintro ⟨vs, ws, hvs, hws, h⟩
    rwa [hvs.runs_eq, hws.runs_eq]
  · intro h
    exact ⟨_, _, runs_eq_iff.1 rfl, runs_eq_iff.1 rfl, h⟩

end FluentSql.Text
