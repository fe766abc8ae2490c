import FluentSql.Proofs.Query.Leading
import FluentSql.Proofs.Text.Caseless
import Mathlib.Data.List.DropRight

/-! What stripping leaves of a text. Taken turn by turn, the search for the first keyword ends after
at most one turn more than the text has characters, with a part of the text at its end that begins
with nothing to be stripped, `strip_bare`. Whether a statement reads or writes is told from that part
alone, and letters may have either case, `ofSql_strip`. -/

namespace FluentSql.Access

open Text (Caseless isBlank trimStart)

/-- Nothing at the front of the text can be stripped. -/
def Bare (s : List Char) : Prop :=
  s = [] ∨ ∃ c r, s = c :: r ∧ isBlank c = false ∧ c ≠ '(' ∧
    ¬ ['-', '-'] <+: s ∧ ¬ ['/', '*'] <+: s

theorem head_trimStart {s r : List Char} {c : Char} (h : trimStart s = c :: r) :
    isBlank c = false := by
  have hhead := List.head?_dropWhile_not isBlank s
  rw [← trimStart, h] at hhead
  simpa using hhead

theorem bare_trimStart {s : List Char} (hline : ∀ r, trimStart s = '-' :: '-' :: r → False)
    (hblock : ∀ r, trimStart s = '/' :: '*' :: r → False)
    (hparen : ∀ r, trimStart s = '(' :: r → False) : Bare (trimStart s) := by
  cases ht : trimStart s with
  | nil => exact .inl rfl
  | cons c r =>
    refine .inr ⟨c, r, rfl, head_trimStart ht, ?_, ?_, ?_⟩
    · rintro rfl
      exact hparen r ht
    · rintro ⟨q, hq⟩
      exact hline q (ht.trans hq.symm)
    · rintro ⟨q, hq⟩
      exact hblock q (ht.trans hq.symm)

theorem strip_of_bare {s : List Char} (h : Bare s) : strip s = s := by
  rcases h with rfl | ⟨c, r, rfl, hc, hparen, hline, hblock⟩
  · exact strip_eq []
  · have htrim : trimStart (c :: r) = c :: r :=
      List.dropWhile_cons_of_neg (by rw [hc]; decide)
    rw [strip_eq, htrim]
    split
    next q hq => exact absurd ⟨q, hq.symm⟩ hline
    next q hq => exact absurd ⟨q, hq.symm⟩ hblock
    next q hq => exact absurd (List.cons.inj hq).1 hparen
    next => rfl

/-! ### Turns -/

/-- The text behind the first place where a mark stands, if there is one. -/
def behind? (mark : List Char) : List Char → Option (List Char)
  | [] => none
  | c :: s => if mark <+: c :: s then some ((c :: s).drop mark.length) else behind? mark s

/-- What a turn comes to: the text for the next turn, or the result. -/
inductive Turn where
  | again (s : List Char)
  | done (s : List Char)

/-- The rest of a text goes on; without one the result is empty. -/
def Turn.ofRest : Option (List Char) → Turn
  | some r => .again r
  | none => .done []

/-- A turn drops white space, and then a comment or a parenthesis. It is the last one if it leaves
the text as it was, or if a comment has no end. -/
def turn (before : List Char) : Turn :=
  let s := trimStart before
  if ['-', '-'] <+: s then .ofRest (behind? ['\n'] s)
  else if ['/', '*'] <+: s then .ofRest (behind? ['*', '/'] s)
  else if ['('] <+: s then .again (s.drop 1)
  else if s = before then .done s
  else .again s

/-- The turns on a text end with a result, after so many of them. -/
inductive Ends : Nat → List Char → List Char → Prop where
  | done {s r : List Char} : turn s = .done r → Ends 1 s r
  | again {n : Nat} {s t r : List Char} : turn s = .again t → Ends n t r → Ends (n + 1) s r

theorem length_behind?_lt {mark s r : List Char} (hmark : mark ≠ [])
    (h : behind? mark s = some r) : r.length < s.length := by
  induction s with
  | nil => cases h
  | cons c s ih =>
    rw [behind?] at h
    split at h
    · cases h
      have := List.length_pos_of_ne_nil hmark
      simp only [List.length_drop, List.length_cons]
      omega
    · have := ih h
      rw [List.length_cons]
      omega

theorem getD_behind?_line (s : List Char) : (behind? ['\n'] s).getD [] = afterLine s := by
  induction s with
  | nil => rfl
  | cons c s ih =>
    by_cases hc : c = '\n'
    · simp [hc, behind?, afterLine]
    · rw [behind?, if_neg (by simpa [List.cons_prefix_cons, eq_comm] using hc), ih,
        afterLine.eq_3 _ _ hc]

theorem getD_behind?_comment (s : List Char) :
    (behind? ['*', '/'] s).getD [] = afterComment s := by
  induction s with
  | nil => rfl
  | cons c s ih =>
    by_cases hc : ['*', '/'] <+: c :: s
    · rw [behind?, if_pos hc]
      obtain ⟨r, hr⟩ := hc
      rw [← hr]
      rfl
    · rw [behind?, if_neg hc, ih, afterComment_cons hc]

theorem strip_nil : strip [] = [] :=
  strip_eq []

theorem strip_trimStart (s : List Char) : strip (trimStart s) = strip s := by
  have hidem : trimStart (trimStart s) = trimStart s := List.dropWhile_idempotent _ s
  rw [strip_eq, hidem, ← strip_eq]

/-- A turn on a text keeps what stripping leaves of it. -/
def Turn.Keeps (s : List Char) : Turn → Prop
  | .again t => strip t = strip s ∧ t.length < s.length
  | .done r => r = strip s

theorem Turn.keeps_ofRest {mark s : List Char} (hmark : mark ≠ [])
    (h : strip ((behind? mark s).getD []) = strip s) : (ofRest (behind? mark s)).Keeps s := by
  cases hr : behind? mark s with
  | none =>
    rw [hr] at h
    exact strip_nil.symm.trans h
  | some r =>
    rw [hr] at h
    exact ⟨h, length_behind?_lt hmark hr⟩

theorem Turn.Keeps.trimmed {x : Turn} {s : List Char} (h : x.Keeps (trimStart s)) :
    x.Keeps s := by
  have hlen := Text.length_trimStart_le s
  cases x with
  | again t => exact ⟨h.1.trans (strip_trimStart s), by have := h.2; omega⟩
  | done r => exact Eq.trans h (strip_trimStart s)

theorem turn_keeps (s : List Char) : (turn s).Keeps s := by
  rw [turn]
  split_ifs with hline hblock hparen hsame
  · refine (Turn.keeps_ofRest (by simp) ?_).trimmed
    obtain ⟨r, hr⟩ := hline
    rw [getD_behind?_line, ← hr]
    exact (strip_line r).symm
  · refine (Turn.keeps_ofRest (by simp) ?_).trimmed
    obtain ⟨r, hr⟩ := hblock
    rw [getD_behind?_comment, ← hr]
    exact (strip_block r).symm
  · refine Turn.Keeps.trimmed (x := .again _) ?_
    obtain ⟨r, hr⟩ := hparen
    rw [← hr]
    exact ⟨(strip_paren r).symm, by simp⟩
  · have hbare : Bare (trimStart s) := bare_trimStart (fun r hr => hline ⟨r, hr.symm⟩)
      (fun r hr => hblock ⟨r, hr.symm⟩) (fun r hr => hparen ⟨r, hr.symm⟩)
    exact (strip_of_bare hbare).symm.trans (strip_trimStart s)
  · -- white space was dropped, so the text has become shorter
    refine ⟨strip_trimStart s, lt_of_le_of_ne (Text.length_trimStart_le s) fun hlen => hsame ?_⟩
    exact (List.dropWhile_suffix _).eq_of_length hlen

theorem exists_ends (s : List Char) : ∃ n ≤ s.length + 1, Ends n s (strip s) := by
  have h := turn_keeps s
  cases ht : turn s with
  | done r =>
    rw [ht] at h
    exact ⟨1, by omega, .done (ht.trans (congrArg Turn.done h))⟩
  | again t =>
    rw [ht] at h
    obtain ⟨hstrip, hlen⟩ := h
    obtain ⟨n, hn, hends⟩ := exists_ends t
    rw [hstrip] at hends
    exact ⟨n + 1, by omega, .again ht hends⟩
termination_by s.length

/-! ### What is left -/

theorem afterLine_suffix (s : List Char) : afterLine s <:+ s := by
  fun_induction afterLine s with
  | case1 => exact List.suffix_rfl
  | case2 s => exact List.suffix_cons _ _
  | case3 c s _ ih => exact ih.trans (List.suffix_cons _ _)

theorem afterComment_suffix (s : List Char) : afterComment s <:+ s := by
  fun_induction afterComment s with
  | case1 => exact List.suffix_rfl
  | case2 s => exact (List.suffix_cons _ _).trans (List.suffix_cons _ _)
  | case3 c s _ ih => exact ih.trans (List.suffix_cons _ _)

theorem trimStart_suffix (s : List Char) : trimStart s <:+ s :=
  List.dropWhile_suffix _

theorem strip_suffix (s : List Char) : strip s <:+ s := by
  fun_induction strip s with
  | case1 s r h ih =>
    have hr : r <:+ '-' :: '-' :: r := (List.suffix_cons _ _).trans (List.suffix_cons _ _)
    have hs := trimStart_suffix s
    rw [h] at hs
    exact (ih.trans (afterLine_suffix r)).trans (hr.trans hs)
  | case2 s r h ih =>
    have hs := trimStart_suffix s
    rw [h] at hs
    exact (ih.trans (afterComment_suffix _)).trans ((List.suffix_cons _ _).trans hs)
  | case3 s r h ih =>
    have hs := trimStart_suffix s
    rw [h] at hs
    exact ih.trans ((List.suffix_cons _ _).trans hs)
  | case4 s hline hblock hparen => exact trimStart_suffix s

theorem strip_bare (s : List Char) : Bare (strip s) := by
  fun_induction strip s with
  | case1 s r h ih => exact ih
  | case2 s r h ih => exact ih
  | case3 s r h ih => exact ih
  | case4 s hline hblock hparen => exact bare_trimStart hline hblock hparen

theorem strip_strip (s : List Char) : strip (strip s) = strip s :=
  strip_of_bare (strip_bare s)

/-! ### Letters in either case -/

theorem toUpper_eq_iff_of_not_isAlpha {c d : Char} (hd : d.isAlpha = false) :
    c.toUpper = d ↔ c = d := by
  have hupper : d.toUpper = d := (Text.sameLetter_toUpper d).eq_of_not_isAlpha hd
  constructor
  · intro h
    rw [← hupper, Text.toUpper_eq_iff] at h
    exact h.eq_of_not_isAlpha hd
  · rintro rfl
    exact hupper

theorem prefix_map_toUpper {mark s : List Char} (h : Text.Letterless mark) :
    mark <+: s.map Char.toUpper ↔ mark <+: s := by
  induction mark generalizing s with
  | nil => simp
  | cons d mark ih =>
    rw [Text.Letterless, List.forall_mem_cons] at h
    cases s with
    | nil => simp
    | cons c s =>
      rw [List.map_cons, List.cons_prefix_cons, List.cons_prefix_cons, ih h.2, eq_comm,
        toUpper_eq_iff_of_not_isAlpha h.1, eq_comm]

theorem behind?_map_toUpper {mark : List Char} (h : Text.Letterless mark)
    (s : List Char) :
    behind? mark (s.map Char.toUpper) = (behind? mark s).map (List.map Char.toUpper) := by
  induction s with
  | nil => rfl
  | cons c s ih =>
    have hstarts := prefix_map_toUpper (s := c :: s) h
    rw [List.map_cons] at hstarts ⊢
    by_cases hm : mark <+: c :: s
    · rw [behind?, if_pos (hstarts.2 hm), behind?, if_pos hm, ← List.map_cons, ← List.map_drop,
        Option.map_some]
    · rw [behind?, if_neg (mt hstarts.1 hm), behind?, if_neg hm, ih]

theorem afterLine_map_toUpper (s : List Char) :
    afterLine (s.map Char.toUpper) = (afterLine s).map Char.toUpper := by
  rw [← getD_behind?_line, ← getD_behind?_line, behind?_map_toUpper (by decide)]
  cases behind? ['\n'] s <;> rfl

theorem afterComment_map_toUpper (s : List Char) :
    afterComment (s.map Char.toUpper) = (afterComment s).map Char.toUpper := by
  rw [← getD_behind?_comment, ← getD_behind?_comment, behind?_map_toUpper (by decide)]
  cases behind? ['*', '/'] s <;> rfl

theorem trimStart_map_toUpper (s : List Char) :
    trimStart (s.map Char.toUpper) = (trimStart s).map Char.toUpper := by
  have hblank : isBlank ∘ Char.toUpper = isBlank := funext Text.isBlank_toUpper
  rw [trimStart, List.dropWhile_map, hblank, trimStart]

theorem Bare.upper {s : List Char} (h : Bare s) : Bare (s.map Char.toUpper) := by
  rcases h with rfl | ⟨c, r, rfl, hc, hparen, hline, hblock⟩
  · exact .inl rfl
  · refine .inr ⟨c.toUpper, r.map Char.toUpper, rfl, ?_, ?_, ?_, ?_⟩
    · rw [Text.isBlank_toUpper, hc]
    · exact fun hp => hparen ((toUpper_eq_iff_of_not_isAlpha (by decide)).1 hp)
    · rwa [prefix_map_toUpper (by decide)]
    · rwa [prefix_map_toUpper (by decide)]

theorem strip_map_toUpper (s : List Char) :
    strip (s.map Char.toUpper) = (strip s).map Char.toUpper := by
  have htrim (s : List Char) :
      strip (s.map Char.toUpper) = strip ((trimStart s).map Char.toUpper) := by
    rw [← strip_trimStart, trimStart_map_toUpper]
  fun_induction strip s with
  | case1 s r h ih =>
    have hmap : ('-' :: '-' :: r).map Char.toUpper = '-' :: '-' :: r.map Char.toUpper := rfl
    rw [htrim, h, hmap, strip_line, afterLine_map_toUpper, ih]
  | case2 s r h ih =>
    have hmap : ('/' :: '*' :: r).map Char.toUpper = '/' :: '*' :: r.map Char.toUpper := rfl
    have hstar : '*' :: r.map Char.toUpper = ('*' :: r).map Char.toUpper := rfl
    rw [htrim, h, hmap, strip_block, hstar, afterComment_map_toUpper, ih]
  | case3 s r h ih =>
    have hmap : ('(' :: r).map Char.toUpper = '(' :: r.map Char.toUpper := rfl
    rw [htrim, h, hmap, strip_paren, ih]
  | case4 s hline hblock hparen =>
    rw [htrim]
    exact strip_of_bare (bare_trimStart hline hblock hparen).upper

theorem isNameChar_toUpper (c : Char) : isNameChar c.toUpper = isNameChar c := by
  rcases Text.sameLetter_toUpper c with h | ⟨hupper, hc, -⟩
  · rw [h]
  · simp only [isNameChar, Char.isAlphanum, hupper, hc, Bool.true_or]

theorem startsWith_map_toUpper (word s : List Char) :
    startsWith word (s.map Char.toUpper) = startsWith word s := by
  have hupper (t : List Char) : (t.map Char.toUpper).map Char.toUpper = t.map Char.toUpper :=
    Text.map_toUpper_eq_iff.2 (Text.caseless_map_toUpper t)
  have hdrop : Text.dropCaseless? word (s.map Char.toUpper) =
      (Text.dropCaseless? word s).map (List.map Char.toUpper) := by
    rw [Text.dropCaseless?, Text.dropCaseless?, ← List.map_take, hupper, ← List.map_drop]
    split <;> rfl
  rw [startsWith, startsWith, hdrop]
  rcases Text.dropCaseless? word s with _ | _ | ⟨c, r⟩
  · rfl
  · rfl
  · exact congrArg not (isNameChar_toUpper c)

theorem ofSql_upper (sql : String) : ofSql (Text.upper sql) = ofSql sql := by
  simp only [ofSql, Text.upper, String.toList_ofList, strip_map_toUpper, startsWith_map_toUpper]

/-! ### What decides -/

/-- Stripping a text comes to an end, with a part of the text at its end of which nothing can be
stripped. That part alone tells whether the statement reads or writes, and the case of letters does
not matter. -/
theorem ofSql_strip (sql : String) :
    ((∃ n ≤ sql.toList.length + 1, Ends n sql.toList (strip sql.toList)) ∧
      strip sql.toList <:+ sql.toList ∧ Bare (strip sql.toList) ∧
      strip (strip sql.toList) = strip sql.toList) ∧
      ofSql sql = ofSql (String.ofList (strip sql.toList)) ∧
      ∀ t : String, Caseless t.toList sql.toList → ofSql t = ofSql sql := by
  refine ⟨⟨exists_ends _, strip_suffix _, strip_bare _, strip_strip _⟩, ?_, fun t ht => ?_⟩
  · refine ofSql_eq_of_strip_eq ?_
    rw [String.toList_ofList, strip_strip]
  · have hupper : Text.upper t = Text.upper sql :=
      congrArg String.ofList (Text.map_toUpper_eq_iff.2 ht)
    rw [← ofSql_upper t, hupper, ofSql_upper]

theorem ofSql_strip_lower_case :
    let upper := "(/*-- */\t--\n(SELECT 1)"
    let lower := "(/*-- */\t--\n(select 1)"
    Caseless lower.toList upper.toList ∧ ofSql lower = ofSql upper := by
  intro upper lower
  have hcase : Caseless lower.toList upper.toList := Text.map_toUpper_eq_iff.1 (by decide)
  exact ⟨hcase, (ofSql_strip upper).2.2 lower hcase⟩

end FluentSql.Access
