import FluentSql.Query.Access

/-! What may stand before a statement: white space, opening parentheses and comments, in any order.
Such a text does not decide whether the statement reads or writes, `ofSql_append_of_leading`, as
long as no block comment goes on with a slash behind its opening. The end of a block comment is
looked for from the star of its opening on, so that `/*/` is a whole comment, and what was meant to
be commented out decides, `leading_comment_decides`. -/

namespace FluentSql.Access

/-- The text is made of white space, opening parentheses, comments up to the end of their line, and
block comments that end with the first `*/` behind their opening. `body` says which texts a block
comment may hold. -/
inductive Leading (body : List Char → Prop) : List Char → Prop where
  | nil : Leading body []
  | blank {c : Char} {p : List Char} : Text.isBlank c → Leading body p → Leading body (c :: p)
  | paren {p : List Char} : Leading body p → Leading body ('(' :: p)
  | line {t p : List Char} : '\n' ∉ t → Leading body p →
      Leading body ('-' :: '-' :: (t ++ '\n' :: p))
  | block {t p : List Char} : ¬ ['*', '/'] <:+: t → body t → Leading body p →
      Leading body ('/' :: '*' :: (t ++ '*' :: '/' :: p))

/-- The text does not begin with a slash. -/
abbrev Unslashed (t : List Char) : Prop :=
  t.head? ≠ some '/'

/-! ### The ends of comments -/

theorem afterLine_append {t : List Char} (h : '\n' ∉ t) (s : List Char) :
    afterLine (t ++ '\n' :: s) = s := by
  induction t with
  | nil => rfl
  | cons c t ih =>
    obtain ⟨hc, ht⟩ := List.ne_and_not_mem_of_not_mem_cons h
    rw [List.cons_append, afterLine.eq_3 _ _ (Ne.symm hc), ih ht]

/-- A character that does not begin a `*/` does not end a comment. -/
theorem afterComment_cons {c : Char} {s : List Char} (h : ¬ ['*', '/'] <+: c :: s) :
    afterComment (c :: s) = afterComment s := by
  refine afterComment.eq_3 c s ?_
  rintro r rfl rfl
  exact h ⟨r, rfl⟩

theorem afterComment_append {t : List Char} (h : ¬ ['*', '/'] <:+: t) (s : List Char) :
    afterComment (t ++ '*' :: '/' :: s) = s := by
  induction t with
  | nil => rfl
  | cons c t ih =>
    have ht : ¬ ['*', '/'] <:+: t := fun hi => h (List.infix_cons hi)
    rw [List.cons_append, afterComment_cons, ih ht]
    -- Either the two characters stand in `t`, or the second one is the star of the end.
    intro hp
    cases t with
    | nil => simp [List.cons_prefix_cons] at hp
    | cons d t =>
      simp only [List.cons_append, List.cons_prefix_cons] at hp
      obtain ⟨rfl, rfl, -⟩ := hp
      exact h ⟨[], t, rfl⟩

/-! ### Stripping a text piece by piece -/

theorem strip_eq (cs : List Char) :
    strip cs = match Text.trimStart cs with
      | '-' :: '-' :: r => strip (afterLine r)
      | '/' :: '*' :: r => strip (afterComment ('*' :: r))
      | '(' :: r => strip r
      | s => s := by
  rw [strip]
  split <;> simp_all

theorem strip_blank {c : Char} (h : Text.isBlank c) (s : List Char) :
    strip (c :: s) = strip s := by
  rw [strip_eq, strip_eq s, Text.trimStart, List.dropWhile_cons_of_pos h, ← Text.trimStart]

theorem strip_paren (s : List Char) : strip ('(' :: s) = strip s :=
  strip_eq _

theorem strip_line (s : List Char) : strip ('-' :: '-' :: s) = strip (afterLine s) :=
  strip_eq _

theorem strip_block (s : List Char) :
    strip ('/' :: '*' :: s) = strip (afterComment ('*' :: s)) :=
  strip_eq _

/-- A block comment that does not go on with a slash is dropped as a whole. -/
theorem strip_block_append {t : List Char} (h : ¬ ['*', '/'] <:+: t) (hs : Unslashed t)
    (s : List Char) : strip ('/' :: '*' :: (t ++ '*' :: '/' :: s)) = strip s := by
  rw [strip_block, afterComment_cons, afterComment_append h]
  cases t with
  | nil => simp [List.cons_prefix_cons]
  | cons c t => simpa [Unslashed, List.cons_prefix_cons, eq_comm] using hs

/-- `/*/` is dropped alone. -/
theorem strip_slashed (s : List Char) : strip ('/' :: '*' :: '/' :: s) = strip s :=
  strip_block _

theorem strip_append_of_leading {p : List Char} (h : Leading Unslashed p)
    (s : List Char) : strip (p ++ s) = strip s := by
  induction h with
  | nil => rfl
  | blank hc _ ih => rw [List.cons_append, strip_blank hc, ih]
  | paren _ ih => rw [List.cons_append, strip_paren, ih]
  | line ht _ ih =>
    rw [List.cons_append, List.cons_append, List.append_assoc, List.cons_append, strip_line,
      afterLine_append ht, ih]
  | block ht hs _ ih =>
    rw [List.cons_append, List.cons_append, List.append_assoc, List.cons_append, List.cons_append,
      strip_block_append ht hs, ih]

/-! ### Reading and writing -/

theorem ofSql_eq_of_strip_eq {a b : String} (h : strip a.toList = strip b.toList) :
    ofSql a = ofSql b := by
  rw [ofSql, ofSql, h]

/-- White space, opening parentheses and comments before a statement do not decide whether it reads
or writes, if no block comment among them goes on with a slash behind its opening. Of a block
comment that does, the text behind that slash counts as if there were no comment. -/
theorem ofSql_append_of_leading (s : String) :
    (∀ p : String, Leading Unslashed p.toList → ofSql (p ++ s) = ofSql s) ∧
      ofSql ("/*/" ++ s) = ofSql s := by
  constructor
  · intro p hp
    refine ofSql_eq_of_strip_eq ?_
    rw [String.toList_append, strip_append_of_leading hp]
  · refine ofSql_eq_of_strip_eq ?_
    rw [String.toList_append]
    exact strip_slashed _

theorem ofSql_append_of_leading_mixed :
    let p := " --SELECT\n(/*(- */\t/**/"
    Leading Unslashed p.toList ∧ ofSql (p ++ "DELETE FROM t") = ofSql "DELETE FROM t" := by
  intro p
  have hp : p.toList = [' ', '-', '-', 'S', 'E', 'L', 'E', 'C', 'T', '\n', '(', '/', '*', '(', '-',
    ' ', '*', '/', '\t', '/', '*', '*', '/'] := by simp [p]
  have h : Leading Unslashed p.toList := by
    rw [hp]
    refine .blank rfl (.line (t := ['S', 'E', 'L', 'E', 'C', 'T']) (by decide) (.paren ?_))
    refine .block (t := ['(', '-', ' ']) (by decide) (by decide) (.blank rfl ?_)
    exact .block (t := []) (by decide) (by decide) .nil
  exact ⟨h, (ofSql_append_of_leading "DELETE FROM t").1 p h⟩

/-- A keyword in a comment makes a deletion count as a read. -/
theorem leading_comment_decides :
    Leading (fun _ => True) "/*/SELECT*/".toList ∧
      ofSql ("/*/SELECT*/" ++ "DELETE FROM users") = .read ∧
        ofSql "DELETE FROM users" = .write := by
  refine ⟨.block (t := ['/', 'S', 'E', 'L', 'E', 'C', 'T']) (by decide) trivial .nil, ?_, ?_⟩
  · have h : strip ("/*/SELECT*/" ++ "DELETE FROM users").toList =
        "SELECT*/DELETE FROM users".toList := by
      rw [String.toList_append]
      exact (strip_slashed _).trans (strip_eq _)
    simp only [ofSql, h]
    rfl
  · have h : strip "DELETE FROM users".toList = "DELETE FROM users".toList := strip_eq _
    simp only [ofSql, h]
    rfl

end FluentSql.Access
