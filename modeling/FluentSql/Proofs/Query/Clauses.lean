import FluentSql.Proofs.Query.Legible
import FluentSql.Proofs.Query.WellFormed

/-! The clauses of a statement, read back. Each is led by a keyword of its own, so that it can be
told whether it was left out, `Clausal.optional`; clauses in a fixed order are read one after the
other, `Clausal.append`. Conditions are told from each other by their combinators, and the word
between two bounds is read as part of the operand. -/

namespace FluentSql

namespace Symbol

open Writer (symbols text_append)

variable {α β γ δ : Type}

/-! ### Keywords -/

/-- A keyword with the blanks around it. -/
def lead (keyword : String) : List Symbol :=
  symbols.text (" " ++ keyword ++ " ")

/-- Nothing, or something that one of the keywords leads. -/
def Led (keywords : List String) (xs : List Symbol) : Prop :=
  xs = [] ∨ ∃ k ∈ keywords, ∃ ys, xs = lead k ++ ys

theorem blank_lead (k : String) (xs : List Symbol) : Blank (lead k ++ xs) := by
  rw [lead, String.append_assoc]
  exact blank_text _ xs

theorem lead_append_ne {k l : String} (h : Apart k l) (xs ys : List Symbol) :
    lead k ++ xs ≠ lead l ++ ys := by
  intro he
  simp only [lead, text_append, List.append_assoc] at he
  exact text_append_ne h (blank_text "" xs) (blank_text "" ys) (List.append_cancel_left he)

namespace Led

variable {keywords : List String}

theorem nil : Led keywords [] := .inl rfl

theorem lead {k : String} (hk : k ∈ keywords) (xs : List Symbol) :
    Led keywords (lead k ++ xs) :=
  .inr ⟨k, hk, xs, rfl⟩

theorem mono {others : List String} (hs : keywords ⊆ others) {xs : List Symbol}
    (h : Led keywords xs) : Led others xs :=
  h.imp_right fun ⟨k, hk, hx⟩ => ⟨k, hs hk, hx⟩

theorem blank {xs : List Symbol} (h : Led keywords xs) : Blank xs := by
  rcases h with rfl | ⟨k, -, ys, rfl⟩
  · exact starts_nil
  · exact blank_lead k ys

theorem not_lead {k : String} (hk : ∀ l ∈ keywords, Apart k l) (xs : List Symbol) :
    ¬ Led keywords (Symbol.lead k ++ xs) := by
  rintro (h | ⟨l, hl, ys, h⟩)
  · simp [Symbol.lead, symbols] at h
  · exact lead_append_ne (hk l hl) xs ys h

end Led

/-- Keywords that are apart are legible. -/
theorem Legible.lead {g : β → String} (hg : ∀ x y, x = y ∨ Apart (g x) (g y)) :
    Legible (fun _ => True) (fun _ => True) id fun x => lead (g x) := by
  intro x y _ _ xs ys _ _ h
  rcases hg x y with rfl | hxy
  · exact ⟨rfl, List.append_cancel_left h⟩
  · exact absurd h (lead_append_ne hxy xs ys)

/-! ### Clauses in order -/

/-- Clauses that are legible in front of the keywords `after`, and that together with what stands
behind them are led by the keywords `before`. -/
structure Clausal (ok : β → Prop) (before after : List String) (norm : β → γ)
    (f : β → List Symbol) : Prop where
  led : ∀ x xs, Led after xs → Led before (f x ++ xs)
  legible : Legible ok (Led after) norm f

namespace Clausal

variable {ok : β → Prop} {before between after : List String} {norm : β → γ} {norm' : β → δ}
  {f g : β → List Symbol}

theorem append (hf : Clausal ok before between norm f) (hg : Clausal ok between after norm' g) :
    Clausal ok before after (fun x => (norm x, norm' x)) fun x => f x ++ g x where
  led x xs h := by
    rw [List.append_assoc]
    exact hf.led x _ (hg.led x xs h)
  legible x y hx hy xs ys hxs hys h := by
    rw [List.append_assoc, List.append_assoc] at h
    obtain ⟨hn, h⟩ := hf.legible hx hy (hg.led x xs hxs) (hg.led y ys hys) h
    obtain ⟨hn', h⟩ := hg.legible hx hy hxs hys h
    exact ⟨Prod.ext hn hn', h⟩

/-- The clause of a part of something larger. -/
theorem of {ok' : α → Prop} (hf : Clausal ok before after norm f) (part : α → β)
    (hok : ∀ a, ok' a → ok (part a)) :
    Clausal ok' before after (fun a => norm (part a)) fun a => f (part a) where
  led a := hf.led (part a)
  legible _ _ ha hb _ _ hxs hys h := hf.legible (hok _ ha) (hok _ hb) hxs hys h

/-- A clause that is left out if there is nothing to say. -/
theorem optional {k : String} {absent : β → Bool} (hk : ∀ l ∈ after, Apart k l)
    (hf : Legible (fun x => absent x = false ∧ ok x) (Led after) norm f)
    (hn : ∀ x y, absent x = true → absent y = true → norm x = norm y) :
    Clausal ok (k :: after) after norm fun x => if absent x then [] else lead k ++ f x where
  led x xs h := by
    cases absent x with
    | true => exact h.mono (List.subset_cons_self k after)
    | false =>
      rw [if_neg Bool.false_ne_true, List.append_assoc]
      exact .lead List.mem_cons_self _
  legible x y hx hy xs ys hxs hys h := by
    cases ax : absent x <;> cases ay : absent y <;>
      simp only [ax, ay, if_true, Bool.false_eq_true, if_false, List.nil_append,
        List.append_assoc] at h
    · exact hf ⟨ax, hx⟩ ⟨ay, hy⟩ hxs hys (List.append_cancel_left h)
    · subst h
      exact absurd hys (Led.not_lead hk _)
    · subst h
      exact absurd hxs (Led.not_lead hk _)
    · exact ⟨hn x y ax ay, h⟩

end Clausal

end Symbol

/-! ### Parts that can be read -/

/-- A column with a plain name, and an operand that its operator takes. -/
structure Condition.Readable (c : Condition) : Prop where
  column : Plain c.column
  wellFormed : c.WellFormed

structure Join.Readable (j : Join) : Prop where
  table : Plain j.table
  left : Plain j.left
  right : Plain j.right

theorem Operator.eq_or_apart (o p : Operator) : o = p ∨ Symbol.Apart o.sql p.sql := by
  cases o <;> cases p <;> decide

theorem Combinator.eq_or_apart (a b : Combinator) : a = b ∨ Symbol.Apart a.sql b.sql := by
  cases a <;> cases b <;> decide

theorem JoinKind.eq_or_apart (a b : JoinKind) :
    a = b ∨ Symbol.Apart (a.sql ++ " JOIN") (b.sql ++ " JOIN") := by
  cases a <;> cases b <;> decide

namespace Symbol

open Writer (symbols text_append)

/-! ### Conditions -/

/-- What an operand is looked for among is read as a list. -/
theorem Legible.members : Legible (fun _ => True) Stops Value.members symbols.members := by
  -- the text for no value is none of a value
  have empty {b : Value} {bs : List Value} {xs ys : List Symbol} :
      symbols.members (.list []) ++ xs ≠ symbols.members (.list (b :: bs)) ++ ys := by
    intro h
    have h' := congrArg List.head? h
    simp only [Writer.members, List.map_cons, Writer.commas_cons] at h'
    cases h'
  intro v w _ _ xs ys hxs hys h
  rw [← symbols.members_list_members v, ← symbols.members_list_members w] at h
  cases hv : v.members with
  | nil =>
    cases hw : w.members with
    | nil =>
      rw [hv, hw] at h
      exact ⟨rfl, List.append_cancel_left h⟩
    | cons b bs => exact absurd (hv ▸ hw ▸ h) empty
  | cons a as =>
    cases hw : w.members with
    | nil => exact absurd (hv ▸ hw ▸ h).symm empty
    | cons b bs =>
      rw [hv, hw] at h
      exact Legible.values (List.cons_ne_nil a as) (List.cons_ne_nil b bs) hxs hys h

theorem Legible.operand {o : Operator} (ho : o.isUnary = false) :
    Legible o.Takes (fun _ => True) (fun v => o.normal (some v)) (symbols.operand o) := by
  have close (xs : List Symbol) : Stops (symbols.text ")" ++ xs) :=
    starts_text rfl (by decide) xs
  have plain : Legible (fun _ => True) (fun _ => True) some fun v =>
      symbols.text " " ++ symbols.value v := by
    intro v w _ _ xs ys _ _ h
    rw [List.append_assoc, List.append_assoc] at h
    obtain ⟨rfl, hr⟩ := value_append_inj (List.append_cancel_left h)
    exact ⟨rfl, hr⟩
  intro v w hv hw xs ys hxs hys h
  cases o with
  | isNull | isNotNull => cases ho
  | isIn | notIn =>
    simp only [Writer.operand, List.append_assoc] at h
    obtain ⟨hm, h⟩ := Legible.members (x := v) (y := w) trivial trivial (close _) (close _)
      (List.append_cancel_left h)
    exact ⟨congrArg (some ∘ Value.list) hm, List.append_cancel_left h⟩
  | between =>
    obtain ⟨a, b, rfl, -⟩ := hv
    obtain ⟨c, d, rfl, -⟩ := hw
    simp only [Writer.operand, List.append_assoc] at h
    obtain ⟨rfl, hb⟩ := value_append_inj (List.append_cancel_left h)
    obtain ⟨rfl, hr⟩ := value_append_inj (List.append_cancel_left hb)
    exact ⟨rfl, hr⟩
  | _ => exact plain trivial trivial hxs hys h

/-- What stands behind the operator of a condition. -/
def rest (o : Operator) (v : Option Value) : List Symbol :=
  if o.isUnary then [] else (v.map (symbols.operand o)).getD []

theorem rest_of_isUnary {o : Operator} (h : o.isUnary = true) (v : Option Value) : rest o v = [] :=
  if_pos h

theorem rest_some {o : Operator} (h : o.isUnary = false) (v : Value) :
    rest o (some v) = symbols.operand o v :=
  if_neg (Bool.eq_false_iff.1 h)

theorem blank_operand (o : Operator) (v : Value) (xs : List Symbol) :
    Blank (symbols.operand o v ++ xs) := by
  fun_cases Writer.operand symbols o v <;> simp only [List.append_assoc]
  · exact blank_text "(" _
  · exact blank_text "(" _
  · exact blank_text "" _
  · exact blank_text "" _

theorem blank_rest {o : Operator} {v : Option Value} {xs : List Symbol}
    (hv : o.isUnary = true ∨ ∃ w, v = some w ∧ o.Takes w) (hxs : Blank xs) :
    Blank (rest o v ++ xs) := by
  cases ho : o.isUnary with
  | true =>
    rw [rest_of_isUnary ho]
    exact hxs
  | false =>
    obtain ⟨w, rfl, -⟩ := hv.resolve_left (by simp [ho])
    rw [rest_some ho]
    exact blank_operand o w xs

theorem Legible.rest (o : Operator) :
    Legible (fun v => o.isUnary = true ∨ ∃ w, v = some w ∧ o.Takes w) (fun _ => True) o.normal
      (Symbol.rest o) := by
  intro v w hv hw xs ys hxs hys h
  cases ho : o.isUnary with
  | true =>
    rw [rest_of_isUnary ho, rest_of_isUnary ho] at h
    exact ⟨by rw [o.normal_of_isUnary ho, o.normal_of_isUnary ho], h⟩
  | false =>
    obtain ⟨v, rfl, tv⟩ := hv.resolve_left (by simp [ho])
    obtain ⟨w, rfl, tw⟩ := hw.resolve_left (by simp [ho])
    rw [rest_some ho, rest_some ho] at h
    exact Legible.operand ho tv tw hxs hys h

theorem Legible.condition :
    Legible Condition.Readable Blank Condition.leading symbols.condition := by
  rintro ⟨s, o, v, k⟩ ⟨t, p, w, l⟩ ⟨hs, hv⟩ ⟨ht, hw⟩ xs ys hxs hys h
  change symbols.text (s ++ " " ++ o.sql) ++ Symbol.rest o v ++ xs =
    symbols.text (t ++ " " ++ p.sql) ++ Symbol.rest p w ++ ys at h
  simp only [text_append, List.append_assoc] at h
  obtain ⟨rfl, ho⟩ : s = t ∧ _ :=
    Legible.name hs ht (blank_text "" _).ends (blank_text "" _).ends h
  obtain ⟨rfl, hr⟩ : o = p ∧ _ := Legible.word Operator.eq_or_apart trivial trivial
    (blank_rest hv hxs) (blank_rest hw hys) (List.append_cancel_left ho)
  obtain ⟨hn, hr⟩ := Legible.rest o hv hw trivial trivial hr
  exact ⟨by simp only [Condition.leading, Condition.normal, hn], hr⟩

/-- A further condition of a list, behind its combinator. -/
def further (c : Condition) : List Symbol :=
  lead c.combinator.sql ++ symbols.condition c

theorem Legible.further :
    Legible Condition.Readable Blank Condition.normal Symbol.further := by
  intro c d hc hd xs ys hxs hys h
  rw [Symbol.further, List.append_assoc, Symbol.further, List.append_assoc] at h
  obtain ⟨hk : c.combinator = d.combinator, h⟩ :=
    Legible.lead Combinator.eq_or_apart trivial trivial trivial trivial h
  obtain ⟨hn, h⟩ := Legible.condition hc hd hxs hys h
  refine ⟨?_, h⟩
  calc
    c.normal = { c.leading with combinator := c.combinator } := rfl
    _ = { d.leading with combinator := d.combinator } := by rw [hn, hk]

/-- Conditions without the keyword in front of them. -/
def predicates : List Condition → List Symbol
  | [] => []
  | c :: cs => symbols.condition c ++ cs.flatMap further

theorem Legible.predicates {keywords : List String}
    (hk : ∀ l ∈ keywords, Apart "AND" l ∧ Apart "OR" l) :
    Legible (fun cs => cs.isEmpty = false ∧ ∀ c ∈ cs, c.Readable) (Led keywords)
      Condition.normalList Symbol.predicates := by
  have apart (k : Combinator) : ∀ l ∈ keywords, Apart k.sql l := by
    intro l hl
    cases k with
    | and => exact (hk l hl).1
    | or => exact (hk l hl).2
  have more := Legible.further.flatMap 
    (fun c xs _ => by rw [Symbol.further, List.append_assoc]; exact blank_lead _ _)
    (fun _ => Led.blank)
    (fun c xs _ => by rw [Symbol.further, List.append_assoc]; exact Led.not_lead (apart _) _)
  have blank {cs : List Condition} {xs : List Symbol} (hxs : Led keywords xs) :
      Blank (cs.flatMap Symbol.further ++ xs) := by
    cases cs with
    | nil => exact hxs.blank
    | cons c cs =>
      rw [List.flatMap_cons, Symbol.further, List.append_assoc, List.append_assoc]
      exact blank_lead _ _
  rintro (_ | ⟨c, cs⟩) (_ | ⟨d, ds⟩) ⟨hcn, hc⟩ ⟨hdn, hd⟩ xs ys hxs hys h
  · cases hcn
  · cases hcn
  · cases hdn
  · rw [List.forall_mem_cons] at hc hd
    rw [Symbol.predicates, List.append_assoc, Symbol.predicates, List.append_assoc] at h
    obtain ⟨hn, h⟩ := Legible.condition hc.1 hd.1 (blank hxs) (blank hys) h
    obtain ⟨hns, h⟩ := more hc.2 hd.2 hxs hys h
    exact ⟨congrArg₂ List.cons hn hns, h⟩

/-! ### Clauses -/

namespace Clausal

variable {β γ : Type} {ok : β → Prop} {norm : β → γ} {k : String} {after : List String}

theorem conditions (hk : ∀ l ∈ after, Apart k l)
    (hc : ∀ l ∈ after, Apart "AND" l ∧ Apart "OR" l) :
    Clausal (fun cs => ∀ c ∈ cs, c.Readable) (k :: after) after Condition.normalList
      (symbols.conditions k) := by
  have written : symbols.conditions k =
      fun cs => if cs.isEmpty then [] else lead k ++ predicates cs := by
    funext cs
    cases cs with
    | nil => rfl
    | cons c cs => exact List.append_assoc _ _ _
  rw [written]
  refine .optional hk (.predicates hc) fun cs ds hcs hds => ?_
  rw [List.isEmpty_iff.1 hcs, List.isEmpty_iff.1 hds]

theorem list {g : β → String} (hk : ∀ l ∈ after, Apart k l)
    (hg : Legible ok Ends norm fun x => symbols.text (g x)) :
    Clausal (fun xs => ∀ x ∈ xs, ok x) (k :: after) after (List.map norm) fun xs =>
      symbols.listClause k (xs.map g) := by
  have written (xs : List β) : symbols.listClause k (xs.map g) =
      if xs.isEmpty then [] else lead k ++ symbols.commas (xs.map fun x => symbols.text (g x)) := by
    rw [Writer.listClause, List.isEmpty_map, text_append, Writer.text_intercalate, List.map_map]
    rfl
  simp only [written]
  refine .optional hk (hg.commas.mono ?_ fun _ h => h.blank.stops) fun xs ys hxs hys => ?_
  · exact fun xs ⟨hne, h⟩ => ⟨List.isEmpty_eq_false_iff.1 hne, h⟩
  · rw [List.isEmpty_iff.1 hxs, List.isEmpty_iff.1 hys]

theorem number (hk : ∀ l ∈ after, Apart k l) :
    Clausal (fun _ => True) (k :: after) after id (symbols.numberClause k) := by
  have written : symbols.numberClause k =
      fun n => if n.isNone then [] else lead k ++ symbols.text (toString (n.getD 0).toNat) := by
    funext n
    cases n with
    | none => rfl
    | some n => exact text_append _ _
  rw [written]
  refine .optional hk ?_ fun m n hm hn => ?_
  · rintro (_ | m) (_ | n) ⟨hm, -⟩ ⟨hn, -⟩ xs ys hxs hys h
    · cases hm
    · cases hm
    · cases hn
    · obtain ⟨hn, h⟩ :=
        Legible.number trivial trivial hxs.blank.ends hys.blank.ends h
      exact ⟨congrArg some hn, h⟩
  · rw [Option.isNone_iff_eq_none.1 hm, Option.isNone_iff_eq_none.1 hn]

end Clausal

theorem Legible.sortTerm : Legible (fun t => Plain t.column) Ends id fun t : SortTerm =>
    symbols.text (t.column ++ " " ++ t.direction.sql) := by
  have direction (d : Direction) : Plain d.sql := by cases d <;> decide
  rintro ⟨c, d⟩ ⟨c', d'⟩ hc hc' xs ys hxs hys h
  simp only [text_append, List.append_assoc] at h
  obtain ⟨rfl, hd⟩ : c = c' ∧ _ :=
    Legible.name hc hc' (blank_text "" _).ends (blank_text "" _).ends h
  obtain ⟨hs, hr⟩ :=
    Legible.name (direction d) (direction d') hxs hys (List.append_cancel_left hd)
  obtain rfl : d = d' := by cases d <;> cases d' <;> first | rfl | exact absurd hs (by decide)
  exact ⟨rfl, hr⟩

/-! ### Joins -/

/-- The keywords of joins. -/
def joinWords : List String :=
  [JoinKind.inner, .left, .right, .full].map fun k => k.sql ++ " JOIN"

theorem mem_joinWords (k : JoinKind) : k.sql ++ " JOIN" ∈ joinWords := by
  cases k <;> decide

theorem joinClause_eq (j : Join) :
    symbols.joinClause j = lead (j.kind.sql ++ " JOIN") ++ (symbols.text j.table ++
      (lead "ON" ++ (symbols.text j.left ++ (lead j.operator.sql ++ symbols.text j.right)))) := by
  change symbols.text (" " ++ j.kind.sql ++ " JOIN " ++ j.table ++ " ON " ++ j.left ++ " " ++
    j.operator.sql ++ " " ++ j.right) = _
  simp [lead, symbols]

theorem Legible.joinClause : Legible Join.Readable Ends id symbols.joinClause := by
  rintro ⟨k, t, l, o, r⟩ ⟨k', t', l', o', r'⟩ ⟨ht, hl, hr⟩ ⟨ht', hl', hr'⟩ xs ys hxs hys h
  simp only [joinClause_eq, List.append_assoc] at h
  obtain ⟨hk, h⟩ := Legible.lead JoinKind.eq_or_apart trivial trivial trivial trivial h
  obtain ⟨ht, h⟩ :=
    Legible.name ht ht' (blank_lead _ _).ends (blank_lead _ _).ends h
  obtain ⟨hl, h⟩ := Legible.name hl hl' (blank_lead _ _).ends (blank_lead _ _).ends
    (List.append_cancel_left h)
  obtain ⟨ho, h⟩ := Legible.lead Operator.eq_or_apart trivial trivial trivial trivial h
  obtain ⟨hr, h⟩ := Legible.name hr hr' hxs hys h
  exact ⟨(Join.mk.injEq ..).mpr ⟨hk, ht, hl, ho, hr⟩, h⟩

theorem Clausal.joins {after : List String} (hk : ∀ w ∈ joinWords, ∀ l ∈ after, Apart w l) :
    Clausal (fun js => ∀ j ∈ js, j.Readable) (joinWords ++ after) after (List.map id)
      (List.flatMap symbols.joinClause) where
  led js xs h := by
    cases js with
    | nil => exact h.mono (List.subset_append_right _ _)
    | cons j js =>
      rw [List.flatMap_cons, joinClause_eq, List.append_assoc, List.append_assoc]
      exact .lead (List.mem_append_left _ (mem_joinWords j.kind)) _
  legible := by
    refine Legible.joinClause.flatMap (fun j xs _ => ?_) (fun _ h => h.blank.ends)
      fun j xs _ => ?_
    · rw [joinClause_eq, List.append_assoc]
      exact (blank_lead _ _).ends
    · rw [joinClause_eq, List.append_assoc]
      exact Led.not_lead (hk _ (mem_joinWords j.kind)) _

end Symbol

end FluentSql
