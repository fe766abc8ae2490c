import FluentSql.Proofs.Query.Accepted
import FluentSql.Proofs.Query.Identifiers
import FluentSql.Proofs.Query.Normal
import FluentSql.Proofs.Query.Symbols

/-! Parts of a query that can be read back. A part is legible if the symbols tell its normal form
and where it ends, whatever stands behind it as far as that is allowed. Names, words and values are
legible, and so are any number of legible parts one after the other, `Legible.flatMap`, or with
commas between them, `Legible.commas`. -/

namespace FluentSql

/-! ### Plain names -/

/-- An ASCII letter or digit, an underscore, a point or an asterisk. -/
def isPlain (c : Char) : Bool :=
  c.isAlphanum || c == '_' || c == '.' || c == '*'

/-- A name of plain characters. -/
def Plain (s : String) : Prop :=
  s ≠ "" ∧ ∀ c ∈ s.toList, isPlain c = true

instance (s : String) : Decidable (Plain s) :=
  decidable_of_iff (s ≠ "" ∧ s.toList.all isPlain = true) (and_congr_right' List.all_eq_true)

theorem Plain.signless {s : String} (h : Plain s) : Signless s.toList :=
  ⟨fun hm => absurd (h.2 _ hm) (by decide), fun hm => absurd (h.2 _ hm) (by decide)⟩

theorem isPlain_toString {n : Nat} {c : Char} (hc : c ∈ (toString n).toList) :
    isPlain c = true := by
  rw [Nat.toString_eq_repr, Nat.repr, String.toList_ofList] at hc
  have hd : c.isDigit = true := Nat.isDigit_of_mem_toDigits (by decide) (by decide) hc
  simp [isPlain, Char.isAlphanum, hd]

namespace Symbol

open Writer (symbols text_append commas_cons)

variable {β γ δ : Type} {ok : β → Prop} {behind : List Symbol → Prop} {norm : β → γ}
  {f : β → List Symbol}

/-! ### What stands behind -/

/-- No name goes on with these symbols. -/
abbrev Ends : List Symbol → Prop :=
  Starts fun c => ¬ isPlain c = true

/-- No name and no row of parts goes on with these symbols. -/
abbrev Stops : List Symbol → Prop :=
  Starts fun c => ¬ isPlain c = true ∧ c ≠ ','

/-- No word goes on with these symbols. -/
abbrev Blank : List Symbol → Prop :=
  Starts (· = ' ')

theorem Stops.ends {xs : List Symbol} (h : Stops xs) : Ends xs :=
  h.mono fun _ h => h.1

theorem Blank.stops {xs : List Symbol} (h : Blank xs) : Stops xs :=
  h.mono fun c h => by subst h; decide

theorem Blank.ends {xs : List Symbol} (h : Blank xs) : Ends xs :=
  h.stops.ends

theorem starts_text {P : Char → Prop} {s : String} {c : Char} {cs : List Char}
    (hs : s.toList = c :: cs) (hc : P c) (xs : List Symbol) : Starts P (symbols.text s ++ xs) := by
  change Starts P (s.toList.map .char ++ xs)
  rw [hs]
  exact starts_char.2 hc

theorem blank_text (s : String) (xs : List Symbol) : Blank (symbols.text (" " ++ s) ++ xs) :=
  starts_text (P := (· = ' ')) (String.toList_append ..) rfl xs

theorem value_append_inj {v w : Value} {xs ys : List Symbol}
    (h : symbols.value v ++ xs = symbols.value w ++ ys) : v = w ∧ xs = ys := by
  simpa [symbols] using h

/-! ### Legible parts -/

/-- Parts that are in order, with symbols behind them that are, tell their normal forms and where
they end. -/
def Legible (ok : β → Prop) (behind : List Symbol → Prop) (norm : β → γ)
    (f : β → List Symbol) : Prop :=
  ∀ ⦃x y⦄, ok x → ok y → ∀ ⦃xs ys⦄, behind xs → behind ys → f x ++ xs = f y ++ ys →
    norm x = norm y ∧ xs = ys

namespace Legible

theorem mono {ok' : β → Prop} {behind' : List Symbol → Prop} (h : Legible ok behind norm f)
    (hok : ∀ x, ok' x → ok x) (hb : ∀ xs, behind' xs → behind xs) : Legible ok' behind' norm f :=
  fun x y hx hy _ _ hxs hys => h (hok x hx) (hok y hy) (hb _ hxs) (hb _ hys)

/-- What is legible whatever stands behind it. -/
theorem of_true (h : Legible ok (fun _ => True) norm f) : Legible ok behind norm f :=
  h.mono (fun _ h => h) fun _ _ => trivial

theorem name : Legible Plain Ends id symbols.text := by
  intro s t hs ht xs ys hxs hys h
  obtain ⟨hc, hr⟩ := chars_append_inj hs.2 ht.2 hxs hys h
  exact ⟨String.toList_inj.1 hc, hr⟩

theorem number : Legible (fun _ => True) Ends id fun n : UInt64 =>
    symbols.text (toString n.toNat) := by
  intro m n _ _ xs ys hxs hys h
  obtain ⟨hc, hr⟩ :=
    chars_append_inj (fun _ => isPlain_toString) (fun _ => isPlain_toString) hxs hys h
  have hd := congrArg (Nat.ofDigitChars 10 · 0) hc
  simp only [Nat.toString_eq_repr, Nat.repr, String.toList_ofList, Nat.ofDigitChars_ten_toDigits]
    at hd
  exact ⟨UInt64.toNat_inj.1 hd, hr⟩

theorem value : Legible (fun _ => True) (fun _ => True) id symbols.value :=
  fun _ _ _ _ _ _ _ _ h => value_append_inj h

/-- Words that are apart are legible in front of a blank. -/
theorem word {g : β → String} (hg : ∀ x y, x = y ∨ Apart (g x) (g y)) :
    Legible (fun _ => True) Blank id fun x => symbols.text (g x) := by
  intro x y _ _ xs ys hxs hys h
  rcases hg x y with rfl | hxy
  · exact ⟨rfl, List.append_cancel_left h⟩
  · exact absurd h (text_append_ne hxy hxs hys)

/-- Any number of legible parts, if what stands behind the last is not the beginning of another. -/
theorem flatMap {stop : List Symbol → Prop} (hf : Legible ok behind norm f)
    (hmore : ∀ x xs, ok x → behind (f x ++ xs)) (hlast : ∀ xs, stop xs → behind xs)
    (hstop : ∀ x xs, ok x → ¬ stop (f x ++ xs)) :
    Legible (fun xs => ∀ x ∈ xs, ok x) stop (List.map norm) (List.flatMap f) := by
  have next {xs : List β} {zs : List Symbol} (hx : ∀ x ∈ xs, ok x) (hz : stop zs) :
      behind (xs.flatMap f ++ zs) := by
    cases xs with
    | nil => exact hlast zs hz
    | cons x xs =>
      rw [List.flatMap_cons, List.append_assoc]
      exact hmore x _ (hx x List.mem_cons_self)
  intro xs
  induction xs with
  | nil =>
    intro ys _ hy zs ws hz hw h
    cases ys with
    | nil => exact ⟨rfl, h⟩
    | cons y ys =>
      rw [List.flatMap_nil, List.nil_append, List.flatMap_cons, List.append_assoc] at h
      exact absurd (h ▸ hz) (hstop y _ (hy y List.mem_cons_self))
  | cons x xs ih =>
    intro ys hx hy zs ws hz hw h
    cases ys with
    | nil =>
      rw [List.flatMap_nil, List.nil_append, List.flatMap_cons, List.append_assoc] at h
      exact absurd (h ▸ hw) (hstop x _ (hx x List.mem_cons_self))
    | cons y ys =>
      rw [List.forall_mem_cons] at hx hy
      rw [List.flatMap_cons, List.append_assoc, List.flatMap_cons, List.append_assoc] at h
      obtain ⟨hn, h⟩ := hf hx.1 hy.1 (next hx.2 hz) (next hy.2 hw) h
      obtain ⟨hns, h⟩ := ih hx.2 hy.2 hz hw h
      exact ⟨congrArg₂ List.cons hn hns, h⟩

/-- At least one legible part, with commas between them. -/
theorem commas (hf : Legible ok Ends norm f) :
    Legible (fun xs => xs ≠ [] ∧ ∀ x ∈ xs, ok x) Stops (List.map norm) fun xs =>
      symbols.commas (xs.map f) := by
  have comma (xs : List Symbol) : Ends (symbols.text ", " ++ xs) := starts_text rfl (by decide) xs
  have part : Legible ok Ends norm fun x => symbols.text ", " ++ f x := by
    intro x y hx hy xs ys hxs hys h
    rw [List.append_assoc, List.append_assoc] at h
    exact hf hx hy hxs hys (List.append_cancel_left h)
  have parts := part.flatMap (fun x xs _ => List.append_assoc _ (f x) xs ▸ comma _)
    (fun _ => Stops.ends) fun x xs _ hs => (hs ',' rfl).2 rfl
  have next {xs : List β} {zs : List Symbol} (hz : Stops zs) :
      Ends (xs.flatMap (fun x => symbols.text ", " ++ f x) ++ zs) := by
    cases xs with
    | nil => exact hz.ends
    | cons x xs =>
      rw [List.flatMap_cons, List.append_assoc, List.append_assoc]
      exact comma _
  rintro (_ | ⟨x, xs⟩) (_ | ⟨y, ys⟩) ⟨hxn, hx⟩ ⟨hyn, hy⟩ zs ws hz hw h
  · exact ⟨rfl, h⟩
  · exact absurd rfl hxn
  · exact absurd rfl hyn
  · rw [List.forall_mem_cons] at hx hy
    simp only [List.map_cons, commas_cons, List.flatMap_map, List.append_assoc] at h
    obtain ⟨hn, h⟩ := hf hx.1 hy.1 (next hz) (next hw) h
    obtain ⟨hns, h⟩ := parts hx.2 hy.2 hz hw h
    exact ⟨congrArg₂ List.cons hn hns, h⟩

/-- At least one value. -/
theorem values : Legible (· ≠ []) Stops id fun vs => symbols.commas (vs.map symbols.value) := by
  intro vs ws hv hw xs ys hxs hys h
  obtain ⟨hn, h⟩ :=
    value.of_true.commas ⟨hv, fun _ _ => trivial⟩ ⟨hw, fun _ _ => trivial⟩ hxs hys h
  exact ⟨by simpa using hn, h⟩

/-- Any number of names. -/
theorem names : Legible (fun ss => ∀ s ∈ ss, Plain s) Stops id fun ss =>
    symbols.text (String.intercalate ", " ss) := by
  -- a row that is not empty begins with a plain character
  have first {s : String} {ss : List String} {xs : List Symbol} (hs : Plain s) :
      ¬ Stops (symbols.commas ((s :: ss).map symbols.text) ++ xs) := by
    obtain ⟨hne, hp⟩ := hs
    cases hc : s.toList with
    | nil => exact absurd (String.toList_eq_nil_iff.1 hc) hne
    | cons c cs =>
      rw [List.map_cons, commas_cons, List.append_assoc]
      refine fun h => (h c ?_).1 (hp c (hc ▸ List.mem_cons_self))
      change (s.toList.map Symbol.char ++ _).head? = _
      rw [hc]
      rfl
  intro ss ts hs ht xs ys hx hy h
  simp only [Writer.text_intercalate] at h
  cases ss with
  | nil =>
    cases ts with
    | nil => exact ⟨rfl, h⟩
    | cons t ts =>
      obtain rfl : xs = _ := h
      exact absurd hx (first (ht t List.mem_cons_self))
  | cons s ss =>
    cases ts with
    | nil =>
      obtain rfl : _ = ys := h
      exact absurd hy (first (hs s List.mem_cons_self))
    | cons t ts =>
      obtain ⟨hn, h⟩ := name.commas ⟨List.cons_ne_nil _ _, hs⟩ ⟨List.cons_ne_nil _ _, ht⟩ hx hy h
      exact ⟨by simpa using hn, h⟩

end Legible

end Symbol

end FluentSql
