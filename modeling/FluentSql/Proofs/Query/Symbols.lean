import FluentSql.Proofs.Query.Scan
import FluentSql.Proofs.Query.Writer
import Mathlib.Data.List.Infix

/-! A compiled query as one row of symbols: the characters of its text, and each value in the place
of its placeholder. Where scanning finds the placeholders, text and parameters determine the
symbols, `Piece.symbols_eq_of_lay_eq`. A word or a name in front of other symbols is found again if
what stands behind it cannot belong to it. -/

namespace FluentSql

inductive Symbol where
  | char (c : Char)
  | value (v : Value)

namespace Writer

/-- Texts as characters, and values as they are. -/
def symbols : Writer Symbol :=
  ⟨fun s => s.toList.map .char, fun v => [.value v]⟩

theorem text_append (s t : String) :
    symbols.text (s ++ t) = symbols.text s ++ symbols.text t := by
  simp [symbols]

/-- Names with commas between them. -/
theorem text_intercalate (ss : List String) :
    symbols.text (String.intercalate ", " ss) = symbols.commas (ss.map symbols.text) := by
  have single (s : String) : s.toList.flatMap (fun c => [.char c]) = symbols.text s :=
    List.map_eq_flatMap.symm
  calc
    symbols.text (String.intercalate ", " ss)
      = ((literal fun _ => "").commas (ss.map String.toList)).flatMap fun c => [.char c] := by
        rw [← single, ← literal_commas]
    _ = symbols.commas (ss.map symbols.text) := by
        rw [flatMap_commas, List.map_map]
        simp only [commas, replace, literal, single, Function.comp_def]

end Writer

/-! ### From the compiled query -/

def Piece.symbols : Piece → List Symbol
  | text s => Writer.symbols.text s
  | bind v => Writer.symbols.value v

theorem Writer.flatMap_symbols_query (q : QueryState) :
    (pieces.query q).flatMap Piece.symbols = symbols.query q := by
  rw [flatMap_query]
  congr 1
  simp [replace, pieces, symbols, Piece.symbols]

namespace Placeholder.Token

/-- The values in the place of the placeholders, in order. -/
def fill : List Token → List Value → List Symbol
  | char c :: ts, vs => .char c :: fill ts vs
  | mark _ :: ts, v :: vs => .value v :: fill ts vs
  | mark _ :: ts, [] => fill ts []
  | [], _ => []

theorem fill_map_char (cs : List Char) (ts : List Token) (vs : List Value) :
    fill (cs.map .char ++ ts) vs = cs.map .char ++ fill ts vs := by
  induction cs with
  | nil => rfl
  | cons c cs ih => exact congrArg (List.cons _) ih

end Placeholder.Token

namespace Piece

open Placeholder (Token)

theorem fill_tokens (p : Placeholder) (n : Nat) (ps : List Piece) :
    Token.fill (tokens p n ps) (params ps) = ps.flatMap symbols := by
  induction ps generalizing n with
  | nil => rfl
  | cons x ps ih =>
    cases x with
    | text s => rw [tokens, Token.fill_map_char, params, ih, List.flatMap_cons]; rfl
    | bind v => rw [tokens, params, Token.fill, ih, List.flatMap_cons]; rfl

/-- Text and parameters determine the symbols. -/
theorem symbols_eq_of_lay_eq {p : Placeholder} {ps qs : List Piece} (hps : Spaced ps)
    (hqs : Spaced qs) (cps : p.sign ∉ chars ps) (cqs : p.sign ∉ chars qs)
    (h : lay p ps = lay p qs) : ps.flatMap symbols = qs.flatMap symbols := by
  have hsql : layFrom p 0 ps = layFrom p 0 qs := congrArg BuiltQuery.sql h
  have hparams : params ps = params qs := congrArg BuiltQuery.params h
  have htokens : tokens p 0 ps = tokens p 0 qs := by
    rw [← scan_layFrom hps cps, ← scan_layFrom hqs cqs, hsql]
  rw [← fill_tokens p 0 ps, htokens, hparams, fill_tokens]

end Piece

/-! ### Where words and names end -/

namespace Symbol

/-- A character with which symbols begin, if they do with one, has the property. -/
def Starts (P : Char → Prop) (xs : List Symbol) : Prop :=
  ∀ c, xs.head? = some (.char c) → P c

variable {P Q : Char → Prop}

theorem Starts.mono (h : ∀ c, P c → Q c) {xs : List Symbol} (hx : Starts P xs) : Starts Q xs :=
  fun c hc => h c (hx c hc)

theorem starts_nil : Starts P [] := by
  intro c h
  cases h

theorem starts_char {c : Char} {xs : List Symbol} : Starts P (.char c :: xs) ↔ P c :=
  ⟨fun h => h c rfl, fun h d hd => by cases hd; exact h⟩

/-- A run of characters of a kind is found again in front of what is not of that kind. -/
theorem chars_append_inj {cs ds : List Char} {xs ys : List Symbol} (hc : ∀ c ∈ cs, P c)
    (hd : ∀ c ∈ ds, P c) (hx : Starts (¬ P ·) xs) (hy : Starts (¬ P ·) ys)
    (h : cs.map .char ++ xs = ds.map .char ++ ys) : cs = ds ∧ xs = ys := by
  induction cs generalizing ds with
  | nil =>
    cases ds with
    | nil => exact ⟨rfl, h⟩
    | cons d ds =>
      subst h
      exact absurd (hd d List.mem_cons_self) (starts_char.1 hx)
  | cons c cs ih =>
    cases ds with
    | nil =>
      subst h
      exact absurd (hc c List.mem_cons_self) (starts_char.1 hy)
    | cons d ds =>
      simp only [List.map_cons, List.cons_append, List.cons.injEq, Symbol.char.injEq] at h
      obtain ⟨rfl, h⟩ := h
      obtain ⟨rfl, hxy⟩ := ih (fun c hm => hc c (List.mem_cons_of_mem _ hm))
        (fun d hm => hd d (List.mem_cons_of_mem _ hm)) h
      exact ⟨rfl, hxy⟩

/-- Neither word begins the other, a blank standing behind both. -/
def Apart (s t : String) : Prop :=
  ¬ (s ++ " ").toList <+: (t ++ " ").toList ∧ ¬ (t ++ " ").toList <+: (s ++ " ").toList

instance (s t : String) : Decidable (Apart s t) :=
  inferInstanceAs (Decidable (_ ∧ _))

/-- Words that are apart do not begin the same symbols. -/
theorem text_append_ne {s t : String} {xs ys : List Symbol} (h : Apart s t)
    (hx : Starts (· = ' ') xs) (hy : Starts (· = ' ') ys) :
    Writer.symbols.text s ++ xs ≠ Writer.symbols.text t ++ ys := by
  -- the longer word would go on with the blank behind the shorter one
  have longer {s t : String} {xs ys us : List Symbol} (hx : Starts (· = ' ') xs)
      (ht : Writer.symbols.text t = Writer.symbols.text s ++ us) (hu : xs = us ++ ys) :
      (s ++ " ").toList <+: (t ++ " ").toList := by
    obtain ⟨cs, ds, hcs, hs, rfl⟩ := List.map_eq_append_iff.1 ht
    have hs : cs = s.toList := List.map_injective_iff.2 (fun _ _ => Symbol.char.inj) hs
    cases ds with
    | nil => simp [hcs, hs]
    | cons d ds =>
      subst hu
      obtain rfl : d = ' ' := hx d rfl
      exact ⟨ds ++ [' '], by simp [hcs, hs]⟩
  intro he
  rcases List.append_eq_append_iff.1 he with ⟨us, ht, hu⟩ | ⟨us, hs, hu⟩
  · exact h.1 (longer hx ht hu)
  · exact h.2 (longer hy hs hu)

end Symbol

end FluentSql
