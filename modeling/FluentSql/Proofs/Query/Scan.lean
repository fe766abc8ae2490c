import FluentSql.Query.Compile
import Mathlib.Data.List.TakeDrop

/-! Scanning a text for placeholders. A placeholder is `?`, or `$` with all the digits behind it.
Pieces that were laid out are found again, `Piece.scan_layFrom`, if their texts hold no sign of a
placeholder and no digit stands behind one: then the placeholders are numbered in the order of the
parameters, and literals in their places give the text with every value at its own place. -/

namespace FluentSql

/-! ### Scanning -/

namespace Placeholder

/-- The character that starts a placeholder. -/
def sign : Placeholder → Char
  | .question => '?'
  | .dollar => '$'

/-- The placeholder of the `k`-th parameter. -/
def mark : Placeholder → Nat → List Char
  | .question, _ => ['?']
  | .dollar, k => '$' :: Nat.toDigits 10 k

/-- What belongs to a placeholder behind its sign: for `$` all the digits there. -/
def numeral : Placeholder → List Char → List Char
  | .question, _ => []
  | .dollar, cs => cs.takeWhile Char.isDigit

theorem toList_text (p : Placeholder) (k : Nat) : (p.text k).toList = p.mark k := by
  cases p with
  | question => simp [text, mark]
  | dollar => simp [text, mark, Nat.toString_eq_repr, Nat.repr]

/-- A character of a text, or a placeholder in it. -/
inductive Token where
  | char (c : Char)
  | mark (cs : List Char)

namespace Token

/-- The placeholders among tokens. -/
def marks : List Token → List (List Char)
  | [] => []
  | char _ :: ts => marks ts
  | mark cs :: ts => cs :: marks ts

/-- Puts literals of the values in the place of the placeholders, in order. -/
def substitute (literal : Value → String) : List Token → List Value → List Char
  | char c :: ts, vs => c :: substitute literal ts vs
  | mark _ :: ts, v :: vs => (literal v).toList ++ substitute literal ts vs
  | mark cs :: ts, [] => cs ++ substitute literal ts []
  | [], _ => []

end Token

/-- The tokens of a text, from left to right. -/
def scan (p : Placeholder) : List Char → List Token
  | [] => []
  | c :: cs =>
    if c = p.sign then .mark (c :: p.numeral cs) :: scan p (cs.drop (p.numeral cs).length)
    else .char c :: scan p cs
termination_by cs => cs.length
decreasing_by all_goals simp only [List.length_cons, List.length_drop]; omega

theorem scan_nil (p : Placeholder) : p.scan [] = [] := by rw [scan]

theorem scan_append {p : Placeholder} {cs : List Char} (h : p.sign ∉ cs) (rest : List Char) :
    p.scan (cs ++ rest) = cs.map .char ++ p.scan rest := by
  induction cs with
  | nil => rfl
  | cons c cs ih =>
    simp only [List.mem_cons, not_or] at h
    rw [List.cons_append, scan, if_neg (Ne.symm h.1), ih h.2]
    rfl

/-- A placeholder is found if no digit stands behind it. -/
theorem scan_mark (p : Placeholder) (k : Nat) {rest : List Char}
    (h : ∀ c ∈ rest.head?, c.isDigit = false) :
    p.scan (p.mark k ++ rest) = .mark (p.mark k) :: p.scan rest := by
  cases p with
  | question =>
    rw [mark, List.singleton_append, scan, if_pos (show '?' = sign .question from rfl)]
    rfl
  | dollar =>
    have hk : ∀ c ∈ Nat.toDigits 10 k, c.isDigit = true := fun c hc =>
      Nat.isDigit_of_mem_toDigits (by decide) (by decide) hc
    have hr : rest.takeWhile Char.isDigit = [] := by
      cases rest with
      | nil => rfl
      | cons c cs => rw [List.takeWhile_cons, h c rfl]; rfl
    have hn : numeral .dollar (Nat.toDigits 10 k ++ rest) = Nat.toDigits 10 k := by
      rw [numeral, List.takeWhile_append_of_pos hk, hr, List.append_nil]
    rw [mark, List.cons_append, scan, if_pos (show '$' = sign .dollar from rfl), hn,
      List.drop_left]

end Placeholder

/-! ### The text of pieces -/

namespace Piece

/-- The tokens of pieces, `n` parameters standing before them. -/
def tokens (p : Placeholder) (n : Nat) : List Piece → List Placeholder.Token
  | [] => []
  | text s :: ps => s.toList.map .char ++ tokens p n ps
  | bind _ :: ps => .mark (p.mark (n + 1)) :: tokens p (n + 1) ps

/-- Pieces that can stand behind a placeholder: their text does not begin with a digit. -/
def Opens : List Piece → Prop
  | [] => True
  | text s :: _ => ∃ c cs, s.toList = c :: cs ∧ c.isDigit = false
  | bind _ :: _ => True

/-- No digit stands behind a placeholder. -/
def Spaced : List Piece → Prop
  | [] => True
  | text _ :: ps => Spaced ps
  | bind _ :: ps => Opens ps ∧ Spaced ps

/-- The characters of the texts among pieces. -/
def chars (ps : List Piece) : List Char :=
  ps.flatMap fun
    | text s => s.toList
    | bind _ => []

/-- The text of pieces that stand behind a placeholder does not begin with a digit. -/
theorem Opens.head_layFrom {ps : List Piece} (h : Opens ps) (p : Placeholder) (n : Nat) :
    ∀ c ∈ (layFrom p n ps).toList.head?, c.isDigit = false := by
  cases ps with
  | nil => simp [layFrom]
  | cons x ps =>
    cases x with
    | text s =>
      obtain ⟨c, cs, hs, hc⟩ := h
      simp [layFrom, hs, hc]
    | bind v =>
      rw [layFrom, String.toList_append, Placeholder.toList_text]
      cases p <;> simp [Placeholder.mark]

/-- Scanning finds the tokens that were laid out. -/
theorem scan_layFrom {p : Placeholder} {ps : List Piece} (hs : Spaced ps) (hc : p.sign ∉ chars ps)
    (n : Nat) : p.scan (layFrom p n ps).toList = tokens p n ps := by
  induction ps generalizing n with
  | nil => simp [layFrom, tokens, Placeholder.scan_nil]
  | cons x ps ih =>
    simp only [chars, List.flatMap_cons, List.mem_append, not_or] at hc
    cases x with
    | text s =>
      rw [layFrom, String.toList_append, Placeholder.scan_append hc.1, ih hs hc.2, tokens]
    | bind v =>
      rw [layFrom, String.toList_append, Placeholder.toList_text,
        Placeholder.scan_mark p _ (hs.1.head_layFrom p _), ih hs.2 hc.2, tokens]

theorem marks_map_char (cs : List Char) (ts : List Placeholder.Token) :
    Placeholder.Token.marks (cs.map .char ++ ts) = Placeholder.Token.marks ts := by
  induction cs with
  | nil => rfl
  | cons c cs ih => exact ih

/-- One placeholder for each parameter, numbered in order. -/
theorem marks_tokens (p : Placeholder) (n : Nat) (ps : List Piece) :
    Placeholder.Token.marks (tokens p n ps) =
      (List.range' (n + 1) (params ps).length).map p.mark := by
  induction ps generalizing n with
  | nil => rfl
  | cons x ps ih =>
    cases x with
    | text s => rw [tokens, marks_map_char, ih, params]
    | bind v =>
      rw [tokens, Placeholder.Token.marks, ih, params, List.length_cons, List.range'_succ]
      rfl

theorem substitute_map_char (literal : Value → String) (cs : List Char)
    (ts : List Placeholder.Token) (vs : List Value) :
    Placeholder.Token.substitute literal (cs.map .char ++ ts) vs =
      cs ++ Placeholder.Token.substitute literal ts vs := by
  induction cs with
  | nil => rfl
  | cons c cs ih => exact congrArg (List.cons c) ih

/-- With the literals put in, the text is the one with every value at its own place. -/
theorem substitute_tokens (literal : Value → String) (p : Placeholder) (n : Nat) (ps : List Piece) :
    Placeholder.Token.substitute literal (tokens p n ps) (params ps) =
      ps.flatMap fun
        | text s => s.toList
        | bind v => (literal v).toList := by
  induction ps generalizing n with
  | nil => rfl
  | cons x ps ih =>
    cases x with
    | text s => rw [tokens, substitute_map_char, params, ih, List.flatMap_cons]
    | bind v => rw [tokens, params, Placeholder.Token.substitute, ih, List.flatMap_cons]

end Piece

end FluentSql
