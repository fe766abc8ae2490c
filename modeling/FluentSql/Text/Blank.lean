/-! White space in text: the characters with the Unicode White_Space property, trimming them off
the ends of a text, and cutting a text into its words, the maximal runs without white space. -/

namespace FluentSql.Text

/-- The White_Space property. -/
def isBlank (c : Char) : Bool :=
  let n := c.toNat
  (0x09 ≤ n && n ≤ 0x0D) || n == 0x20 || n == 0x85 || n == 0xA0 || n == 0x1680 ||
    (0x2000 ≤ n && n ≤ 0x200A) || n == 0x2028 || n == 0x2029 || n == 0x202F || n == 0x205F ||
    n == 0x3000

/-! ### Trimming -/

def trimStart (cs : List Char) : List Char :=
  cs.dropWhile isBlank

def trimEnd (cs : List Char) : List Char :=
  (trimStart cs.reverse).reverse

/-- The text without the white space at its two ends. -/
def trim (s : String) : String :=
  String.ofList (trimEnd (trimStart s.toList))

/-- A text with no character other than white space. -/
def blank (s : String) : Bool :=
  s.toList.all isBlank

theorem length_trimStart_le (cs : List Char) : (trimStart cs).length ≤ cs.length :=
  (List.dropWhile_sublist _).length_le

/-! ### Words -/

/-- The pieces between the items of a class, empty ones included. -/
def pieces {α : Type} (isGap : α → Bool) : List α → List (List α)
  | [] => [[]]
  | c :: cs =>
    if isGap c then [] :: pieces isGap cs
    else match pieces isGap cs with
      | [] => [[c]]
      | w :: ws => (c :: w) :: ws

theorem pieces_ne_nil {α : Type} (isGap : α → Bool) (s : List α) : pieces isGap s ≠ [] := by
  cases s with
  | nil => exact List.cons_ne_nil _ _
  | cons c s =>
    rw [pieces]
    split
    next => exact List.cons_ne_nil _ _
    next => split <;> exact List.cons_ne_nil _ _

/-- A gap ends a piece. -/
theorem pieces_gap {α : Type} {isGap : α → Bool} {c : α} (hc : isGap c = true) (front s : List α) :
    pieces isGap (front ++ c :: s) = pieces isGap front ++ pieces isGap s := by
  induction front with
  | nil => simp [pieces, hc]
  | cons d front ih =>
    obtain ⟨p, ps, hp⟩ := List.exists_cons_of_ne_nil (pieces_ne_nil isGap front)
    by_cases hd : isGap d = true
    · simp [pieces, hd, ih]
    · simp [pieces, hd, ih, hp]

/-- Without a gap there is one piece. -/
theorem pieces_solid {α : Type} {isGap : α → Bool} {s : List α} (h : ∀ c ∈ s, isGap c = false) :
    pieces isGap s = [s] := by
  induction s with
  | nil => rfl
  | cons c s ih =>
    obtain ⟨hc, hs⟩ := List.forall_mem_cons.1 h
    simp [pieces, hc, ih hs]

/-- The words of a text, in order. -/
def words (s : String) : List String :=
  ((pieces isBlank s.toList).filter (!·.isEmpty)).map String.ofList

/-! ### ASCII case -/

def upper (s : String) : String :=
  String.ofList (s.toList.map Char.toUpper)

def lower (s : String) : String :=
  String.ofList (s.toList.map Char.toLower)

/-- Whether `s` starts with `t`, ASCII letters compared without regard to case; the rest of `s`
behind it. -/
def dropCaseless? (t s : List Char) : Option (List Char) :=
  if (s.take t.length).map Char.toUpper == t.map Char.toUpper then some (s.drop t.length) else none

end FluentSql.Text
