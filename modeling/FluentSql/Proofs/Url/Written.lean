import FluentSql.Url.Basic
import FluentSql.Proofs.Number.Numeral
import Mathlib.Data.List.Basic
import Mathlib.Data.List.TakeWhile

/-! URLs read from their parts. A URL of a general scheme that was put together from a scheme, user
and password, a host, a port and one segment of a path is read as just these parts, `read_written`,
if none of them has a character with a meaning of its own and the segment is not one that moves. -/

namespace FluentSql.Url

open Text

/-! ### Characters -/

/-- A character without a meaning of its own in a URL. -/
def isInner (c : Char) : Bool :=
  c.isAlphanum || c == '-' || c == '_' || c == '.' || c == '%'

def Inner (s : List Char) : Prop :=
  ∀ c ∈ s, isInner c = true

theorem isAlphanum_bounds {c : Char} (h : c.isAlphanum = true) : 48 ≤ c.toNat ∧ c.toNat ≤ 122 := by
  rcases Bool.or_eq_true_iff.1 h with halpha | hdigit
  · rcases Bool.or_eq_true_iff.1 halpha with hupper | hlower
    · have hle : 65 ≤ c.toNat ∧ c.toNat ≤ 90 := of_decide_eq_true hupper
      omega
    · obtain ⟨hlow, hhigh⟩ := Bool.and_eq_true_iff.1 hlower
      have hle : 97 ≤ c.toNat := of_decide_eq_true hlow
      have hge : c.toNat ≤ 122 := of_decide_eq_true hhigh
      omega
  · obtain ⟨hlow, hhigh⟩ := Bool.and_eq_true_iff.1 hdigit
    have hle : 48 ≤ c.toNat := of_decide_eq_true hlow
    have hge : c.toNat ≤ 57 := of_decide_eq_true hhigh
    omega

/-- Inner characters are visible ones of ASCII. -/
theorem isInner_bounds {c : Char} (h : isInner c = true) : 0x20 < c.toNat ∧ c.toNat < 0x7F := by
  simp only [isInner, Bool.or_eq_true, beq_iff_eq] at h
  rcases h with (((h | rfl) | rfl) | rfl) | rfl
  · have := isAlphanum_bounds h
    omega
  all_goals decide

theorem ne_of_isInner {c d : Char} (hc : isInner c = true) (hd : isInner d = false) : c ≠ d := by
  rintro rfl
  rw [hc] at hd
  cases hd

theorem Inner.notMem {s : List Char} (h : Inner s) {c : Char} (hc : isInner c = false) : c ∉ s :=
  fun hm => ne_of_isInner (h c hm) hc rfl

theorem endsAuthority_of_isInner {c : Char} (h : isInner c = true) :
    endsAuthority .general c = false := by
  have hslash : c ≠ '/' := ne_of_isInner h (by decide)
  have hquery : c ≠ '?' := ne_of_isInner h (by decide)
  have hfragment : c ≠ '#' := ne_of_isInner h (by decide)
  simp [endsAuthority, isSlash, SchemeClass.isSpecial, hslash, hquery, hfragment]

/-- A host may contain any inner character. -/
theorem marks_contains_of_isInner {c : Char} (h : isInner c = true) :
    Host.marks.contains c = false := by
  have hmarks : Host.marks.all (fun d => !isInner d) = true := by decide
  rw [List.contains_eq_mem, decide_eq_false_iff_not]
  intro hm
  have hc : (!isInner c) = true := List.all_eq_true.1 hmarks c hm
  rw [h] at hc
  cases hc

theorem isInner_of_mem_toDigits {n : Nat} {c : Char} (h : c ∈ Nat.toDigits 10 n) :
    isInner c = true := by
  have hc : c.isDigit = true := Nat.isDigit_of_mem_toDigits (by decide) (by decide) h
  simp [isInner, Char.isAlphanum, hc]

/-! ### Cutting texts -/

/-- A front of characters of a class ends where another character begins. -/
theorem takeWhile_append_cons {p : Char → Bool} {s t : List Char} {c : Char}
    (hs : ∀ d ∈ s, p d = true) (hc : p c = false) : (s ++ c :: t).takeWhile p = s := by
  rw [List.takeWhile_append_of_pos hs, List.takeWhile_cons_of_neg (by simp [hc]), List.append_nil]

/-- A text without visible marks at its ends, blanks or line breaks is taken as it is. -/
theorem clean_eq {s : List Char} (h : ∀ c ∈ s, 0x20 < c.toNat) : clean s = s := by
  have hmargin {t : List Char} (ht : ∀ c ∈ t, 0x20 < c.toNat) : t.dropWhile isMargin = t := by
    cases t with
    | nil => rfl
    | cons c t =>
      refine List.dropWhile_cons_of_neg ?_
      have hc := ht c List.mem_cons_self
      simp only [isMargin, decide_eq_true_iff]
      omega
  have hreverse : ∀ c ∈ s.reverse, 0x20 < c.toNat := fun c hc => h c (List.mem_reverse.1 hc)
  rw [clean, hmargin h, hmargin hreverse, List.reverse_reverse, List.filter_eq_self]
  intro c hc
  have hn := h c hc
  have hne {d : Char} (hd : d.toNat ≤ 0x20) : (c != d) = true := by
    rw [bne_iff_ne]
    rintro rfl
    omega
  rw [hne (by decide), hne (by decide), hne (by decide)]
  rfl

theorem takeWhile_ne {s : List Char} {c : Char} (h : c ∉ s) : s.takeWhile (· != c) = s := by
  refine List.takeWhile_eq_self_iff.2 fun d hd => bne_iff_ne.2 ?_
  rintro rfl
  exact h hd

theorem takeWhile_ne_append {s : List Char} {c : Char} (h : c ∉ s) (t : List Char) :
    (s ++ c :: t).takeWhile (· != c) = s := by
  refine takeWhile_append_cons (fun d hd => bne_iff_ne.2 ?_) (bne_self_eq_false c)
  rintro rfl
  exact h hd

theorem splitScheme?_append {name : List Char} (hne : name ≠ [])
    (h : ∀ c ∈ name, c.isAlpha = true) (rest : List Char) :
    splitScheme? (name ++ ':' :: rest) = some (lower (String.ofList name), rest) := by
  have hname : (name ++ ':' :: rest).takeWhile isSchemeChar = name := by
    refine takeWhile_append_cons (fun c hc => ?_) (by decide)
    simp [isSchemeChar, Char.isAlphanum, h c hc]
  rw [splitScheme?, hname, List.drop_left]
  cases name with
  | nil => exact absurd rfl hne
  | cons c name => exact if_pos (h c List.mem_cons_self)

theorem splitUser?_append {user place : List Char} (h : '@' ∉ place) :
    splitUser? (user ++ '@' :: place) = some (user, place) := by
  have hback : (user ++ '@' :: place).reverse.takeWhile (· != '@') = place.reverse := by
    rw [List.reverse_append, List.reverse_cons, List.append_assoc, List.singleton_append]
    exact takeWhile_ne_append (mt List.mem_reverse.1 h) _
  have hlength : (user ++ '@' :: place).length = user.length + 1 + place.length := by
    rw [List.length_append, List.length_cons]
    omega
  rw [splitUser?, hback, List.length_reverse, hlength, if_neg (by omega), List.reverse_reverse,
    Nat.add_sub_cancel, Nat.add_sub_cancel, List.take_left]

theorem splitUser?_eq_none {place : List Char} (h : '@' ∉ place) : splitUser? place = none := by
  have hback : place.reverse.takeWhile (· != '@') = place.reverse :=
    takeWhile_ne (mt List.mem_reverse.1 h)
  rw [splitUser?, hback, if_pos List.length_reverse]

theorem credentials_append {user password : List Char} (h : ':' ∉ user) :
    credentials (user ++ ':' :: password) = (String.ofList user, String.ofList password) := by
  have huser : (user ++ ':' :: password).takeWhile (· != ':') = user :=
    takeWhile_ne_append h password
  have hdrop : (user ++ ':' :: password).drop (user.length + 1) = password := by
    rw [← List.drop_drop, List.drop_left]
    rfl
  rw [credentials, huser, hdrop]

/-! ### Host, port and path -/

/-- A place where a host ends: nothing, a port or a path. -/
def EndsHost (rest : List Char) : Prop :=
  ∀ c, rest.head? = some c → c = ':' ∨ c = '/'

theorem hostSpan_append {host rest : List Char} (h : Inner host) (hrest : EndsHost rest) :
    hostSpan .general false (host ++ rest) = host := by
  induction host with
  | nil =>
    cases rest with
    | nil => rfl
    | cons c rest =>
      rcases hrest c rfl with rfl | rfl <;> rfl
  | cons c host ih =>
    obtain ⟨hc, hhost⟩ := List.forall_mem_cons.1 h
    have hcolon : c ≠ ':' := ne_of_isInner hc (by decide)
    have hbracket : c ≠ '[' := ne_of_isInner hc (by decide)
    rw [List.cons_append, hostSpan]
    simp [endsAuthority_of_isInner hc, hcolon, hbracket, ih hhost]

theorem ofText_inner {host : List Char} (h : Inner host) :
    Host.ofText host = .ok (String.ofList host) := by
  have hmarks : host.any Host.marks.contains = false := by
    rw [List.any_eq_false]
    intro c hc
    rw [marks_contains_of_isInner (h c hc)]
    decide
  have hkeep : Percent.encode (fun c => 0x20 ≤ c.toNat && c.toNat < 0x7F) (String.ofList host) =
      String.ofList host := by
    rw [Percent.encode, String.toList_ofList]
    refine congrArg String.ofList ?_
    calc
      host.flatMap (fun c => if (0x20 ≤ c.toNat && c.toNat < 0x7F) = true then [c]
          else (String.utf8EncodeChar c).flatMap Percent.group)
        = host.flatMap fun c => [c] := by
          refine List.flatMap_congr fun c hc => if_pos ?_
          obtain ⟨hlow, hhigh⟩ := isInner_bounds (h c hc)
          simp only [Bool.and_eq_true, decide_eq_true_iff]
          omega
      _ = host := List.flatMap_singleton' host
  rw [Host.ofText.eq_def]
  split
  next s => exact absurd List.mem_cons_self (h.notMem (c := '[') (by decide))
  next => rw [if_neg (by simp [hmarks]), hkeep]

theorem portFrom_digits {n k : Nat} {ds rest : List Char} (hds : ∀ d ∈ ds, isDigit d = true)
    (hn : natOfDigits k ds = n) (h : n ≤ 65535) :
    portFrom k (ds ++ '/' :: rest) = .ok (n, '/' :: rest) := by
  induction ds generalizing k with
  | nil =>
    subst hn
    rfl
  | cons d ds ih =>
    obtain ⟨hd, hds⟩ := List.forall_mem_cons.1 hds
    rw [Numeral.natOfDigits_cons] at hn
    have hle := Numeral.le_natOfDigits (10 * k + (d.toNat - 48)) ds
    rw [List.cons_append, portFrom, if_pos hd, if_pos (by omega), ih hds hn]

theorem readPort_toDigits {n : Nat} (h : n ≤ 65535) (rest : List Char) :
    readPort (Nat.toDigits 10 n ++ '/' :: rest) = .ok (some n, '/' :: rest) := by
  have hlength : ('/' :: rest).length ≠ (Nat.toDigits 10 n ++ '/' :: rest).length := by
    have hpos : 0 < (Nat.toDigits 10 n).length := Nat.length_toDigits_pos
    rw [List.length_append]
    omega
  rw [readPort, portFrom_digits (fun _ => isDigit_of_mem_toDigits) (natOfDigits_toDigits n) h]
  show Except.ok (if _ then none else some n, '/' :: rest) = _
  rw [if_neg hlength]

/-- One segment that stays where it is. -/
theorem pathBehind_segment {segment : List Char} (h : Inner segment) (hhere : isHere segment = false)
    (hup : isUp segment = false) :
    pathBehind .general ('/' :: segment) = String.ofList ('/' :: segment) := by
  have hslash : ∀ c ∈ segment, isSlash .general c = false := fun c hc => by
    have hne : c ≠ '/' := ne_of_isInner (h c hc) (by decide)
    simp [isSlash, SchemeClass.isSpecial, hne]
  have hquery : beforeQuery ('/' :: segment) = '/' :: segment := by
    refine List.takeWhile_eq_self_iff.2 (List.forall_mem_cons.2 ⟨by decide, fun c hc => ?_⟩)
    have hne : c ≠ '?' := ne_of_isInner (h c hc) (by decide)
    have hfragment : c ≠ '#' := ne_of_isInner (h c hc) (by decide)
    simp [hne, hfragment]
  have hresolve : resolve [] [segment] = [segment] := by
    rw [resolve, hhere, hup]
    rfl
  rw [pathBehind, hquery]
  show pathOf .general segment = _
  rw [pathOf, pieces_solid hslash, hresolve, List.flatMap_singleton]

/-! ### The whole -/

/-- What a URL is written from: user and password, the host, the port, and the one segment of its
path. -/
structure Parts where
  user : Option (List Char × List Char)
  host : List Char
  port : Option Nat
  segment : List Char

namespace Parts

variable (p : Parts)

def userText : List Char :=
  match p.user with
  | none => []
  | some (user, password) => user ++ ':' :: password

def portText : List Char :=
  match p.port with
  | none => []
  | some n => ':' :: Nat.toDigits 10 n

/-- What stands before the path. -/
def authority : List Char :=
  match p.user with
  | none => p.host ++ p.portText
  | some _ => p.userText ++ '@' :: (p.host ++ p.portText)

/-- What follows the two slashes. -/
def text : List Char :=
  p.authority ++ '/' :: p.segment

/-- The URL of a scheme with these parts. -/
def url (scheme : String) : Url where
  scheme := scheme
  username := String.ofList ((p.user.map (·.1)).getD [])
  password := String.ofList ((p.user.map (·.2)).getD [])
  host := some (String.ofList p.host)
  port := p.port
  path := String.ofList ('/' :: p.segment)

/-- Parts without a character that has a meaning of its own, and a segment that does not move. -/
structure Readable : Prop where
  user : ∀ user password, p.user = some (user, password) → Inner user ∧ Inner password
  host : Inner p.host
  hasHost : p.host ≠ []
  port : ∀ n, p.port = some n → n ≤ 65535
  segment : Inner p.segment
  notHere : isHere p.segment = false
  notUp : isUp p.segment = false

variable {p}

/-- Every character of a text is inner or the colon. -/
def Coloned (s : List Char) : Prop :=
  ∀ c ∈ s, isInner c = true ∨ c = ':'

theorem Coloned.notMem {s : List Char} (h : Coloned s) {c : Char} (hc : isInner c = false)
    (hcolon : c ≠ ':') : c ∉ s := by
  intro hm
  rcases h c hm with hinner | heq
  · exact ne_of_isInner hinner hc rfl
  · exact hcolon heq

theorem coloned_portText : Coloned p.portText := by
  intro c hc
  rw [portText] at hc
  split at hc
  next => cases hc
  next =>
    rcases List.mem_cons.1 hc with rfl | hc
    · exact .inr rfl
    · exact .inl (isInner_of_mem_toDigits hc)

namespace Readable

theorem coloned_userText (h : p.Readable) : Coloned p.userText := by
  intro c hc
  rw [userText] at hc
  split at hc
  next => cases hc
  next user password huser =>
    obtain ⟨hu, hp⟩ := h.user user password huser
    rcases List.mem_append.1 hc with hc | hc
    · exact .inl (hu c hc)
    · rcases List.mem_cons.1 hc with rfl | hc
      · exact .inr rfl
      · exact .inl (hp c hc)

theorem coloned_place (h : p.Readable) : Coloned (p.host ++ p.portText) := by
  intro c hc
  rcases List.mem_append.1 hc with hc | hc
  · exact .inl (h.host c hc)
  · exact coloned_portText c hc

theorem mem_authority (h : p.Readable) {c : Char} (hc : c ∈ p.authority) :
    isInner c = true ∨ c = ':' ∨ c = '@' := by
  have hplace : ∀ c ∈ p.host ++ p.portText, isInner c = true ∨ c = ':' ∨ c = '@' := fun c hc =>
    (h.coloned_place c hc).imp_right .inl
  rw [authority] at hc
  split at hc
  next => exact hplace c hc
  next =>
    rcases List.mem_append.1 hc with hc | hc
    · exact (h.coloned_userText c hc).imp_right .inl
    · rcases List.mem_cons.1 hc with rfl | hc
      · exact .inr (.inr rfl)
      · exact hplace c hc

theorem splitUser (h : p.Readable) :
    (splitUser? p.authority).getD ([], p.authority) = (p.userText, p.host ++ p.portText) := by
  have hplace : '@' ∉ p.host ++ p.portText := h.coloned_place.notMem (by decide) (by decide)
  rw [authority]
  cases huser : p.user with
  | none =>
    have htext : p.userText = [] := by rw [userText, huser]
    show (splitUser? (p.host ++ p.portText)).getD _ = _
    rw [splitUser?_eq_none hplace, htext]
    rfl
  | some u =>
    show (splitUser? (p.userText ++ '@' :: (p.host ++ p.portText))).getD _ = _
    rw [splitUser?_append hplace]
    rfl

theorem credentials_userText (h : p.Readable) :
    credentials p.userText = (String.ofList ((p.user.map (·.1)).getD []),
      String.ofList ((p.user.map (·.2)).getD [])) := by
  rw [userText]
  rcases huser : p.user with _ | ⟨user, password⟩
  · rfl
  · exact credentials_append ((h.user user password huser).1.notMem (by decide))

theorem hostSpan_place (h : p.Readable) :
    hostSpan .general false (p.host ++ p.portText) = p.host := by
  refine hostSpan_append h.host fun c hc => .inl ?_
  rw [portText] at hc
  split at hc
  next => cases hc
  next => exact (Option.some.inj hc).symm

end Readable

theorem withAuthority_text (h : p.Readable) (scheme : String) :
    withAuthority scheme .general p.text = .ok (p.url scheme) := by
  have hauthority : p.text.takeWhile (!endsAuthority .general ·) = p.authority := by
    refine takeWhile_append_cons (fun c hc => ?_) (by decide)
    rcases h.mem_authority hc with hc | rfl | rfl
    · rw [endsAuthority_of_isInner hc]
      rfl
    · rfl
    · rfl
  have htail : p.text.drop p.authority.length = '/' :: p.segment := List.drop_left
  have hspecial : SchemeClass.general.isSpecial = false := rfl
  have hplace : (p.host ++ p.portText).isEmpty = false := by
    rw [List.isEmpty_eq_false_iff]
    exact List.append_ne_nil_of_left_ne_nil h.hasHost _
  have hhost : (String.ofList p.host).isEmpty = false :=
    String.isEmpty_eq_false_iff.2 fun he => h.hasHost (String.ofList_eq_empty_iff.1 he)
  have hpath : pathBehind .general ('/' :: p.segment) = String.ofList ('/' :: p.segment) :=
    pathBehind_segment h.segment h.notHere h.notUp
  -- with a host there, and under a general scheme, no way to fail is left but the port
  simp only [withAuthority, hauthority, htail, h.splitUser, hplace, h.hostSpan_place,
    List.drop_left, ofText_inner h.host, h.credentials_userText, hspecial, Bool.false_eq_true,
    false_and, and_false, if_false]
  cases hport : p.port with
  | none =>
    have hrest : p.portText = [] := by rw [portText, hport]
    simp only [hrest, List.nil_append, bind, Except.bind, pure, Except.pure, hhost, hpath,
      Bool.false_eq_true, false_and, if_false]
    rw [url, hport]
    rfl
  | some n =>
    have hrest : p.portText = ':' :: Nat.toDigits 10 n := by rw [portText, hport]
    simp only [hrest, List.cons_append, readPort_toDigits (h.port n hport), bind, Except.bind, pure,
      Except.pure, hhost, hpath, Bool.false_eq_true, false_and, if_false]
    rw [url, hport]
    rfl

end Parts

/-- A URL put together from its parts is read as them. -/
theorem read_written {name : List Char} {p : Parts} (hne : name ≠ [])
    (hname : ∀ c ∈ name, c.isAlpha = true)
    (hgeneral : SchemeClass.of (lower (String.ofList name)) = .general) (h : p.Readable) :
    read (String.ofList (name ++ ':' :: '/' :: '/' :: p.text)) =
      .ok (p.url (lower (String.ofList name))) := by
  have hvisible : ∀ c ∈ name ++ ':' :: '/' :: '/' :: p.text, 0x20 < c.toNat := by
    have halpha : ∀ c ∈ name, isInner c = true := fun c hc => by
      simp [isInner, Char.isAlphanum, hname c hc]
    have hauthority : ∀ c ∈ p.authority, 0x20 < c.toNat := fun c hc => by
      rcases h.mem_authority hc with hc | rfl | rfl
      · exact (isInner_bounds hc).1
      · decide
      · decide
    simp only [Parts.text, List.forall_mem_append, List.forall_mem_cons]
    exact ⟨fun c hc => (isInner_bounds (halpha c hc)).1, by decide, by decide, by decide, hauthority,
      by decide, fun c hc => (isInner_bounds (h.segment c hc)).1⟩
  rw [read, String.toList_ofList, clean_eq hvisible, splitScheme?_append hne hname]
  simp only [hgeneral]
  exact Parts.withAuthority_text h _

end FluentSql.Url
