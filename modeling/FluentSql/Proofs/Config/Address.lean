import FluentSql.Config.Basic
import FluentSql.Proofs.Text.Percent
import FluentSql.Proofs.Url.Written

/-! Configurations read from URLs. The URL of a server is put together from a scheme in any letter
case, user, password and the database's name percent-encoded, a host and a port. What is encoded has
no character with a meaning of its own in a URL, and it is a segment that moves only if it is one or
two points. So the URL gives back just these parts, and the path of an embedded database is read
from behind its scheme, `ofUrl_written`. -/

namespace FluentSql

open Text

/-- The schemes of servers, in lower case. -/
def Backend.schemes : List (String × Backend) :=
  [("mysql", .mysql), ("mariadb", .mysql), ("postgres", .postgres), ("postgresql", .postgres)]

namespace Config

open Url (Inner isInner isHere isUp)

/-! ### Percent-encoded parts -/

/-- A character that stands for itself in a URL. -/
def isPlain (c : Char) : Bool :=
  c.isAlphanum || c == '-' || c == '_'

/-- A text as it stands in a URL. -/
def escaped (s : String) : String :=
  Percent.encode isPlain s

theorem isInner_of_isPlain {c : Char} (h : isPlain c = true) : isInner c = true := by
  rw [isPlain] at h
  simp only [isInner, h, Bool.true_or]

theorem isPlain_bounds (c : Char) (h : isPlain c = true) : c.toNat < 0x80 ∧ c ≠ '%' := by
  have hbounds := Url.isInner_bounds (isInner_of_isPlain h)
  refine ⟨by omega, ?_⟩
  rintro rfl
  exact absurd h (by decide)

theorem mem_escaped {s : String} {c : Char} (h : c ∈ (escaped s).toList) :
    isPlain c = true ∨ c = '%' := by
  rcases Percent.mem_encode h with hc | hc | hc
  · exact .inl hc
  · exact .inr hc
  · exact .inl (by simp [isPlain, hc])

theorem inner_escaped (s : String) : Inner (escaped s).toList := by
  intro c hc
  rcases mem_escaped hc with hc | rfl
  · exact isInner_of_isPlain hc
  · decide

theorem percentDecoded_escaped (s : String) : percentDecoded (escaped s) = .ok s := by
  rw [percentDecoded, escaped, Percent.decode_encode isPlain_bounds]
  rfl

/-! ### Segments that move -/

/-- What a character of a URL is in lower case tells it up to its case. -/
theorem eq_of_toLower {c d : Char} (hc : isInner c = true) (h : c.toLower = d) :
    c = d ∨ c = d.toUpper := by
  have all : ∀ n < 128, Char.ofNat n = (Char.ofNat n).toLower ∨
      Char.ofNat n = (Char.ofNat n).toLower.toUpper := by decide
  have hbounds := Url.isInner_bounds hc
  have hall := all c.toNat (by omega)
  rwa [Char.ofNat_toNat, h] at hall

theorem point_notMem_lower (s : String) : '.' ∉ (escaped s).toList.map Char.toLower := by
  intro hm
  obtain ⟨c, hc, hlower⟩ := List.mem_map.1 hm
  have hpoint : c = '.' := (eq_of_toLower (inner_escaped s c hc) hlower).elim id id
  subst hpoint
  rcases mem_escaped hc with hc | hc
  · exact absurd hc (by decide)
  · exact absurd hc (by decide)

/-- The octet of a point, its digit in either case. -/
theorem decodeOctets_point {g : List Char} (hg : Inner g) (h : g.map Char.toLower = "%2e".toList)
    (bs : List UInt8) :
    Percent.decodeOctets (g.flatMap String.utf8EncodeChar ++ bs) = 0x2E :: Percent.decodeOctets bs := by
  have hgroup : "%2e".toList = ['%', '2', 'e'] := rfl
  rw [hgroup] at h
  simp only [List.map_eq_cons_iff, List.map_eq_nil_iff] at h
  obtain ⟨sign, _, rfl, hsign, high, _, rfl, hhigh, low, _, rfl, hlow, rfl⟩ := h
  obtain rfl : sign = '%' := (eq_of_toLower (hg _ (by simp)) hsign).elim id id
  obtain rfl : high = '2' := (eq_of_toLower (hg _ (by simp)) hhigh).elim id id
  -- of the three characters only the last has two cases
  rcases eq_of_toLower (hg _ (by simp)) hlow with rfl | rfl
  · show Percent.decodeOctets (0x25 :: 0x32 :: 0x65 :: bs) = _
    rfl
  · show Percent.decodeOctets (0x25 :: 0x32 :: 0x45 :: bs) = _
    rfl

/-- The text that an escaped one with these octets stands for. -/
theorem eq_of_decodeOctets {s t : String}
    (h : Percent.decodeOctets (Utf8.encode (escaped s)) = Utf8.encode t) : s = t := by
  rw [escaped, Percent.decodeOctets_text isPlain_bounds] at h
  have hsome : some s = some t := by rw [← Utf8.decode?_encode s, h, Utf8.decode?_encode]
  exact Option.some.inj hsome

theorem isHere_escaped {s : String} (h : s ≠ ".") : isHere (escaped s).toList = false := by
  rw [Bool.eq_false_iff]
  intro hhere
  simp only [isHere, Bool.or_eq_true, beq_iff_eq] at hhere
  rcases hhere with hpoint | hgroup
  · exact point_notMem_lower s (by rw [hpoint]; decide)
  · refine h (eq_of_decodeOctets ?_)
    have hoctets := decodeOctets_point (inner_escaped s) hgroup []
    rw [List.append_nil] at hoctets
    exact hoctets

theorem isUp_escaped {s : String} (h : s ≠ "..") : isUp (escaped s).toList = false := by
  rw [Bool.eq_false_iff]
  intro hup
  simp only [isUp, Bool.or_eq_true, beq_iff_eq] at hup
  -- an escaped text has no point of its own, which leaves the one spelling without any
  rcases hup with ((hpoint | hpoint) | hpoint) | hgroups
  · exact point_notMem_lower s (by rw [hpoint]; decide)
  · exact point_notMem_lower s (by rw [hpoint]; decide)
  · exact point_notMem_lower s (by rw [hpoint]; decide)
  · refine h (eq_of_decodeOctets ?_)
    obtain ⟨g, g', hs, hg, hg'⟩ := List.map_eq_append_iff.1
      (show (escaped s).toList.map Char.toLower = "%2e".toList ++ "%2e".toList from hgroups)
    have hinner : Inner (g ++ g') := hs ▸ inner_escaped s
    have hfront : Inner g := fun c hc => hinner c (List.mem_append_left _ hc)
    have hback : Inner g' := fun c hc => hinner c (List.mem_append_right _ hc)
    have hoctets := decodeOctets_point hback hg' []
    rw [List.append_nil] at hoctets
    rw [Utf8.encode, hs, List.flatMap_append, decodeOctets_point hfront hg, hoctets]
    rfl

/-! ### Schemes -/

theorem isAlpha_of_toLower {c : Char} (h : c.toLower.isAlpha = true) : c.isAlpha = true := by
  by_cases hu : c.isUpper = true
  · show (c.isUpper || c.isLower) = true
    rw [hu]
    rfl
  · have hsame : c.toLower = c := dif_neg fun hc => hu (decide_eq_true hc)
    rwa [hsame] at h

/-- What a URL shows of the scheme of a server, in any letter case. -/
structure Scheme (name : List Char) (b : Backend) : Prop where
  hasName : name ≠ []
  letters : ∀ c ∈ name, c.isAlpha = true
  notEmbedded : name.head? ≠ some 's'
  general : Url.SchemeClass.of (lower (String.ofList name)) = .general
  backend : Backend.ofScheme (lower (String.ofList name)) = .ok b

theorem Scheme.of_lower {scheme : String} {b : Backend}
    (h : (lower scheme, b) ∈ Backend.schemes) : Scheme scheme.toList b := by
  have hall : ∀ e ∈ Backend.schemes, e.1.toList ≠ [] ∧ e.1.toList.all Char.isAlpha = true ∧
      e.1.toList.head? ≠ some 's' ∧ Url.SchemeClass.of e.1 = .general := by decide
  have hbackend : ∀ e ∈ Backend.schemes, Backend.ofScheme e.1 = .ok e.2 := by
    simp [Backend.schemes, Backend.ofScheme]
  obtain ⟨hne, hletters, hhead, hgeneral⟩ := hall _ h
  have hlist : (lower scheme).toList = scheme.toList.map Char.toLower := String.toList_ofList
  rw [hlist] at hne hletters hhead
  have hscheme : String.ofList scheme.toList = scheme := String.ofList_toList
  refine ⟨fun he => hne (by rw [he]; rfl), fun c hc => ?_, fun hs => hhead ?_, ?_, ?_⟩
  · exact isAlpha_of_toLower (List.all_eq_true.1 hletters _ (List.mem_map_of_mem hc))
  · rw [List.head?_map, hs]
    rfl
  · rw [hscheme]
    exact hgeneral
  · rw [hscheme]
    exact hbackend _ h

/-! ### The URL of a server -/

/-- A URL; user and password, and the port, may be left out. -/
def serverUrl (scheme : String) (user : Option (String × String)) (host : String)
    (port : Option UInt16) (database : String) : String :=
  let userText := match user with
    | none => ""
    | some (user, password) => escaped user ++ ":" ++ escaped password ++ "@"
  let portText := match port with
    | none => ""
    | some n => ":" ++ toString n.toNat
  scheme ++ "://" ++ userText ++ host ++ portText ++ "/" ++ escaped database

/-- The parts of such a URL. -/
def parts (user : Option (String × String)) (host : String) (port : Option UInt16)
    (database : String) : Url.Parts where
  user := user.map fun u => ((escaped u.1).toList, (escaped u.2).toList)
  host := host.toList
  port := port.map UInt16.toNat
  segment := (escaped database).toList

/-- A character that a host is written with. -/
def isHostChar (c : Char) : Bool :=
  c.isAlphanum || c == '-' || c == '.'

section Server

variable {scheme host database : String} (user : Option (String × String)) (port : Option UInt16)

theorem serverUrl_eq :
    serverUrl scheme user host port database =
      String.ofList (scheme.toList ++ ':' :: '/' :: '/' :: (parts user host port database).text) := by
  refine String.toList_inj.1 ?_
  have hslashes : "://".toList = [':', '/', '/'] := rfl
  have hcolon : ":".toList = [':'] := rfl
  have hat : "@".toList = ['@'] := rfl
  have hslash : "/".toList = ['/'] := rfl
  cases user <;> cases port <;>
    simp [serverUrl, parts, Url.Parts.text, Url.Parts.authority, Url.Parts.userText,
      Url.Parts.portText, Nat.toString_eq_repr, Nat.toList_repr, hslashes, hcolon, hat, hslash]

theorem readable_parts (hne : host ≠ "") (hhost : ∀ c ∈ host.toList, isHostChar c = true)
    (hhere : database ≠ ".") (hup : database ≠ "..") :
    (parts user host port database).Readable := by
  have hsegment : (parts user host port database).segment = (escaped database).toList := by
    rw [parts]
  refine
    { user := fun u w hu => ?_
      host := fun c hc => ?_
      hasHost := fun hnil => hne (String.toList_eq_nil_iff.1 hnil)
      port := fun n hn => ?_
      segment := hsegment ▸ inner_escaped database
      notHere := hsegment ▸ isHere_escaped hhere
      notUp := hsegment ▸ isUp_escaped hup }
  · obtain ⟨v, -, hv⟩ := Option.map_eq_some_iff.1 hu
    obtain ⟨rfl, rfl⟩ := Prod.mk.inj hv
    exact ⟨inner_escaped _, inner_escaped _⟩
  · have hchar := hhost c hc
    simp only [isHostChar, Bool.or_eq_true] at hchar
    simp only [isInner, Bool.or_eq_true]
    rcases hchar with (hchar | hchar) | hchar <;> simp [hchar]
  · obtain ⟨m, -, rfl⟩ := Option.map_eq_some_iff.1 hn
    exact Nat.le_of_lt_succ m.toNat_lt

theorem embeddedRest?_eq_none {url : String} (h : url.toList.head? ≠ some 's') :
    embeddedRest? url = none := by
  rw [embeddedRest?]
  split
  next hs => exact absurd (congrArg List.head? hs) h
  next hs => exact absurd (congrArg List.head? hs) h
  next => rfl

/-- The path of a URL is one slash and the database's name. -/
theorem databaseOf_escaped (s : String) :
    databaseOf (String.ofList ('/' :: (escaped s).toList)) = escaped s := by
  have hslash : '/' ∉ (escaped s).toList := (inner_escaped s).notMem (by decide)
  have hfront : (escaped s).toList.dropWhile (· == '/') = (escaped s).toList := by
    cases hs : (escaped s).toList with
    | nil => rfl
    | cons c cs =>
      rw [hs] at hslash
      have hne : c ≠ '/' := fun he => hslash (he ▸ List.mem_cons_self)
      exact List.dropWhile_cons_of_neg (by simp [hne])
  rw [databaseOf, String.toList_ofList, List.dropWhile_cons_of_pos rfl, hfront, String.ofList_toList]

/-- A user or a password that may be missing. -/
theorem percentDecoded_getD (f : String × String → String) :
    percentDecoded (String.ofList ((user.map fun u => (escaped (f u)).toList).getD [])) =
      .ok ((user.map f).getD "") := by
  cases user with
  | none =>
    have hempty : escaped "" = String.ofList [] := by decide
    show percentDecoded (String.ofList []) = .ok ""
    rw [← hempty, percentDecoded_escaped]
  | some u =>
    show percentDecoded (String.ofList (escaped (f u)).toList) = .ok (f u)
    rw [String.ofList_toList, percentDecoded_escaped]

theorem ofServerUrl_parts {name : String} {b : Backend} (hbackend : Backend.ofScheme name = .ok b) :
    ofServerUrl ((parts user host port database).url name) =
      .ok { backend := b, host, port := port.getD 0
            username := (user.map (·.1)).getD "", password := (user.map (·.2)).getD ""
            database } := by
  have hport : UInt16.ofNat ((port.map UInt16.toNat).getD 0) = port.getD 0 := by
    cases port with
    | none => rfl
    | some n => exact UInt16.ofNat_toNat
  simp only [ofServerUrl, Url.Parts.url, parts, Option.map_map, Function.comp_def, hbackend, hport,
    percentDecoded_getD user (·.1), percentDecoded_getD user (·.2), databaseOf_escaped,
    percentDecoded_escaped, String.ofList_toList, Option.getD_some]
  rfl

end Server

/-! ### URLs of embedded databases -/

theorem ofEmbeddedRest_path {path : String} (url : String) (hne : path ≠ "")
    (hquery : '?' ∉ path.toList) : ofEmbeddedRest url path.toList = .ok (embedded path) := by
  have hwhole : path.toList.takeWhile (· != '?') = path.toList := Url.takeWhile_ne hquery
  rw [ofEmbeddedRest, hwhole]
  split
  next hnil => exact absurd (String.toList_eq_nil_iff.1 hnil) hne
  next => rw [String.ofList_toList]

theorem embeddedRest?_slashes (path : String) :
    embeddedRest? ("sqlite://" ++ path) = some path.toList := by
  rw [embeddedRest?, String.toList_append]
  rfl

theorem embeddedRest?_colon {path : String} (h : ¬ "//".toList <+: path.toList) :
    embeddedRest? ("sqlite:" ++ path) = some path.toList := by
  have hlist : ("sqlite:" ++ path).toList = 's' :: 'q' :: 'l' :: 'i' :: 't' :: 'e' :: ':' ::
      path.toList := String.toList_append
  rw [embeddedRest?, hlist]
  split
  next rest hs =>
    have hpath : path.toList = '/' :: '/' :: rest := by simpa using hs
    exact absurd ⟨rest, hpath.symm⟩ h
  next rest _ hs =>
    have hpath : path.toList = rest := by simpa using hs
    rw [hpath]
  next hother => exact absurd rfl (hother _)

/-- A URL gives back what it was put together from. -/
theorem ofUrl_written :
    (∀ (scheme host database : String) (b : Backend) (user : Option (String × String))
        (port : Option UInt16),
      (lower scheme, b) ∈ Backend.schemes → host ≠ "" →
      (∀ c ∈ host.toList, isHostChar c = true) → database ≠ "." → database ≠ ".." →
      ofUrl (serverUrl scheme user host port database) =
        .ok { backend := b, host, port := port.getD 0
              username := (user.map (·.1)).getD "", password := (user.map (·.2)).getD ""
              database }) ∧
    ∀ path : String, path ≠ "" → '?' ∉ path.toList →
      ofUrl ("sqlite://" ++ path) = .ok (embedded path) ∧
      (¬ "//".toList <+: path.toList → ofUrl ("sqlite:" ++ path) = .ok (embedded path)) := by
  refine ⟨fun scheme host database b user port hscheme hne hhost hhere hup => ?_,
    fun path hne hquery => ⟨?_, fun hslashes => ?_⟩⟩
  · have hs := Scheme.of_lower hscheme
    have hread := Url.read_written hs.hasName hs.letters hs.general
      (readable_parts user port hne hhost hhere hup)
    rw [← serverUrl_eq] at hread
    have hserver : embeddedRest? (serverUrl scheme user host port database) = none := by
      refine embeddedRest?_eq_none ?_
      rw [serverUrl_eq, String.toList_ofList, List.head?_append_of_ne_nil _ hs.hasName]
      exact hs.notEmbedded
    rw [ofUrl, hserver, hread]
    exact ofServerUrl_parts user port hs.backend
  · rw [ofUrl, embeddedRest?_slashes]
    exact ofEmbeddedRest_path _ hne hquery
  · rw [ofUrl, embeddedRest?_colon hslashes]
    exact ofEmbeddedRest_path _ hne hquery

/-- A password with the marks of URLs, and a database whose name begins with one. -/
theorem ofUrl_written_marks :
    ofUrl (serverUrl "PostgreSQL" (some ("me", "p@ss:/%#ü")) "db-1.example" (some 5433) "/a?b") =
      .ok { backend := .postgres, host := "db-1.example", port := 5433
            username := "me", password := "p@ss:/%#ü", database := "/a?b" } ∧
    ofUrl ("sqlite://" ++ "/a b.db") = .ok (embedded "/a b.db") ∧
    ofUrl ("sqlite:" ++ ":memory:") = .ok (embedded ":memory:") :=
  ⟨ofUrl_written.1 "PostgreSQL" "db-1.example" "/a?b" .postgres (some ("me", "p@ss:/%#ü")) (some 5433)
      (by decide) (by decide) (List.all_eq_true.1 (by decide)) (by decide) (by decide),
    (ofUrl_written.2 "/a b.db" (by decide) (by decide)).1,
    (ofUrl_written.2 ":memory:" (by decide) (by decide)).2 (by decide)⟩

example : serverUrl "Postgres" (some ("a", "p@ss:/%#ü")) "b" (some 5433) "/c.d" =
    "Postgres://a:p%40ss%3A%2F%25%23%C3%BC@b:5433/%2Fc%2Ed" := by decide

end Config

end FluentSql
