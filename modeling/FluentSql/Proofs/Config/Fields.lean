import FluentSql.Config.Json
import FluentSql.Proofs.Text.Words
import Mathlib.Data.List.Nodup

/-! Configurations in JSON, read back from what they are written as, from objects that say the same
otherwise, and from arrays, `ofJson_variants`. A field that is read says either nothing or what the
configuration has there; what no field says holds by default. So it does not matter in which order
the fields stand, nor which of those that agree with the defaults are left out. -/

namespace FluentSql

open Text (Caseless Padded)

/-! ### Names of backends -/

namespace Backend

/-- The text is one of the names of a backend, in any letter case and with white space around it. -/
def Named (b : Backend) (s : String) : Prop :=
  ∃ name ∈ b.aliases, ∃ t, Caseless t name.toList ∧ Padded t s.toList

theorem isWord_of_mem_aliases {b : Backend} {name : String} (h : name ∈ b.aliases) :
    Text.IsWord name.toList ∧ Text.lower name = name := by
  revert name
  cases b <;> decide

theorem find?_of_mem_aliases {b : Backend} {name : String} (h : name ∈ b.aliases) :
    [mysql, postgres, sqlite].find? (fun b => b.aliases.contains name) = some b := by
  revert name
  cases b <;> decide

theorem ofText_of_named {b : Backend} {s : String} (h : b.Named s) : ofText s = .ok b := by
  obtain ⟨name, hname, t, hcase, hpad⟩ := h
  obtain ⟨hword, hlower⟩ := isWord_of_mem_aliases hname
  have hspelling : Text.lower (Text.trim s) = name := by
    rw [Text.trim_of_padded (hcase.isWord hword) hpad, Text.lower, String.toList_ofList,
      Text.map_toLower_eq_iff.2 hcase, ← Text.lower, hlower]
  simp only [ofText, hspelling, find?_of_mem_aliases hname]

theorem named_name (b : Backend) : b.Named b.name := by
  refine ⟨b.name, by cases b <;> decide, b.name.toList, Text.map_toUpper_eq_iff.1 rfl, ?_⟩
  exact ⟨[], [], by simp, by simp, by simp⟩

end Backend

namespace Config

/-- The fields that a configuration is written with. -/
def fields (c : Config) : List (String × Json) :=
  [("type", .string c.backend.name), ("host", .string c.host), ("port", .integer c.port.toNat),
    ("username", .string c.username), ("password", .string c.password),
    ("database", .string c.database)]

/-- The fields that say what holds without them. -/
def defaults : List (String × Json) :=
  [("host", .string "localhost"), ("port", .integer 0), ("username", .string ""),
    ("password", .string ""), ("database", .string "")]

/-- The fields of the objects that say the same as the one that a configuration is written as. -/
inductive Variant (c : Config) : List (String × Json) → Prop where
  | written : Variant c c.fields
  | reordered {fs gs : List (String × Json)} : Variant c fs → fs.Perm gs → Variant c gs
  | added {fs : List (String × Json)} {name : String} {x : Json} : Variant c fs →
      name ∉ fieldNames → Variant c ((name, x) :: fs)
  | omitted {fs : List (String × Json)} {field : String × Json} : Variant c (field :: fs) →
      field ∈ defaults → Variant c fs
  | respelled {fs : List (String × Json)} {x : Json} {s : String} : Variant c (("type", x) :: fs) →
      c.backend.Named s → Variant c (("type", .string s) :: fs)

/-! ### What fields say -/

/-- The field says what the configuration has there, or nothing. -/
inductive Carries (c : Config) : String × Json → Prop where
  | type {s : String} : c.backend.Named s → Carries c ("type", .string s)
  | field {field : String × Json} : field ∈ c.fields → Carries c field
  | unknown {name : String} {x : Json} : name ∉ fieldNames → Carries c (name, x)

/-- The fields say all that the configuration has and that does not hold by default. -/
structure Told (c : Config) (fs : List (String × Json)) : Prop where
  carries : ∀ field ∈ fs, Carries c field
  complete : ∀ field ∈ c.fields, field.1 ∈ fs.map Prod.fst ∨ field ∈ defaults

theorem eq_of_mem_fields {c : Config} {f g : String × Json} (hf : f ∈ c.fields)
    (hg : g ∈ c.fields) (h : f.1 = g.1) : f = g := by
  have hnodup : (c.fields.map Prod.fst).Nodup := by
    show fieldNames.Nodup
    decide
  exact List.inj_on_of_nodup_map hnodup hf hg h

/-- A field that holds by default is no unknown one, and not that of the backend. -/
theorem Carries.mem_fields {c : Config} {field : String × Json} (h : Carries c field)
    (hdefault : field ∈ defaults) : field ∈ c.fields := by
  have hname : field.1 ∈ defaults.map Prod.fst := List.mem_map_of_mem hdefault
  cases h with
  | type => exact absurd (show "type" ∈ defaults.map Prod.fst from hname) (by decide)
  | field hfield => exact hfield
  | unknown hunknown =>
    have hall : ∀ name ∈ defaults.map Prod.fst, name ∈ fieldNames := by decide
    exact absurd (hall _ hname) hunknown

theorem Variant.told {c : Config} {fs : List (String × Json)} (h : Variant c fs) : Told c fs := by
  induction h with
  | written => exact ⟨fun _ => .field, fun _ hf => .inl (List.mem_map_of_mem hf)⟩
  | reordered _ hperm ih =>
    refine ⟨fun f hf => ih.carries f (hperm.mem_iff.2 hf), fun f hf => ?_⟩
    rw [← (hperm.map Prod.fst).mem_iff]
    exact ih.complete f hf
  | added _ hname ih =>
    refine ⟨List.forall_mem_cons.2 ⟨.unknown hname, ih.carries⟩, fun f hf => ?_⟩
    exact (ih.complete f hf).imp_left (List.mem_cons_of_mem _)
  | omitted _ hdefault ih =>
    obtain ⟨hcarries, hrest⟩ := List.forall_mem_cons.1 ih.carries
    refine ⟨hrest, fun f hf => ?_⟩
    rcases ih.complete f hf with hname | hf'
    · rcases List.mem_cons.1 hname with hname | hname
      -- the field left out was the one that says this
      · rw [eq_of_mem_fields hf (hcarries.mem_fields hdefault) hname]
        exact .inr hdefault
      · exact .inl hname
    · exact .inr hf'
  | respelled _ hnamed ih =>
    exact ⟨List.forall_mem_cons.2 ⟨.type hnamed, (List.forall_mem_cons.1 ih.carries).2⟩,
      ih.complete⟩

/-! ### Reading fields -/

/-- The draft once fields of these names have been read. -/
def Draft.known (c : Config) (d : Draft) (names : List String) : Draft where
  backend := if "type" ∈ names then some c.backend else d.backend
  rest :=
    { backend := d.rest.backend
      host := if "host" ∈ names then c.host else d.rest.host
      port := if "port" ∈ names then c.port else d.rest.port
      username := if "username" ∈ names then c.username else d.rest.username
      password := if "password" ∈ names then c.password else d.rest.password
      database := if "database" ∈ names then c.database else d.rest.database }

section Draft

variable {c : Config}

theorem Draft.known_known (d : Draft) (ms ns : List String) :
    (d.known c ms).known c ns = d.known c (ms ++ ns) := by
  have hmem (name : String) : name ∈ ms ++ ns ↔ name ∈ ns ∨ name ∈ ms := by
    rw [List.mem_append, or_comm]
  simp only [Draft.known, hmem, ite_or]

theorem asUInt16_toNat (n : UInt16) : (Json.integer n.toNat).asUInt16 = .ok n := by
  have hn : (0 : Int) ≤ n.toNat ∧ (n.toNat : Int) < UInt16.size := by
    have : n.toNat < UInt16.size := n.toNat_lt_size
    omega
  rw [Json.asUInt16, if_pos hn]
  simp

/-- The field of the backend, under any of its names. -/
theorem Draft.read_type (d : Draft) {s : String} (h : c.backend.Named s) :
    d.read "type" (.string s) = .ok (d.known c ["type"]) := by
  simp [Draft.read, Json.asText, Backend.ofText_of_named h, Draft.known, Except.mapError, bind,
    Except.bind, pure, Except.pure]

theorem Draft.read_port (d : Draft) {x : Json} (h : x.asUInt16 = .ok c.port) :
    d.read "port" x = .ok (d.known c ["port"]) := by
  simp [Draft.read, h, Draft.known, bind, Except.bind, pure, Except.pure]

theorem Draft.read_eq (d : Draft) {field : String × Json} (h : Carries c field) :
    d.read field.1 field.2 = .ok (d.known c [field.1]) := by
  cases h with
  | type hnamed => exact d.read_type hnamed
  | field hfield =>
    simp only [fields, List.mem_cons, List.not_mem_nil, or_false] at hfield
    rcases hfield with rfl | rfl | rfl | rfl | rfl | rfl
    case inl => exact d.read_type c.backend.named_name
    case inr.inr.inl => exact d.read_port (asUInt16_toNat c.port)
    all_goals
      simp [Draft.read, Json.asText, Draft.known, bind, Except.bind, pure, Except.pure]
  | unknown hname =>
    simp only [fieldNames, List.mem_cons, List.not_mem_nil, or_false, not_or] at hname
    obtain ⟨htype, hhost, hport, husername, hpassword, hdatabase⟩ := hname
    unfold Draft.read
    split <;> simp_all [Draft.known, eq_comm]

/-- Fields that carry a configuration are read in any order. -/
theorem foldlM_read {fs : List (String × Json)} (h : ∀ field ∈ fs, Carries c field) (d : Draft) :
    fs.foldlM (fun d (name, x) => d.read name x) d = .ok (d.known c (fs.map Prod.fst)) := by
  induction fs generalizing d with
  | nil => simp [Draft.known, pure, Except.pure]
  | cons field fs ih =>
    rw [List.forall_mem_cons] at h
    have hfield : (match field with | (name, x) => d.read name x) = .ok (d.known c [field.1]) :=
      d.read_eq h.1
    rw [List.foldlM_cons, hfield, List.map_cons]
    exact (ih h.2 _).trans (congrArg Except.ok (d.known_known [field.1] (fs.map Prod.fst)))

theorem ite_eq_left_of_default {α : Type} {p : Prop} [Decidable p] {a b : α} (h : p ∨ a = b) :
    (if p then a else b) = a := by
  split
  · rfl
  · exact (h.resolve_left ‹_›).symm

/-- What the fields do not say is there by default. -/
theorem finish_known {fs : List (String × Json)} (h : Told c fs) :
    (Draft.known c {} (fs.map Prod.fst)).finish = .ok c := by
  have htype : "type" ∈ fs.map Prod.fst :=
    (h.complete ("type", .string c.backend.name) (by simp [fields])).resolve_right
      (by simp [defaults])
  have hhost : "host" ∈ fs.map Prod.fst ∨ c.host = "localhost" :=
    (h.complete ("host", .string c.host) (by simp [fields])).imp_right (by simp [defaults])
  have hport : "port" ∈ fs.map Prod.fst ∨ c.port = 0 :=
    (h.complete ("port", .integer c.port.toNat) (by simp [fields])).imp_right fun hd => by
      rw [← UInt16.toNat_inj]
      simpa [defaults] using hd
  have husername : "username" ∈ fs.map Prod.fst ∨ c.username = "" :=
    (h.complete ("username", .string c.username) (by simp [fields])).imp_right (by simp [defaults])
  have hpassword : "password" ∈ fs.map Prod.fst ∨ c.password = "" :=
    (h.complete ("password", .string c.password) (by simp [fields])).imp_right (by simp [defaults])
  have hdatabase : "database" ∈ fs.map Prod.fst ∨ c.database = "" :=
    (h.complete ("database", .string c.database) (by simp [fields])).imp_right (by simp [defaults])
  simp only [Draft.known, Draft.finish, if_pos htype, ite_eq_left_of_default hhost,
    ite_eq_left_of_default hport, ite_eq_left_of_default husername,
    ite_eq_left_of_default hpassword, ite_eq_left_of_default hdatabase]

theorem ofJson_object {fs : List (String × Json)} (h : Told c fs) :
    ofJson (.object fs) = .ok c := by
  have hread := foldlM_read h.carries {}
  have hfinish := finish_known h
  show (fs.foldlM (fun d (name, x) => Draft.read d name x) {} >>= Draft.finish) = .ok c
  rw [hread]
  exact hfinish

/-- An array holds the first fields, in order. -/
theorem zip_fieldNames {given omitted : List (String × Json)} (h : c.fields = given ++ omitted) :
    fieldNames.zip (given.map Prod.snd) = given := by
  have hnames : fieldNames = given.map Prod.fst ++ omitted.map Prod.fst := by
    rw [← List.map_append, ← h]
    rfl
  have hzip : (given.map Prod.fst ++ omitted.map Prod.fst).zip (given.map Prod.snd ++ []) =
      (given.map Prod.fst).zip (given.map Prod.snd) ++ (omitted.map Prod.fst).zip [] :=
    List.zip_append (by simp)
  rw [List.append_nil, List.zip_nil_right, List.append_nil, ← hnames] at hzip
  rw [hzip]
  exact (List.zip_of_prod rfl rfl).symm

theorem told_of_append {given omitted : List (String × Json)} (h : c.fields = given ++ omitted)
    (hdefault : ∀ field ∈ omitted, field ∈ defaults) : Told c given := by
  refine ⟨fun field hfield => .field ?_, fun field hfield => ?_⟩
  · rw [h]
    exact List.mem_append_left _ hfield
  · rw [h] at hfield
    exact (List.mem_append.1 hfield).imp List.mem_map_of_mem (hdefault field)

theorem ofJson_array {given omitted : List (String × Json)} (h : c.fields = given ++ omitted)
    (hdefault : ∀ field ∈ omitted, field ∈ defaults) :
    ofJson (.array (given.map Prod.snd)) = .ok c := by
  have htold := told_of_append h hdefault
  have hlength : given.length ≤ fieldNames.length := by
    have hfields : c.fields.length = fieldNames.length := rfl
    rw [h, List.length_append] at hfields
    omega
  have hread : (Json.array (given.map Prod.snd)).readFields "struct DatabaseConfig" fieldNames
      Draft.read {} = .ok (Draft.known c {} (given.map Prod.fst)) := by
    rw [Json.readFields, zip_fieldNames h, foldlM_read htold.carries]
    simp [hlength, bind, Except.bind, pure, Except.pure]
  have hfinish := finish_known htold
  cases given with
  | nil =>
    have htype : ("type", Json.string c.backend.name) ∈ omitted := by
      rw [← List.nil_append omitted, ← h]
      exact List.mem_cons_self
    exact absurd (hdefault _ htype) (by simp [defaults])
  | cons field given =>
    show (Json.readFields _ _ _ _ _ >>= Draft.finish) = .ok c
    rw [hread]
    exact hfinish

end Draft

/-- A configuration is read from the object that it is written as, from any other that says the same,
and from the array of its fields in order, without those at the end that hold by default. -/
theorem ofJson_variants (c : Config) :
    ofJson c.toJson = .ok c ∧
      (∀ fs, Variant c fs → ofJson (.object fs) = .ok c) ∧
      ∀ given omitted, c.fields = given ++ omitted → (∀ field ∈ omitted, field ∈ defaults) →
        ofJson (.array (given.map Prod.snd)) = .ok c :=
  ⟨ofJson_object Variant.written.told, fun _ h => ofJson_object h.told,
    fun _ _ => ofJson_array⟩

theorem ofJson_variants_server :
    let c : Config := { backend := .postgres, host := "db", database := "shop" }
    let type : String × Json := ("type", .string " PG\n")
    let host : String × Json := ("host", .string "db")
    let database : String × Json := ("database", .string "shop")
    let ssl : String × Json := ("ssl", .bool true)
    (Variant c [database, ssl, type, host] ∧
        ofJson (.object [database, ssl, type, host]) = .ok c) ∧
      let c : Config := { backend := .mysql, host := "db" }
      (c.fields = c.fields.take 2 ++ c.fields.drop 2 ∧
          ∀ field ∈ c.fields.drop 2, field ∈ defaults) ∧
        ofJson (.array [.string "mysql", .string "db"]) = .ok c := by
  intro c type host database ssl
  have hnamed : c.backend.Named " PG\n" := by
    refine ⟨"pg", by decide, ['P', 'G'], Text.map_toUpper_eq_iff.1 (by decide), ?_⟩
    exact ⟨[' '], ['\n'], List.forall_mem_singleton.2 rfl, List.forall_mem_singleton.2 rfl, rfl⟩
  have hspelled : Variant c (type :: c.fields.tail) :=
    .respelled (x := .string "postgres") .written hnamed
  -- the fields that hold by default are brought to the front and left out
  have hfront : Variant c (("port", .integer 0) :: ("username", .string "") ::
      ("password", .string "") :: [type, host, database]) :=
    hspelled.reordered (List.perm_append_comm_assoc [type, host]
      [("port", .integer 0), ("username", .string ""), ("password", .string "")] [database])
  have hshort : Variant c [type, host, database] :=
    ((hfront.omitted (by simp [defaults])).omitted (by simp [defaults])).omitted
      (by simp [defaults])
  have hlong : Variant c [ssl, type, host, database] := hshort.added (by decide)
  have hvariant : Variant c [database, ssl, type, host] :=
    hlong.reordered (List.perm_append_singleton database [ssl, type, host])
  refine ⟨⟨hvariant, (ofJson_variants c).2.1 _ hvariant⟩, ?_⟩
  intro c
  have hdefault : ∀ field ∈ c.fields.drop 2, field ∈ defaults := by simp [c, fields, defaults]
  exact ⟨⟨rfl, hdefault⟩, (ofJson_variants c).2.2 (c.fields.take 2) (c.fields.drop 2) rfl hdefault⟩

end Config

end FluentSql
