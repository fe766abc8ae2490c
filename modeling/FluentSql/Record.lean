import FluentSql.Value

/-! Records: values under distinct names, in the order in which the names came first. Putting a
value under a name that is there already changes the value and keeps the place. -/

namespace FluentSql

structure Record where
  entries : List (String × Value)
  nodup : (entries.map Prod.fst).Nodup

namespace Record

def empty : Record := ⟨[], .nil⟩

instance : Inhabited Record := ⟨empty⟩

def keys (r : Record) : List String :=
  r.entries.map Prod.fst

def size (r : Record) : Nat :=
  r.entries.length

def isEmpty (r : Record) : Bool :=
  r.entries.isEmpty

def get? (r : Record) (k : String) : Option Value :=
  r.entries.lookup k

/-- Changes the value under a name, or adds the name at the end. -/
def put (k : String) (v : Value) : List (String × Value) → List (String × Value)
  | [] => [(k, v)]
  | (l, w) :: es => if l = k then (k, v) :: es else (l, w) :: put k v es

theorem mem_keys_put {k l : String} {v : Value} {es : List (String × Value)} :
    l ∈ (put k v es).map Prod.fst ↔ l = k ∨ l ∈ es.map Prod.fst := by
  induction es with
  | nil => simp [put]
  | cons e es ih =>
    obtain ⟨m, w⟩ := e
    by_cases h : m = k
    · simp [put, h]
    · simp only [put, h, if_false, List.map_cons, List.mem_cons, ih]
      exact or_left_comm

theorem nodup_put {k : String} {v : Value} {es : List (String × Value)}
    (h : (es.map Prod.fst).Nodup) : ((put k v es).map Prod.fst).Nodup := by
  induction es with
  | nil => simp [put]
  | cons e es ih =>
    obtain ⟨m, w⟩ := e
    simp only [List.map_cons, List.nodup_cons] at h
    by_cases hm : m = k
    · subst hm; simpa [put] using h
    · simp only [put, hm, if_false, List.map_cons, List.nodup_cons]
      refine ⟨fun hmem => ?_, ih h.2⟩
      rcases mem_keys_put.1 hmem with rfl | hmem
      · exact hm rfl
      · exact h.1 hmem

def insert (r : Record) (k : String) (v : Value) : Record :=
  ⟨put k v r.entries, nodup_put r.nodup⟩

/-- The record of a row of pairs; the last value under a name counts. -/
def ofPairs (pairs : List (String × Value)) : Record :=
  pairs.foldl (fun r (k, v) => r.insert k v) empty

/-- The record of a row whose columns are read in order, each under its name. The first that cannot
be read ends it. -/
def ofReadings {ε : Type} (readings : List (String × Except ε Value)) : Except ε Record :=
  ofPairs <$> readings.mapM fun (name, v) => (name, ·) <$> v

def toJson (r : Record) : Json :=
  .object (r.entries.map fun (k, v) => (k, v.toJson))

end Record

end FluentSql
