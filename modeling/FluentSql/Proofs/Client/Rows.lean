import FluentSql.Proofs.Client.Answers
import FluentSql.Proofs.Connection.Failing
import FluentSql.Proofs.Record.Readings

/-! The rows that a query gets back. On every backend a row is read whole or not at all, and so are
the rows of a result; where a single cell cannot be read the query has failed, and the manager has
given its handle back and is as it was, `query_reads_rows`. -/

namespace FluentSql

namespace Postgres

/-- The columns of a row as a reply describes them, each with its cell; one without a cell is null. -/
def columnsOf (columns : List Column) (cells : List (Option (List UInt8))) : Columns DecodeError :=
  .of Column.name (fun c i => decodeColumn c i (cells[i]?.getD none)) columns

theorem decodeRow_reads (columns : List Column) (cells : List (Option (List UInt8))) :
    ReadsRow (columnsOf columns cells) (decodeRow columns cells) := by
  have hreadings : readings columns cells = (columnsOf columns cells).readings := by
    rw [columnsOf, Columns.readings_of]
    rfl
  rw [decodeRow, hreadings]
  exact Record.ofReadings_reads _

theorem Reply.output_read (r : Reply) : ReadsAll r.rows (columnsOf r.columns) (r.output .read) :=
  readsAll r.rows (decodeRow_reads r.columns) DecodeError.message

/-- What comes before the rows fails, or the rows do. -/
theorem execute_of_unreadable {sql : String} (hsql : Access.ofSql sql = .read)
    (params : List Value) {s : Server} {row : List (Option (List UInt8))}
    (hrow : row ∈ s.reply.rows) (h : ¬ (columnsOf s.reply.columns row).Readable) :
    ∃ e v, execute sql params s = (.error e, v) := by
  rcases hx : execute sql params s with ⟨e | raw, v⟩
  · exact ⟨e, v, rfl⟩
  · have hraw := output_of_execute (congrArg Prod.fst hx)
    rw [hsql] at hraw
    exact absurd (s.reply.output_read.ok_iff.1 ⟨raw, hraw⟩ row hrow) h

end Postgres

namespace MySql

/-- The columns of a row as a reply describes them, each with its cell; one without a cell is null. -/
def columnsOf (columns : List Column) (cells : List (Option (List UInt8))) : Columns CellError :=
  .of Column.name (fun c i => decodeColumn c i (cells[i]?.getD none)) columns

theorem decodeRow_reads (columns : List Column) (cells : List (Option (List UInt8))) :
    ReadsRow (columnsOf columns cells) (decodeRow columns cells) := by
  have hreadings : readings columns cells = (columnsOf columns cells).readings := by
    rw [columnsOf, Columns.readings_of]
    rfl
  rw [decodeRow, hreadings]
  exact Record.ofReadings_reads _

theorem Reply.output_read (r : Reply) : ReadsAll r.rows (columnsOf r.columns) (r.output .read) :=
  readsAll r.rows (decodeRow_reads r.columns) CellError.message

theorem execute_of_unreadable {sql : String} (hsql : Access.ofSql sql = .read)
    (params : List Value) {s : Server} {row : List (Option (List UInt8))}
    (hrow : row ∈ s.reply.rows) (h : ¬ (columnsOf s.reply.columns row).Readable) :
    ∃ e v, execute sql params s = (.error e, v) := by
  rcases hx : execute sql params s with ⟨e | raw, v⟩
  · exact ⟨e, v, rfl⟩
  · have hraw := output_of_execute (congrArg Prod.fst hx)
    rw [hsql] at hraw
    exact absurd (s.reply.output_read.ok_iff.1 ⟨raw, hraw⟩ row hrow) h

end MySql

namespace Sqlite

/-- The columns of a row, each with the cell that it holds. -/
def columnsOf (row : Row) : Columns CellError :=
  .of Column.name decodeColumn row

theorem decodeRow_reads (row : Row) : ReadsRow (columnsOf row) (decodeRow row) := by
  have hreadings : readings row = (columnsOf row).readings := (Columns.readings_of ..).symm
  rw [decodeRow, hreadings]
  exact Record.ofReadings_reads _

theorem output_read (rows : List Row) (touched : Nat) :
    ReadsAll rows columnsOf (output .read (rows, touched)) :=
  readsAll rows decodeRow_reads CellError.message

theorem executeBy_of_unreadable {σ : Type} {runs : Runs σ} {sql : String}
    (hsql : Access.ofSql sql = .read) {params bound : List Value} {w : σ} {rows : List Row}
    {touched : Nat} (hbound : params.mapM bind = .ok bound)
    (hruns : (runs sql bound w).1 = .ok (rows, touched)) {row : Row} (hrow : row ∈ rows)
    (h : ¬ (columnsOf row).Readable) : ∃ e v, executeBy runs sql params w = (.error e, v) := by
  rcases hx : executeBy runs sql params w with ⟨e | raw, v⟩
  · exact ⟨e, v, rfl⟩
  · obtain ⟨bound', result, hb, hr, hraw⟩ := output_of_executeBy (congrArg Prod.fst hx)
    cases hbound.symm.trans hb
    cases hruns.symm.trans hr
    rw [hsql] at hraw
    exact absurd ((output_read rows touched).ok_iff.1 ⟨raw, hraw⟩ row hrow) h

end Sqlite

/-- On each of the backends a row comes to a record exactly if the cells of all its columns can be
read, and has every name once then, in the order in which the names come first, with what the cell of
its last column is read as; and the rows of a result come to all their records in order, or to an
error. Whatever manager is connected, in a transaction or not: where one cell of the rows that a
statement gets cannot be read, the query fails as a query, the manager is as it was, and a handle
that was taken is back. -/
theorem query_reads_rows :
    ((∀ columns cells,
          ReadsRow (Postgres.columnsOf columns cells) (Postgres.decodeRow columns cells)) ∧
        (∀ r : Postgres.Reply, ReadsAll r.rows (Postgres.columnsOf r.columns) (r.output .read)) ∧
        ∀ (s : Pooled.RecordedWorld Postgres.Server Unit Unit) (sql : String) (params : List Value),
          s.1.isConnected → Access.ofSql sql = .read → ∀ row ∈ s.2.world.reply.rows, ∀ i f,
            (Postgres.columnsOf s.2.world.reply.columns row).cell i = .error f →
              ∃ e v, Pooled.query Postgres.driver.recorded sql params s.1 s.2 =
                Pooled.failedQuery Postgres.driver s sql params e v) ∧
      ((∀ columns cells,
          ReadsRow (MySql.columnsOf columns cells) (MySql.decodeRow columns cells)) ∧
        (∀ r : MySql.Reply, ReadsAll r.rows (MySql.columnsOf r.columns) (r.output .read)) ∧
        ∀ (s : Pooled.RecordedWorld MySql.Server Unit Unit) (sql : String) (params : List Value),
          s.1.isConnected → Access.ofSql sql = .read → ∀ row ∈ s.2.world.reply.rows, ∀ i f,
            (MySql.columnsOf s.2.world.reply.columns row).cell i = .error f →
              ∃ e v, Pooled.query MySql.driver.recorded sql params s.1 s.2 =
                Pooled.failedQuery MySql.driver s sql params e v) ∧
      (∀ row, ReadsRow (Sqlite.columnsOf row) (Sqlite.decodeRow row)) ∧
        (∀ rows touched, ReadsAll rows Sqlite.columnsOf (Sqlite.output .read (rows, touched))) ∧
        ∀ {σ : Type} (d : Engine σ) (runs : Sqlite.Runs σ), d.execute = Sqlite.executeBy runs →
          ∀ (s : Embedded.World (Recorded σ)) (sql : String) (params bound : List Value)
            (rows : List Sqlite.Row) (touched : Nat), s.1.isConnected → Access.ofSql sql = .read →
            params.mapM Sqlite.bind = .ok bound →
            (runs sql bound s.2.world).1 = .ok (rows, touched) → ∀ row ∈ rows, ∀ i f,
              (Sqlite.columnsOf row).cell i = .error f →
                ∃ e v, Embedded.query d.recorded sql params s.1 s.2 =
                  Embedded.failedQuery d s sql params e v := by
  refine ⟨⟨Postgres.decodeRow_reads, Postgres.Reply.output_read, ?_⟩,
    ⟨MySql.decodeRow_reads, MySql.Reply.output_read, ?_⟩,
    Sqlite.decodeRow_reads, Sqlite.output_read, ?_⟩
  · intro s sql params hc hsql row hrow i f hf
    obtain ⟨e, v, hx⟩ := Postgres.execute_of_unreadable hsql params hrow (Columns.not_readable hf)
    exact ⟨e, v, Pooled.query_of_failure Postgres.lends_driver hc fun _ => hx⟩
  · intro s sql params hc hsql row hrow i f hf
    obtain ⟨e, v, hx⟩ := MySql.execute_of_unreadable hsql params hrow (Columns.not_readable hf)
    exact ⟨e, v, Pooled.query_of_failure MySql.lends_driver hc fun _ => hx⟩
  · intro σ d runs hd s sql params bound rows touched hc hsql hbound hruns row hrow i f hf
    obtain ⟨e, v, hx⟩ :=
      Sqlite.executeBy_of_unreadable hsql hbound hruns hrow (Columns.not_readable hf)
    rw [← hd] at hx
    exact ⟨e, v, Embedded.query_of_failure hc hx⟩

/-- A cell behind others that can be read: a truth value of two octets, a cell of bits, and a text
that is no UTF-8. -/
theorem query_reads_rows_spoilt :
    let sql := "SELECT a"
    let postgres : Postgres.Reply :=
      { columns := [⟨"a", .bool⟩, ⟨"a", .bool⟩]
        rows := [[some [1], some [0]], [some [1], some [0, 0]]] }
    let mysql : MySql.Reply :=
      { columns := [{ name := "a", type := .long }, { name := "b", type := .bit }]
        rows := [[none, none], [none, some [1]]] }
    let s : Pooled.RecordedWorld Postgres.Server Unit Unit :=
      (⟨some (0, ()), true, none⟩, { world := { replies := [postgres] } })
    let t : Pooled.RecordedWorld MySql.Server Unit Unit :=
      (⟨some (0, ()), true, some (0, ())⟩, { world := { replies := [mysql] } })
    let rows : List Sqlite.Row :=
      [[{ name := "a", cell := .integer 1 }, { name := "b", cell := .text [0xFF] }]]
    let runs : Sqlite.Runs Unit := fun _ _ _ => (.ok (rows, 0), ())
    let d : Engine Unit :=
      { name := "sqlite", openPath := fun _ w => (.ok (), w), execute := Sqlite.executeBy runs
        begin := fun w => (.ok (), w), commit := fun w => (.ok (), w)
        rollback := fun w => (.ok (), w), close := fun w => (.ok (), w) }
    let u : Embedded.World (Recorded Unit) := (⟨":memory:", true, false⟩, { world := () })
    ((Postgres.columnsOf postgres.columns [some [1], some [0, 0]]).cell ⟨1, by decide⟩ =
          .error (.cell ⟨"a", .bool⟩ 1) ∧
        (MySql.columnsOf mysql.columns [none, some [1]]).cell ⟨1, by decide⟩ =
          .error ⟨1, .bits⟩ ∧
        (Sqlite.columnsOf [{ name := "a", cell := .integer 1 },
          { name := "b", cell := .text [0xFF] }]).cell ⟨1, by decide⟩ =
            .error ⟨1, ⟨0, some 1⟩⟩) ∧
      (∃ e v, Pooled.query Postgres.driver.recorded sql [] s.1 s.2 =
        Pooled.failedQuery Postgres.driver s sql [] e v) ∧
      (∃ e v, Pooled.query MySql.driver.recorded sql [] t.1 t.2 =
        Pooled.failedQuery MySql.driver t sql [] e v) ∧
      ∃ e v, Embedded.query d.recorded sql [] u.1 u.2 = Embedded.failedQuery d u sql [] e v := by
  intro sql postgres mysql s t rows runs d u
  have hwords : "SELECT a".toList = StatementKind.select.sql.toList ++ ' ' :: ['a'] := by decide
  have hsql : Access.ofSql sql = .read := Access.ofSql_of_kind .select hwords
  have hpostgres : (Postgres.columnsOf postgres.columns [some [1], some [0, 0]]).cell
      ⟨1, by decide⟩ = .error (.cell ⟨"a", .bool⟩ 1) := rfl
  have hmysql : (MySql.columnsOf mysql.columns [none, some [1]]).cell ⟨1, by decide⟩ =
      .error ⟨1, .bits⟩ := rfl
  have hsqlite : (Sqlite.columnsOf
      [{ name := "a", cell := .integer 1 }, { name := "b", cell := .text [0xFF] }]).cell
        ⟨1, by decide⟩ = .error ⟨1, ⟨0, some 1⟩⟩ := by
    have hoctets : Text.Utf8.decode [0xFF] = .error ⟨0, some 1⟩ := by
      rw [Text.Utf8.decode, Text.Utf8.decodeFrom]
      rfl
    change Sqlite.decodeColumn { name := "b", cell := .text [0xFF] } 1 = _
    simp only [Sqlite.decodeColumn, hoctets]
    rfl
  obtain ⟨⟨-, -, viaPostgres⟩, ⟨-, -, viaMySql⟩, -, -, viaSqlite⟩ := query_reads_rows
  exact ⟨⟨hpostgres, hmysql, hsqlite⟩,
    viaPostgres s sql [] rfl hsql _ (.tail _ (.head _)) _ _ hpostgres,
    viaMySql t sql [] rfl hsql _ (.tail _ (.head _)) _ _ hmysql,
    viaSqlite d runs rfl u sql [] [] rows 0 rfl hsql rfl rfl _ (.head _) _ _ hsqlite⟩

end FluentSql
