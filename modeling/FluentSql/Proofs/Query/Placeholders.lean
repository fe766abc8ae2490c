import FluentSql.Proofs.Query.Accepted
import FluentSql.Proofs.Query.Identifiers
import FluentSql.Proofs.Query.Separators

/-! Placeholders and parameters. Scanning a compiled text from left to right finds one placeholder
for each parameter, numbered in order, and putting literals in the place of the placeholders gives
the query written with literals. Identifiers that hold a sign of a placeholder themselves are
excluded; they are written as they are. -/

namespace FluentSql

open Placeholder Token in
/-- A compiled text has exactly one placeholder for each parameter, the `k`-th of them numbered `k`,
and with a literal of the `k`-th parameter in the place of the `k`-th placeholder it is the query
written down with each operand at its own place. -/
theorem compile_placeholders (p : Placeholder) (q : QueryState) (b : BuiltQuery)
    (hb : q.compile p = .ok b) (hq : ∀ s ∈ q.identifiers, Signless s.toList) :
    marks (p.scan b.sql.toList) = (List.range' 1 b.params.length).map p.mark ∧
      ∀ literal : Value → String,
        substitute literal (p.scan b.sql.toList) b.params = (Writer.literal literal).query q := by
  obtain ⟨-, rfl⟩ := QueryState.accepted_of_compile hb
  have hc : Piece.chars (Writer.pieces.query q) = Writer.bare.query q := by
    rw [Piece.chars, Writer.flatMap_query]
    congr 1
    simp [Writer.replace, Writer.pieces, Writer.bare, Writer.literal]
  have hs : p.sign ∉ Piece.chars (Writer.pieces.query q) := by
    rw [hc]
    exact (Writer.signless_query hq).sign p
  simp only [Piece.lay, Piece.scan_layFrom (Writer.spaced_query q) hs]
  refine ⟨Piece.marks_tokens p 0 _, fun literal => ?_⟩
  rw [Piece.substitute_tokens, Writer.flatMap_query]
  congr 1
  simp [Writer.replace, Writer.pieces, Writer.literal]

theorem compile_placeholders_between_and_in :
    let q : QueryState := ⟨"t", .select { conditions := [
      ⟨"a", .between, some (.list [.int 0, .text "?"]), .and⟩,
      ⟨"b", .isIn, some (.list (List.replicate 8 .null)), .or⟩] }⟩
    let b : BuiltQuery := ⟨"SELECT * FROM t WHERE a BETWEEN $1 AND $2 " ++
      "OR b IN ($3, $4, $5, $6, $7, $8, $9, $10)", [.int 0, .text "?"] ++ List.replicate 8 .null⟩
    (q.compile .dollar = .ok b ∧ ∀ s ∈ q.identifiers, Signless s.toList) ∧
      Placeholder.Token.marks (Placeholder.dollar.scan b.sql.toList) =
        (List.range' 1 10).map Placeholder.dollar.mark ∧
      ∀ literal : Value → String,
        Placeholder.Token.substitute literal (Placeholder.dollar.scan b.sql.toList) b.params =
          (Writer.literal literal).query q := by
  intro q b
  have hb : q.compile .dollar = .ok b := by cbv
  have hq : ∀ s ∈ q.identifiers, Signless s.toList := by decide
  exact ⟨⟨hb, hq⟩, compile_placeholders .dollar q b hb hq⟩

end FluentSql
