import FluentSql.Proofs.Query.Scan
import FluentSql.Proofs.Query.Writer

/-! What stands behind the values of a query: a blank, a comma or a closing parenthesis, so that the
number of a placeholder ends where it should. Rows of pieces that begin so can stand one after the
other, `Piece.Detached.append`, and every clause is such a row. -/

namespace FluentSql

namespace Piece

/-- Pieces that can stand behind a placeholder, and that have no digit behind one themselves. -/
structure Detached (ps : List Piece) : Prop where
  opens : Opens ps
  spaced : Spaced ps

theorem Spaced.append {ps qs : List Piece} (hp : Spaced ps) (hq : Detached qs) :
    Spaced (ps ++ qs) := by
  induction ps with
  | nil => exact hq.spaced
  | cons x ps ih =>
    cases x with
    | text s => exact ih hp
    | bind v =>
      refine ⟨?_, ih hp.2⟩
      cases ps with
      | nil => exact hq.opens
      | cons y ps => cases y <;> exact hp.1

namespace Detached

theorem nil : Detached [] := ⟨trivial, trivial⟩

theorem append {ps qs : List Piece} (hp : Detached ps) (hq : Detached qs) :
    Detached (ps ++ qs) := by
  refine ⟨?_, hp.spaced.append hq⟩
  cases ps with
  | nil => exact hq.opens
  | cons x ps => cases x <;> exact hp.opens

theorem flatMap {β : Type} {f : β → List Piece} {xs : List β} (h : ∀ x ∈ xs, Detached (f x)) :
    Detached (xs.flatMap f) := by
  induction xs with
  | nil => exact nil
  | cons x xs ih =>
    rw [List.flatMap_cons]
    exact (h x (by simp)).append (ih fun y hy => h y (by simp [hy]))

/-- A text that begins with a blank can stand behind a placeholder. -/
theorem blank (s : String) {ps : List Piece} (h : Spaced ps) :
    Detached (Writer.pieces.text (" " ++ s) ++ ps) :=
  ⟨⟨' ', s.toList, by simp, rfl⟩, h⟩

end Detached

theorem spaced_commas {parts : List (List Piece)} (h : ∀ ps ∈ parts, Spaced ps) :
    Spaced (Writer.pieces.commas parts) := by
  cases parts with
  | nil => trivial
  | cons ps pss =>
    obtain ⟨hp, hps⟩ := List.forall_mem_cons.1 h
    have comma (qs : List Piece) (hq : qs ∈ pss) : Detached (Writer.pieces.text ", " ++ qs) :=
      ⟨⟨',', [' '], rfl, rfl⟩, hps qs hq⟩
    rw [Writer.commas_cons]
    exact hp.append (.flatMap comma)

end Piece

namespace Writer

open Piece (Spaced Detached)

theorem spaced_value (v : Value) : Spaced (pieces.value v) := ⟨trivial, trivial⟩

theorem spaced_members (v : Value) : Spaced (pieces.members v) := by
  cases v with
  | list items =>
    cases items with
    | nil => trivial
    | cons v vs => exact Piece.spaced_commas (by simp [spaced_value])
  | _ => exact spaced_value _

theorem detached_operand (o : Operator) (v : Value) : Detached (pieces.operand o v) := by
  have close : Detached (pieces.text ")") := ⟨⟨')', [], rfl, rfl⟩, trivial⟩
  fun_cases operand pieces o v with
  | case1 v => exact .blank "(" ((spaced_members v).append close)
  | case2 v => exact .blank "(" ((spaced_members v).append close)
  | case3 low high =>
    exact .blank "" ((spaced_value low).append (.blank "AND " (spaced_value high)))
  | case4 => exact .blank "" (spaced_value v)

theorem spaced_condition (c : Condition) : Spaced (pieces.condition c) := by
  unfold condition
  split
  · trivial
  · cases c.value with
    | none => trivial
    | some v => exact (detached_operand c.operator v).spaced

theorem detached_conditions (keyword : String) (cs : List Condition) :
    Detached (pieces.conditions keyword cs) := by
  cases cs with
  | nil => exact .nil
  | cons c cs =>
    have further : Detached (cs.flatMap fun c =>
        pieces.text (" " ++ c.combinator.sql ++ " ") ++ pieces.condition c) :=
      .flatMap fun d _ => by
        rw [String.append_assoc]
        exact .blank _ (spaced_condition d)
    rw [conditions, String.append_assoc]
    exact (Detached.blank _ (spaced_condition c)).append further

theorem detached_joinClause (j : Join) : Detached (pieces.joinClause j) :=
  ⟨⟨' ', _, by simp; rfl, rfl⟩, trivial⟩

theorem detached_listClause (keyword : String) (terms : List String) :
    Detached (pieces.listClause keyword terms) := by
  unfold listClause
  split
  · exact .nil
  · rw [String.append_assoc, String.append_assoc]
    exact .blank _ trivial

theorem detached_numberClause (keyword : String) (n : Option UInt64) :
    Detached (pieces.numberClause keyword n) := by
  cases n with
  | none => exact .nil
  | some n =>
    rw [numberClause, String.append_assoc, String.append_assoc]
    exact .blank _ trivial

theorem spaced_rows (rs : List (List Value)) : Spaced (pieces.commas (rs.map pieces.row)) := by
  refine Piece.spaced_commas fun ps hps => ?_
  obtain ⟨vs, -, rfl⟩ := List.mem_map.1 hps
  have cells : Spaced (pieces.commas (vs.map pieces.value)) :=
    Piece.spaced_commas (by simp [spaced_value])
  exact cells.append ⟨⟨')', [], rfl, rfl⟩, trivial⟩

/-- In a query that was written down no digit stands behind a placeholder. -/
theorem spaced_query (q : QueryState) : Spaced (pieces.query q) := by
  unfold query
  cases q.statement with
  | select s =>
    simp only [select, List.append_assoc]
    exact ((Detached.flatMap fun j _ => detached_joinClause j).append <|
      (detached_conditions _ _).append <| (detached_listClause _ _).append <|
      (detached_conditions _ _).append <| (detached_listClause _ _).append <|
      (detached_numberClause _ _).append (detached_numberClause _ _)).spaced
  | insert i => exact spaced_rows (records i.columns.length i.values)
  | update u =>
    have assignments : Spaced
        (pieces.commas (u.payload.entries.map fun e => pieces.assignment e.1 e.2)) := by
      refine Piece.spaced_commas fun ps hps => ?_
      obtain ⟨e, -, rfl⟩ := List.mem_map.1 hps
      exact spaced_value e.2
    exact assignments.append (detached_conditions _ _)
  | delete d => exact (detached_conditions _ _).spaced

end Writer

end FluentSql
