import SqlOutline.Proofs.Query.Faults
import SqlOutline.Proofs.TableDefinition.Faults
import SqlOutline.Proofs.Token.LineNumbers

set_option autoImplicit false

namespace SqlOutline

structure ParseError.PointsInto (sql : String) (error : ParseError) : Prop where
  about : error.IsAbout (tokenize sql)
  bounded : ∀ line ∈ error.line?, 1 ≤ line ∧ line ≤ 1 + sql.toList.count '\n'

theorem ParseError.IsAbout.points_into {sql : String} {error : ParseError} (about : error.IsAbout (tokenize sql)) :
    error.PointsInto sql := by
  refine ⟨about, fun line given => ?_⟩
  obtain ⟨token, member, rfl⟩ := about.line_mem line given
  exact ⟨(Lexer.lines_ascend (Lexer.ofString sql)).1 token member, Lexer.lines_bounded (Lexer.ofString sql) token member⟩

theorem parse_errors_point (sql : String) :
    (∀ error ∈ (Query.parse sql).error?, error.PointsInto sql) ∧
      ∀ error ∈ (TableDefinition.parse sql).error?, error.PointsInto sql :=
  ⟨fun error found => (Query.parse_error_about sql error found).points_into,
    fun error found => (TableDefinition.parse_error_about sql error found).points_into⟩

theorem parse_errors_point_string :
    (∃ error ∈ (Query.parse "CREATE TABLE t (a\n'b").error?,
        error.line? = some 1 ∧ error.PointsInto "CREATE TABLE t (a\n'b") ∧
      ∃ error ∈ (TableDefinition.parse "CREATE TABLE t (a\n'b").error?,
        error.line? = some 2 ∧ error.PointsInto "CREATE TABLE t (a\n'b" := by
  have first : (Query.parse "CREATE TABLE t (a\n'b").error?.map ParseError.line? = some (some 1) := by decide +kernel
  have second : (TableDefinition.parse "CREATE TABLE t (a\n'b").error?.map ParseError.line? = some (some 2) := by
    decide +kernel
  obtain ⟨unsupported, early, lineOne⟩ := Option.map_eq_some_iff.mp first
  obtain ⟨unclosed, late, lineTwo⟩ := Option.map_eq_some_iff.mp second
  have point := parse_errors_point "CREATE TABLE t (a\n'b"
  exact ⟨⟨unsupported, early, lineOne, point.1 unsupported early⟩, unclosed, late, lineTwo, point.2 unclosed late⟩

end SqlOutline
