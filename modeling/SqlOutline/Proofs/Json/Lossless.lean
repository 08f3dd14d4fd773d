import SqlOutline.Command
import SqlOutline.Proofs.Json.Record

set_option autoImplicit false

namespace SqlOutline

theorem StatementKind.keeps (kind : StatementKind) : Json.Keeps ofJson? kind.toJson kind := by
  refine Json.name_keeps kind.name (fun _ => rfl) ?_
  cases kind
  rfl

theorem TokenKind.keeps (kind : TokenKind) : Json.Keeps ofJson? kind.toJson kind :=
  Json.name_keeps kind.name (fun _ => rfl) kind.of_name_name

section Record

theorem Column.keeps (item : Column) : Json.Keeps ofJson? item.toJson item := by
  have table := Json.option_keeps Json.ofText item.table? fun text _ => Json.text_keeps text
  have column := (Json.text_keeps item.column).required
  have label := Json.option_keeps Json.ofText item.alias? fun text _ => Json.text_keeps text
  refine Json.record_keeps (fun _ => rfl) rfl (by decide) ?_ ?_
  · simp [table.writable, column.writable, label.writable]
  · simp [table.read, column.read, label.read]

theorem Table.keeps (item : Table) : Json.Keeps ofJson? item.toJson item := by
  have name := (Json.text_keeps item.name).required
  have label := Json.option_keeps Json.ofText item.alias? fun text _ => Json.text_keeps text
  refine Json.record_keeps (fun _ => rfl) rfl (by decide) ?_ ?_
  · simp [name.writable, label.writable]
  · simp [name.read, label.read]

theorem Query.keeps (query : Query) : Json.Keeps ofJson? query.toJson query := by
  have statement := Json.option_keeps StatementKind.toJson query.statement? fun kind _ => kind.keeps
  have comments := (Json.list_keeps Json.ofText _ query.comments fun text _ => Json.text_keeps text).required
  have selects := (Json.list_keeps Column.toJson _ query.selects fun item _ => item.keeps).required
  have froms := (Json.list_keeps Table.toJson _ query.froms fun item _ => item.keeps).required
  refine Json.record_keeps (fun _ => rfl) rfl (by decide) ?_ ?_
  · simp [statement.writable, comments.writable, selects.writable, froms.writable]
  · simp [statement.read, comments.read, selects.read, froms.read]

theorem ColumnDefinition.keeps (item : ColumnDefinition) : Json.Keeps ofJson? item.toJson item := by
  have name := (Json.text_keeps item.name).required
  have baseType := (Json.text_keeps item.baseType).required
  have typeSize := Json.option_keeps Json.ofText item.typeSize? fun text _ => Json.text_keeps text
  have isArray := (Json.bool_keeps item.isArray).required
  have notNull := (Json.bool_keeps item.notNull).required
  refine Json.record_keeps (fun _ => rfl) rfl (by decide) ?_ ?_
  · simp [name.writable, baseType.writable, typeSize.writable, isArray.writable, notNull.writable]
  · simp [name.read, baseType.read, typeSize.read, isArray.read, notNull.read]

theorem TableDefinition.keeps (definition : TableDefinition) : Json.Keeps ofJson? definition.toJson definition := by
  have name := (Json.text_keeps definition.name).required
  have comments := (Json.list_keeps Json.ofText _ definition.comments fun text _ => Json.text_keeps text).required
  have columns := (Json.list_keeps ColumnDefinition.toJson _ definition.columns fun item _ => item.keeps).required
  refine Json.record_keeps (fun _ => rfl) rfl (by decide) ?_ ?_
  · simp [name.writable, comments.writable, columns.writable]
  · simp [name.read, comments.read, columns.read]

theorem Token.keeps (token : Token) (bounded : token.line < UInt64.size) : Json.Keeps ofJson? token.toJson token := by
  have kind := token.kind.keeps.required
  have text := (Json.text_keeps token.text).required
  have line := (Json.nat_keeps token.line bounded).required
  refine Json.record_keeps (fun _ => rfl) rfl (by decide) ?_ ?_
  · simp [kind.writable, text.writable, line.writable]
  · simp [kind.read, text.read, line.read]

end Record

theorem Json.Keeps.read_render {α : Type} {value? : Json → Option α} {value : Json} {content : α}
    (keeps : Json.Keeps value? value content) (outline : Outline) :
    (Json.read? (Command.render true value outline)).bind value? = some content := by
  have printed := Json.read_pretty value keeps.writable "\n" (by simp [Json.isSpace])
  rw [Command.render, if_pos rfl, printed]
  exact keeps.read

theorem Json.pretty_inj {value other : Json} (writable : Writable value) (otherWritable : Writable other)
    (same : value.pretty = other.pretty) : value = other := by
  have first := read_pretty value writable "" nofun
  have second := read_pretty other otherWritable "" nofun
  rw [same, second] at first
  exact (Option.some.inj first).symm

theorem Json.Keeps.of_pretty {α : Type} {value? : Json → Option α} {value other : Json} {content otherContent : α}
    (keeps : Json.Keeps value? value content) (otherKeeps : Json.Keeps value? other otherContent)
    (same : value.pretty = other.pretty) : content = otherContent := by
  have values := Json.pretty_inj keeps.writable otherKeeps.writable same
  have read := keeps.read
  rw [values, otherKeeps.read] at read
  exact (Option.some.inj read).symm

-- Tokens are told apart on any line, also on one whose number no reader takes.
theorem Token.of_json (token other : Token) (same : token.toJson = other.toJson) : token = other := by
  simp only [toJson, Json.ofRecord, List.map_cons, List.map_nil, Json.object.injEq, List.cons.injEq, Prod.mk.injEq,
    true_and, and_true] at same
  obtain ⟨kinds, texts, lines⟩ := same
  have kind := token.kind.keeps.read
  have text := Json.text_of_text token.text
  rw [kinds, other.kind.keeps.read] at kind
  rw [texts, Json.text_of_text] at text
  have line := congrArg Json.digitsValue (Json.number.inj lines)
  rw [Json.digits_value_to_digits, Json.digits_value_to_digits] at line
  cases token
  cases other
  simp_all

theorem Token.json_writable (token : Token) : Json.Writable token.toJson := by
  refine Json.record_writable _ ?_
  simp [token.kind.keeps.writable, (Json.text_keeps token.text).writable, Json.nat_writable token.line]

theorem tokens_of_pretty (tokens others : List Token)
    (same : (Json.ofList Token.toJson tokens).pretty = (Json.ofList Token.toJson others).pretty) : tokens = others := by
  have writable (tokens : List Token) : Json.Writable (Json.ofList Token.toJson tokens) :=
    Json.list_writable Token.toJson tokens fun token _ => token.json_writable
  have values := Json.pretty_inj (writable tokens) (writable others) same
  exact List.map_injective_iff.mpr Token.of_json (Json.array.inj values)

theorem json_lossless :
    (∀ query : Query,
      (Json.read? (Command.render true query.toJson query.toOutline)).bind Query.ofJson? = some query) ∧
    (∀ definition : TableDefinition,
      (Json.read? (Command.render true definition.toJson definition.toOutline)).bind TableDefinition.ofJson? =
        some definition) ∧
    (∀ token : Token, token.line < UInt64.size →
      (Json.read? (Command.render true token.toJson token.toOutline)).bind Token.ofJson? = some token) ∧
    ∀ tokens : List Token, (∀ token ∈ tokens, token.line < UInt64.size) →
      (Json.read? (Command.render true (Json.ofList Token.toJson tokens) (.ofList Token.toOutline tokens))).bind
        (Json.list? Token.ofJson?) = some tokens := by
  refine ⟨fun query => ?_, fun definition => ?_, fun token bounded => ?_, fun tokens bounded => ?_⟩
  · exact (Query.keeps query).read_render query.toOutline
  · exact (TableDefinition.keeps definition).read_render definition.toOutline
  · exact (Token.keeps token bounded).read_render token.toOutline
  · have keeps := Json.list_keeps Token.toJson Token.ofJson? tokens fun token member =>
      Token.keeps token (bounded token member)
    exact keeps.read_render (.ofList Token.toOutline tokens)

theorem json_lossless_escapes :
    let token : Token := ⟨.error, "\"\\\n\x01é😀", 18446744073709551615⟩
    token.line < UInt64.size ∧
      Command.render true token.toJson token.toOutline =
        "\x7b\n  \"kind\": \"Error\",\n  \"text\": \"\\\"\\\\\\n\\u0001é😀\"," ++
          "\n  \"line\": 18446744073709551615\n\x7d\n" ∧
      (Json.read? (Command.render true token.toJson token.toOutline)).bind Token.ofJson? = some token :=
  ⟨by decide, by decide +kernel, json_lossless.2.2.1 _ (by decide)⟩

end SqlOutline
