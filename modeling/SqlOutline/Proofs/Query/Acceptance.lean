import SqlOutline.Proofs.Parser.Repetition
import SqlOutline.Proofs.Query.Column
import SqlOutline.Proofs.Token.Stream

set_option autoImplicit false

namespace SqlOutline.Query

theorem ends_before_front (unit : ColumnUnit) (front back : List Token) (ends : unit.EndsBefore (front ++ back)) :
    unit.EndsBefore front := by
  intro plain token first
  cases front with
  | nil => contradiction
  | cons head tail => exact ends plain token first

theorem unit_tokens_cons (unit : ColumnUnit) :
    ∃ token rest, unit.tokens = token :: rest ∧ token.kind ≠ .error := by
  cases unit with
  | asAlias word name isAs isName =>
      have kind := Token.kind_of_keyword word .AS ((Token.is_keyword_iff _ _).mp isAs)
      exact ⟨word, [name], rfl, by simp [kind]⟩
  | qualifier name dot isName isDot => exact ⟨name, [dot], rfl, TokenKind.not_error_of_name _ isName⟩
  | aliased name label isName isLabel => exact ⟨name, [label], rfl, TokenKind.not_error_of_name _ isName⟩
  | plain name isName => exact ⟨name, [], rfl, TokenKind.not_error_of_name _ isName⟩
  | wildcard star isStar => exact ⟨star, [], rfl, by simp [isStar.1]⟩

def EndsColumn (token : Token) : Prop :=
  token.kind = .comma ∨ token.isKeyword .FROM = true

theorem ends_column_kind (token : Token) (ends : EndsColumn token) : token.kind = .comma ∨ token.kind = .keyword :=
  ends.imp_right fun isFrom => Token.kind_of_keyword token .FROM ((Token.is_keyword_iff _ _).mp isFrom)

theorem unit_before (unit : ColumnUnit) (rest : List ColumnUnit) (separator : Token) (following : List Token)
    (ends : unit.EndsBefore (rest.flatMap ColumnUnit.tokens)) (separates : EndsColumn separator) :
    unit.EndsBefore (rest.flatMap ColumnUnit.tokens ++ separator :: following) ∧
      unit.SeesNext (rest.flatMap ColumnUnit.tokens ++ separator :: following) := by
  have kind := ends_column_kind separator separates
  cases rest with
  | nil =>
      constructor
      · rintro _ _ ⟨⟩
        rcases kind with kind | kind <;> simp [kind]
      · refine fun _ => ⟨separator, following, rfl, ?_⟩
        rcases kind with kind | kind <;> simp [kind]
  | cons next rest =>
      obtain ⟨token, tail, spelled, readable⟩ := unit_tokens_cons next
      simp only [List.flatMap_cons, spelled, List.cons_append] at ends ⊢
      exact ⟨ends, fun _ => ⟨token, _, rfl, readable⟩⟩

theorem column_sound (item : Column) (query result : Query) (tokens : List Token)
    (accepts : Accepts Step (.columns item) query tokens result) :
    ∃ (units : List ColumnUnit) (separator : Token) (rest : List Token),
      tokens = units.flatMap ColumnUnit.tokens ++ separator :: rest ∧ IsCut units ∧
      (units.foldl ColumnUnit.extend item).isValid = true ∧
      ((separator.kind = .comma ∧
          Accepts Step (.columns {}) (query.addSelect (units.foldl ColumnUnit.extend item)) rest result) ∨
        (separator.isKeyword .FROM = true ∧
          Accepts Step (.tables {}) (query.addSelect (units.foldl ColumnUnit.extend item)) rest result)) := by
  generalize reading : State.columns item = state at accepts
  induction accepts generalizing item with
  | last state query result tokens rest step =>
      subst reading
      contradiction
  | more state following query changed result tokens rest step run ih =>
      subst reading
      cases step with
      | unit _ _ unit _ ends seen =>
          obtain ⟨units, separator, rest, rfl, cut, valid, further⟩ := ih (unit.extend item) rfl
          refine ⟨unit :: units, separator, rest, ?_, ⟨ends_before_front _ _ _ ends, cut⟩, valid, further⟩
          rw [List.flatMap_cons, List.append_assoc]
      | column _ _ comma _ isComma valid => exact ⟨[], comma, rest, rfl, trivial, valid, .inl ⟨isComma, run⟩⟩
      | source _ _ token _ isFrom valid => exact ⟨[], token, rest, rfl, trivial, valid, .inr ⟨isFrom, run⟩⟩

theorem column_complete (units : List ColumnUnit) (item : Column) (query result : Query) (separator : Token)
    (rest : List Token) (cut : IsCut units) (separates : EndsColumn separator)
    (further : Accepts Step (.columns (units.foldl ColumnUnit.extend item)) query (separator :: rest) result) :
    Accepts Step (.columns item) query (units.flatMap ColumnUnit.tokens ++ separator :: rest) result := by
  induction units generalizing item with
  | nil => exact further
  | cons unit units ih =>
      obtain ⟨ends, seen⟩ := unit_before unit units separator rest cut.1 separates
      rw [List.flatMap_cons, List.append_assoc]
      exact .more _ _ _ _ _ _ _ (.unit item query unit _ ends seen) (ih (unit.extend item) cut.2 further)

theorem table_cases (item : Table) (query result : Query) (tokens : List Token)
    (accepts : Accepts Step (.tables item) query tokens result) :
    ∃ token rest, tokens = token :: rest ∧
      ((item.isValid = true ∧ token.kind = .comma ∧ Accepts Step (.tables {}) (query.addFrom item) rest result) ∨
        (item.isValid = true ∧ StopsQuery token ∧ result = query.addFrom item) ∨
        (item.alias? = none ∧ token.kind.isName = true ∧
          Accepts Step (.tables (addName item token.text)) query rest result)) := by
  cases accepts with
  | last _ _ _ _ rest step =>
      cases step with
      | stop _ _ token _ isStop valid => exact ⟨token, rest, rfl, .inr (.inl ⟨valid, isStop, rfl⟩)⟩
  | more _ _ _ _ _ _ rest step run =>
      cases step with
      | name _ _ token _ isName free => exact ⟨token, rest, rfl, .inr (.inr ⟨free, isName, run⟩)⟩
      | table _ _ comma _ isComma valid => exact ⟨comma, rest, rfl, .inl ⟨valid, isComma, run⟩⟩

theorem add_first_name (text : String) : addName {} text = ⟨text, none⟩ :=
  rfl

theorem add_second_name (name text : String) (written : name ≠ "") :
    addName ⟨name, none⟩ text = ⟨name, some text⟩ := by
  simp [addName, written]

theorem table_sound (query result : Query) (tokens : List Token) (written : NamesWritten tokens)
    (accepts : Accepts Step (.tables {}) query tokens result) :
    ∃ (form : TableForm) (separator : Token) (rest : List Token), tokens = form.tokens ++ separator :: rest ∧
      ((separator.kind = .comma ∧ Accepts Step (.tables {}) (query.addFrom form.table) rest result) ∨
        (StopsQuery separator ∧ result = query.addFrom form.table)) := by
  obtain ⟨name, rest, rfl, ⟨⟨⟩, _⟩ | ⟨⟨⟩, _⟩ | ⟨_, isName, named⟩⟩ := table_cases _ query result tokens accepts
  have nameText := written name List.mem_cons_self isName
  rw [add_first_name] at named
  obtain ⟨second, rest, rfl, more | stop | ⟨_, isAlias, both⟩⟩ := table_cases _ query result rest named
  · exact ⟨⟨name, none, isName, nofun⟩, second, rest, rfl, .inl more.2⟩
  · exact ⟨⟨name, none, isName, nofun⟩, second, rest, rfl, .inr stop.2⟩
  · rw [add_second_name name.text second.text nameText] at both
    have form : ∃ form : TableForm, form.tokens = [name, second] ∧ form.table = ⟨name.text, some second.text⟩ :=
      ⟨⟨name, some second, isName, fun _ same => Option.some.inj same ▸ isAlias⟩, rfl, rfl⟩
    obtain ⟨form, spelled, same⟩ := form
    rw [← same] at both
    obtain ⟨third, rest, rfl, more | stop | ⟨taken, _⟩⟩ := table_cases _ query result rest both
    · exact ⟨form, third, rest, by rw [spelled]; rfl, .inl more.2⟩
    · exact ⟨form, third, rest, by rw [spelled]; rfl, .inr stop.2⟩
    · rw [same] at taken
      contradiction

theorem table_complete (form : TableForm) (query result : Query) (rest : List Token) (written : NamesWritten form.tokens)
    (further : Accepts Step (.tables form.table) query rest result) :
    Accepts Step (.tables {}) query (form.tokens ++ rest) result := by
  obtain ⟨name, alias?, isName, isAlias⟩ := form
  have nameText := written name List.mem_cons_self isName
  cases alias? with
  | none => exact .more _ _ _ _ _ _ _ (.name {} query name rest isName rfl) further
  | some label =>
      refine .more _ _ _ _ _ _ _ (.name {} query name (label :: rest) isName rfl) ?_
      refine .more _ _ _ _ _ _ _ (.name ⟨name.text, none⟩ query label rest (isAlias label rfl) rfl) ?_
      rw [add_second_name name.text label.text nameText]
      exact further

theorem table_valid (form : TableForm) (written : NamesWritten form.tokens) : form.table.isValid = true := by
  have nameText := written form.name List.mem_cons_self form.isName
  simp [TableForm.table, Table.isValid, nameText]

def EndsTables (query : Query) (stop : Token) (_rest : List Token) (result : Query) : Prop :=
  StopsQuery stop ∧ result = query

theorem takes_tables : TakesEntries (.tables {}) TableForm.tokens TableForm.table addFrom EndsTables Step := by
  intro query tokens result written
  constructor
  · intro accepts
    obtain ⟨form, separator, rest, rfl, further⟩ := table_sound query result tokens written accepts
    exact ⟨form, separator, rest, rfl, further⟩
  · rintro ⟨form, separator, rest, rfl, further⟩
    have front := ((names_written_append _ _).mp written).1
    have valid := table_valid form front
    refine table_complete form query result _ front ?_
    rcases further with ⟨isComma, further⟩ | ⟨isStop, rfl⟩
    · exact .more _ _ _ _ _ _ _ (.table form.table query separator rest isComma valid) further
    · exact .last _ _ _ _ _ (.stop form.table query separator rest isStop valid)

def EndsColumns (query : Query) (source : Token) (rest : List Token) (result : Query) : Prop :=
  source.isKeyword .FROM = true ∧ Accepts Step (.tables {}) query rest result

theorem takes_columns : TakesEntries (.columns {}) ColumnForm.tokens ColumnForm.column addSelect EndsColumns Step := by
  intro query tokens result written
  constructor
  · intro accepts
    obtain ⟨units, separator, rest, rfl, cut, valid, further⟩ := column_sound {} query result tokens accepts
    have front := ((names_written_append _ _).mp written).1
    have named := ((foldl_valid_iff units {} front).mp valid).resolve_left nofun
    rw [foldl_extend_empty ⟨units, cut, named⟩] at further
    exact ⟨⟨units, cut, named⟩, separator, rest, rfl, further⟩
  · rintro ⟨form, separator, rest, rfl, further⟩
    have front := ((names_written_append _ _).mp written).1
    have valid : form.column.isValid = true := by
      rw [← foldl_extend_empty form, foldl_valid_iff form.units {} front]
      exact .inr form.isNamed
    refine column_complete form.units {} query result separator rest form.isCut (further.imp And.left And.left) ?_
    rw [foldl_extend_empty form]
    rcases further with ⟨isComma, further⟩ | ⟨isFrom, further⟩
    · exact .more _ _ _ _ _ _ _ (.column form.column query separator rest isComma valid) further
    · exact .more _ _ _ _ _ _ _ (.source form.column query separator rest isFrom valid) further

def LeavesStart (query : Query) (tokens : List Token) (result : Query) : Prop :=
  ∃ select rest, tokens = select :: rest ∧ select.isKeyword .SELECT = true ∧
    Accepts Step (.columns {}) { query with statement? := some .select } rest result

theorem takes_comments : TakesComments .start addComment LeavesStart Step := by
  intro query tokens result
  constructor
  · intro accepts
    cases accepts with
    | last _ _ _ _ _ step => contradiction
    | more _ _ _ _ _ _ rest step run =>
        cases step with
        | comment _ token _ isComment => exact .inl ⟨token, rest, rfl, isComment, run⟩
        | select _ token _ isSelect => exact .inr ⟨token, rest, rfl, isSelect, run⟩
  · rintro (⟨token, rest, rfl, isComment, further⟩ | ⟨token, rest, rfl, isSelect, further⟩)
    · exact .more _ _ _ _ _ _ _ (.comment query token rest isComment) further
    · exact .more _ _ _ _ _ _ _ (.select query token rest isSelect) further

theorem foldl_add_comment (texts : List String) (query : Query) :
    texts.foldl addComment query = { query with comments := query.comments ++ texts } :=
  foldl_collect addComment (fun query texts => { query with comments := query.comments ++ texts }) (by simp)
    (by simp [addComment]) texts query

theorem foldl_add_select (items : List Column) (query : Query) :
    items.foldl addSelect query = { query with selects := query.selects ++ items } :=
  foldl_collect addSelect (fun query items => { query with selects := query.selects ++ items }) (by simp)
    (by simp [addSelect]) items query

theorem foldl_add_from (items : List Table) (query : Query) :
    items.foldl addFrom query = { query with froms := query.froms ++ items } :=
  foldl_collect addFrom (fun query items => { query with froms := query.froms ++ items }) (by simp)
    (by simp [addFrom]) items query

theorem start_sound (tokens : List Token) (written : NamesWritten tokens) (result : Query)
    (accepts : Accepts Step .start {} tokens result) :
    ∃ form : SelectForm, form.tokens = tokens ∧ form.query = result := by
  obtain ⟨comments, _, rfl, areComments, select, _, rfl, isSelect, selecting⟩ :=
    comments_sound _ _ _ takes_comments {} result tokens accepts
  have inside := names_written_tail _ _ ((names_written_append _ _).mp written).2
  obtain ⟨columns, source, _, rfl, isFrom, reading⟩ :=
    comma_list_sound _ _ _ _ _ takes_columns _ result _ inside selecting
  have behind := names_written_tail _ _ ((names_written_append _ _).mp inside).2
  obtain ⟨tables, stop, rest, rfl, isStop, rfl⟩ := comma_list_sound _ _ _ _ _ takes_tables _ result _ behind reading
  refine ⟨⟨comments, select, columns, source, tables, stop, rest, areComments, isSelect, isFrom, isStop⟩, ?_, ?_⟩
  · simp [SelectForm.tokens]
  · simp [SelectForm.query, foldl_add_comment, foldl_add_select, foldl_add_from]

theorem form_accepted (form : SelectForm) (written : NamesWritten form.tokens) :
    Accepts Step .start {} form.tokens form.query := by
  simp only [SelectForm.tokens, List.append_assoc, List.singleton_append] at written ⊢
  have inside := names_written_tail _ _ ((names_written_append _ _).mp written).2
  have behind := names_written_tail _ _ ((names_written_append _ _).mp inside).2
  refine comments_complete _ _ _ takes_comments form.comments {} form.query _ form.areComments
    ⟨form.select, _, rfl, form.isSelect, ?_⟩
  refine comma_list_complete _ _ _ _ _ takes_columns form.columns _ form.query form.source _ inside ⟨form.isFrom, ?_⟩
  refine comma_list_complete _ _ _ _ _ takes_tables form.tables _ form.query form.stop form.rest behind
    ⟨form.isStop, ?_⟩
  simp [SelectForm.query, foldl_add_comment, foldl_add_select, foldl_add_from]

theorem of_tokens_iff (tokens : List Token) (written : NamesWritten tokens) (query : Query) :
    ofTokens tokens = ⟨query, none⟩ ↔ ∃ form : SelectForm, form.tokens = tokens ∧ form.query = query := by
  have run := grammar.run_iff_accepts grammar_describes .start {} query tokens 0
  refine Iff.trans run ⟨start_sound tokens written query, ?_⟩
  rintro ⟨form, rfl, rfl⟩
  exact form_accepted form written

theorem parse_query_iff (sql : String) :
    ((parse sql).error? = none ↔ ∃ form : SelectForm, form.tokens = tokenize sql) ∧
      ∀ query, parse sql = ⟨query, none⟩ ↔ ∃ form : SelectForm, form.tokens = tokenize sql ∧ form.query = query := by
  have accepted := of_tokens_iff (tokenize sql) (names_written_tokenize sql)
  exact ⟨error_none_iff (parse sql) _ SelectForm.query accepted, accepted⟩

end SqlOutline.Query
