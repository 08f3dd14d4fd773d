import SqlOutline.Proofs.TableDefinition.Acceptance
import SqlOutline.Proofs.TableDefinition.Written
import SqlOutline.Proofs.Text.LetterCase
import SqlOutline.Proofs.Token.Pieces

set_option autoImplicit false

namespace SqlOutline.TableDefinition

-- The clauses after the name of a column that give all the rest of it, with one type and at most one size.
structure Describes (clauses : List ColumnClause) (item : ColumnDefinition) : Prop where
  types : clauses.filterMap ColumnClause.type? = [item.baseType]
  sizes : clauses.filterMap ColumnClause.size? = item.typeSize?.toList
  array : clauses.any ColumnClause.isArray = item.isArray
  notNull : clauses.any ColumnClause.isNotNull = item.notNull

def LexesToClauses (line : Nat) (text : String) (item : ColumnDefinition) : Prop :=
  ∃ clauses : List ColumnClause, Describes clauses item ∧ LexesTo line text (clauses.flatMap ColumnClause.tokens)

namespace ColumnForm

def ofName (name : Token) (isName : name.kind.isName = true) (clauses : List ColumnClause)
    (typed : clauses.filterMap ColumnClause.type? ≠ []) : ColumnForm where
  clauses := .named name isName :: clauses
  isNamed := ⟨_, List.mem_cons_self, rfl⟩
  isTyped := typed

theorem of_name_column (name : Token) (isName : name.kind.isName = true) (clauses : List ColumnClause)
    (typed : clauses.filterMap ColumnClause.type? ≠ []) (item : ColumnDefinition) (named : name.text = item.name)
    (describes : Describes clauses item) : (ofName name isName clauses typed).column = item := by
  obtain ⟨types, sizes, array, notNull⟩ := describes
  apply ColumnDefinition.ext
  · exact named
  · have last : (clauses.filterMap ColumnClause.type?).getLast typed = item.baseType := by simp [types]
    exact last
  · have last : (clauses.filterMap ColumnClause.size?).getLast? = item.typeSize? := by
      rw [sizes]
      cases item.typeSize? <;> rfl
    exact last
  · exact array
  · exact notNull

end ColumnForm

theorem lexes_to_clauses_optional (line : Nat) (text mark : String) (item : ColumnDefinition) (clause : ColumnClause)
    (kept : Bool) (reads : LexesToClauses line text item) (further : LexesTo line mark clause.tokens)
    (untyped : clause.type? = none ∧ clause.size? = none ∧ clause.isArray = false) :
    LexesToClauses line (text ++ if kept then " " ++ mark else "")
      { item with notNull := item.notNull || (kept && clause.isNotNull) } := by
  cases kept with
  | false => simpa using reads
  | true =>
      obtain ⟨clauses, ⟨types, sizes, array, notNull⟩, lexes⟩ := reads
      obtain ⟨noType, noSize, noArray⟩ := untyped
      refine ⟨clauses ++ [clause], ⟨?_, ?_, ?_, ?_⟩, ?_⟩
      · simp [types, noType]
      · simp [sizes, noSize]
      · simp [array, noArray]
      · simp [notNull]
      · have together := lexes_to_append line text mark _ _ lexes further
        simpa [String.append_assoc] using together

section TypeText

variable (line : Nat) (item : ColumnDefinition)

theorem tokens_from_size (size : String) (isSize : BareWord size ∨ NumberText size) :
    ∃ form : SizeForm, form.text = upperCase size ∧ ∀ rest,
      tokensFrom line ('(' :: (size.toList ++ ')' :: rest)) = form.tokens ++ tokensFrom line rest := by
  have read : ∃ kind : TokenKind, (kind = .identifier ∨ kind = .number) ∧ ∀ rest,
      tokensFrom line (size.toList ++ ')' :: rest) = ⟨kind, size, line⟩ :: tokensFrom line (')' :: rest) := by
    rcases isSize with bare | number
    · exact ⟨.identifier, .inl rfl, fun rest =>
        tokens_from_bare_word line size _ bare (first_holds ')' rest (by decide))⟩
    · exact ⟨.number, .inr rfl, fun rest => tokens_from_number line size _ number (first_holds ')' rest (by decide))⟩
  obtain ⟨kind, known, reads⟩ := read
  refine ⟨⟨⟨.leftParen, "(", line⟩, ⟨kind, size, line⟩, ⟨.rightParen, ")", line⟩, rfl, known, rfl⟩, rfl, fun rest => ?_⟩
  rw [tokens_from_punctuation line '(' .leftParen _ rfl, reads, tokens_from_punctuation line ')' .rightParen _ rfl]
  rfl

theorem tokens_from_size_text
    (printable : ∀ size ∈ item.typeSize?, (BareWord size ∨ NumberText size) ∧ InCapitals size) :
    ∃ form? : Option SizeForm, form?.map SizeForm.text = item.typeSize? ∧ ∀ rest,
      tokensFrom line (item.sizeText.toList ++ rest) = SizeForm.optionalTokens form? ++ tokensFrom line rest := by
  cases given : item.typeSize? with
  | none => exact ⟨none, rfl, fun rest => by simp [ColumnDefinition.sizeText, given, SizeForm.optionalTokens]⟩
  | some size =>
      obtain ⟨isSize, capitals⟩ := printable size given
      obtain ⟨form, text, reads⟩ := tokens_from_size line size isSize
      rw [upper_case_of_no_lower size capitals] at text
      refine ⟨some form, congrArg some text, fun rest => ?_⟩
      have chars : item.sizeText.toList ++ rest = '(' :: (size.toList ++ ')' :: rest) := by
        simp [ColumnDefinition.sizeText, given, String.toList_append]
      rw [chars, reads]
      rfl

theorem ends_word_size_text (rest : List Char) (ends : EndsWord rest) : EndsWord (item.sizeText.toList ++ rest) := by
  cases given : item.typeSize? with
  | none => simpa [ColumnDefinition.sizeText, given] using ends
  | some size =>
      simp only [ColumnDefinition.sizeText, given, String.toList_append]
      exact first_holds '(' _ (by decide)

theorem lexes_to_plain_type (printable : item.Printable) :
    LexesToClauses line (item.baseType ++ item.sizeText) { item with isArray := false, notNull := false } := by
  obtain ⟨kind, known, reads⟩ := tokens_from_name line item.baseType printable.type
  obtain ⟨form?, sizes, further⟩ := tokens_from_size_text line item printable.size
  have capitals := upper_case_of_no_lower item.baseType printable.capitals
  refine ⟨.named ⟨kind, item.baseType, line⟩ known :: (form?.map ColumnClause.size).toList, ⟨?_, ?_, ?_, ?_⟩, ?_⟩
  · cases form? <;> simp [ColumnClause.type?, capitals]
  · rw [← sizes]
    cases form? <;> rfl
  · cases form? <;> rfl
  · cases form? <;> rfl
  · intro rest separated
    have spelled : (form?.map ColumnClause.size).toList.flatMap ColumnClause.tokens = SizeForm.optionalTokens form? := by
      cases form? <;> simp [SizeForm.optionalTokens, ColumnClause.tokens]
    rw [String.toList_append, List.append_assoc, reads _ (ends_word_size_text item rest separated.endsWord), further,
      List.flatMap_cons, spelled]
    rfl

theorem lexes_to_array (printable : item.Printable) (isArray : item.isArray = true) :
    LexesToClauses line ("ARRAY<" ++ item.baseType ++ item.sizeText ++ ">") { item with notNull := false } := by
  have element := printable.element isArray
  obtain ⟨form?, sizes, further⟩ := tokens_from_size_text line item printable.size
  have capitals := upper_case_of_no_lower item.baseType printable.capitals
  refine ⟨[.array (Keyword.ARRAY.token line) ⟨.operator, "<", line⟩ ⟨.identifier, item.baseType, line⟩ form?
    ⟨.operator, ">", line⟩ (keyword_token_spelled .ARRAY line) ⟨rfl, rfl⟩ rfl ⟨rfl, rfl⟩], ⟨?_, ?_, ?_, ?_⟩, ?_⟩
  · simp [ColumnClause.type?, capitals]
  · rw [← sizes]
    cases form? <;> rfl
  · exact isArray.symm
  · rfl
  · intro rest separated
    have chars : ("ARRAY<" ++ item.baseType ++ item.sizeText ++ ">").toList ++ rest =
        Keyword.ARRAY.text.toList ++
          ("<".toList ++ (item.baseType.toList ++ (item.sizeText.toList ++ (">".toList ++ rest)))) := by
      simp [String.toList_append, Keyword.text]
    have afterWord (rest : List Char) : EndsWord ("<".toList ++ rest) := first_holds '<' rest (by decide)
    have beforeGreater : EndsWord (">".toList ++ rest) := first_holds '>' rest (by decide)
    rw [chars, tokens_from_keyword line .ARRAY _ (afterWord _),
      tokens_from_operator line "<" _ (by decide) (element.toIsWord.ends_operator _),
      tokens_from_bare_word line _ _ element (ends_word_size_text item _ beforeGreater), further,
      tokens_from_operator line ">" rest (by decide) separated.endsOperator]
    simp [ColumnClause.tokens]
    rfl

theorem lexes_to_type (printable : item.Printable) :
    LexesToClauses line item.typeText { item with notNull := false } := by
  cases isArray : item.isArray with
  | false =>
      have plain := lexes_to_plain_type line item printable
      simpa [ColumnDefinition.typeText, isArray] using plain
  | true =>
      have array := lexes_to_array line item printable isArray
      simpa [ColumnDefinition.typeText, isArray] using array

end TypeText

def primaryKeyClause (line : Nat) : ColumnClause :=
  .primaryKey (Keyword.PRIMARY.token line) ⟨.identifier, "KEY", line⟩ (keyword_token_spelled .PRIMARY line)
    ⟨rfl, (equal_ignoring_case_iff _ _).mpr rfl⟩

def notNullClause (line : Nat) : ColumnClause :=
  .notNull (Keyword.NOT.token line) (Keyword.NULL.token line) (keyword_token_spelled .NOT line)
    (keyword_token_spelled .NULL line)

theorem lexes_to_primary_key (line : Nat) : LexesTo line "PRIMARY KEY" (primaryKeyClause line).tokens := by
  have bare : BareWord "KEY" := by decide +kernel
  exact lexes_to_append line "PRIMARY" "KEY" _ _ (lexes_to_keyword line .PRIMARY) (lexes_to_bare_word line "KEY" bare)

theorem lexes_to_not_null (line : Nat) : LexesTo line "NOT NULL" (notNullClause line).tokens :=
  lexes_to_append line "NOT" "NULL" _ _ (lexes_to_keyword line .NOT) (lexes_to_keyword line .NULL)

theorem lexes_to_column (line : Nat) (withKey : Bool) (item : ColumnDefinition) (printable : item.Printable) :
    ∃ form : ColumnForm, form.column = item ∧ LexesTo line (item.written withKey) form.tokens := by
  have typed := lexes_to_type line item printable
  have keyed := lexes_to_clauses_optional line _ "PRIMARY KEY" _ (primaryKeyClause line) withKey typed
    (lexes_to_primary_key line) ⟨rfl, rfl, rfl⟩
  obtain ⟨clauses, describes, lexes⟩ := lexes_to_clauses_optional line _ "NOT NULL" _ (notNullClause line) item.notNull
    keyed (lexes_to_not_null line) ⟨rfl, rfl, rfl⟩
  have whole : Describes clauses item := by
    simpa [primaryKeyClause, notNullClause, ColumnClause.isNotNull] using describes
  obtain ⟨kind, known, name⟩ := lexes_to_name line item.name printable.name
  have isTyped : clauses.filterMap ColumnClause.type? ≠ [] := by
    rw [whole.types]
    exact List.cons_ne_nil _ _
  refine ⟨.ofName ⟨kind, item.name, line⟩ known clauses isTyped, ?_, ?_⟩
  · exact ColumnForm.of_name_column _ known clauses isTyped item rfl whole
  · have together := lexes_to_append line item.name _ _ _ name lexes
    simp only [ColumnDefinition.written, String.append_assoc] at together ⊢
    exact together

theorem tokens_from_break (line : Nat) (newline : Bool) :
    ∃ after, ∀ rest, tokensFrom line ((if newline then "\n" else " ").toList ++ rest) = tokensFrom after rest := by
  cases newline with
  | false => exact ⟨line, tokens_from_space line⟩
  | true => exact ⟨line + 1, tokens_from_newline line⟩

theorem break_ends_word (newline : Bool) (rest : List Char) : EndsWord ((if newline then "\n" else " ").toList ++ rest) := by
  cases newline with
  | false => exact first_holds ' ' rest (by decide)
  | true => exact first_holds '\n' rest (by decide)

theorem lexes_to_columns (line : Nat) (withKey : Nat → Bool) (definition : TableDefinition)
    (printable : definition.Printable) :
    ∃ columns : CommaList ColumnForm, columns.entries.map ColumnForm.column = definition.columns ∧
      LexesTo line (definition.columnsText withKey) (columns.tokens ColumnForm.tokens) :=
  lexes_to_indexed_list (fun index => ColumnDefinition.written (withKey index)) ColumnForm.tokens ColumnForm.column line
    definition.columns printable.listing fun item member index =>
      lexes_to_column line (withKey index) item (printable.columns item member)

theorem tokens_from_object (line : Nat) (withKey : Nat → Bool) (definition : TableDefinition)
    (printable : definition.Printable) :
    ∃ (kind : TokenKind) (columns : CommaList ColumnForm), kind.isName = true ∧
      columns.entries.map ColumnForm.column = definition.columns ∧
      tokensFrom line (definition.objectText withKey).toList =
        Keyword.TABLE.token line :: ⟨kind, definition.name, line⟩ :: ⟨.leftParen, "(", line⟩ ::
          (columns.tokens ColumnForm.tokens ++ [⟨.rightParen, ")", line⟩, ⟨.endOfInput, "", line⟩]) := by
  obtain ⟨kind, known, name⟩ := lexes_to_name line definition.name printable.name
  have heading := lexes_to_append line "TABLE" definition.name _ _ (lexes_to_keyword line .TABLE) name
  obtain ⟨columns, meanings, list⟩ := lexes_to_columns line withKey definition printable
  refine ⟨kind, columns, known, meanings, ?_⟩
  have closes : Separated [')'] := first_holds ')' [] (by decide)
  have chars : (definition.objectText withKey).toList = ("TABLE" ++ " " ++ definition.name).toList ++
      ' ' :: '(' :: ((definition.columnsText withKey).toList ++ [')']) := by
    simp [objectText, String.toList_append]
  rw [chars, heading _ (separated_space _), tokens_from_space, tokens_from_punctuation line '(' .leftParen _ rfl,
    list _ closes, tokens_from_punctuation line ')' .rightParen _ rfl, tokens_from_end]
  rfl

theorem exists_written_form (before : Nat) (newline : Bool) (withKey : Nat → Bool) (definition : TableDefinition)
    (printable : definition.Printable) :
    ∃ form : DefinitionForm, form.tokens = tokenize (definition.written before newline withKey) ∧
      form.definition = definition := by
  obtain ⟨first, line, areFirst, firstTexts, front⟩ := tokens_from_comments 1 (definition.comments.take before)
    fun text member => printable.comments text (List.mem_of_mem_take member)
  obtain ⟨after, broken⟩ := tokens_from_break line newline
  obtain ⟨second, last, areSecond, secondTexts, middle⟩ := tokens_from_comments after (definition.comments.drop before)
    fun text member => printable.comments text (List.mem_of_mem_drop member)
  obtain ⟨kind, columns, known, meanings, object⟩ := tokens_from_object last withKey definition printable
  refine ⟨⟨first, Keyword.CREATE.token line, second, Keyword.TABLE.token last, ⟨kind, definition.name, last⟩,
    ⟨.leftParen, "(", last⟩, columns, ⟨.rightParen, ")", last⟩, [⟨.endOfInput, "", last⟩],
    List.forall_mem_append.mpr ⟨areFirst, areSecond⟩, keyword_token_spelled .CREATE line,
    keyword_token_spelled .TABLE last, known, rfl, rfl⟩, ?_, ?_⟩
  · have whole : tokenize (definition.written before newline withKey) =
        tokensFrom 1 (definition.written before newline withKey).toList := rfl
    have create := tokens_from_keyword line .CREATE
    simp only [Keyword.text] at create
    rw [whole]
    simp only [written, String.toList_append, List.append_assoc]
    rw [front, create _ (break_ends_word newline _), broken, middle, object]
    simp [DefinitionForm.tokens]
    rfl
  · simp only [DefinitionForm.definition, meanings, List.map_append, firstTexts, secondTexts, List.take_append_drop]

theorem parse_definition_written (definition : TableDefinition) (printable : definition.Printable) (before : Nat)
    (newline : Bool) (withKey : Nat → Bool) : parse (definition.written before newline withKey) = ⟨definition, none⟩ := by
  have written := names_written_tokenize (definition.written before newline withKey)
  exact (of_tokens_iff _ written definition).mpr (exists_written_form before newline withKey definition printable)

-- Types and sizes of every form, a keyword between backticks, and comments on both sides of CREATE.
def usersDefinition : TableDefinition where
  name := "`table`"
  comments := ["-- user accounts", "/* not * yet **/"]
  columns := [⟨"id", "INT64", none, false, false⟩, ⟨"größe", "`STRING`", some "MAX", false, true⟩,
    ⟨"`2`", "BYTES", some "0XFF.A", true, true⟩, ⟨"tags", "KEY", none, true, false⟩]

theorem parse_definition_written_users :
    usersDefinition.Printable ∧
      usersDefinition.written 1 true (fun position => position == 0) =
        "-- user accounts\nCREATE\n/* not * yet **/\nTABLE `table` (id INT64 PRIMARY KEY, größe `STRING`(MAX) NOT NULL, " ++
          "`2` ARRAY<BYTES(0XFF.A)> NOT NULL, tags ARRAY<KEY>)" ∧
      parse (usersDefinition.written 1 true (fun position => position == 0)) = ⟨usersDefinition, none⟩ :=
  have printable : usersDefinition.Printable := by decide +kernel
  ⟨printable, by decide +kernel, parse_definition_written usersDefinition printable 1 true (fun position => position == 0)⟩

end SqlOutline.TableDefinition
