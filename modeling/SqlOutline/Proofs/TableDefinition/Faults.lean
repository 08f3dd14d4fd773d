import SqlOutline.Proofs.Parser.Faults
import SqlOutline.Proofs.TableDefinition.Step

set_option autoImplicit false

namespace SqlOutline.TableDefinition

open SqlOutline.Parser

-- A step that stops adds no comment and no column. Only after a name the definition can have changed.
def Leaves : State → TableDefinition → TableDefinition → Prop
  | .name, definition, changed => changed = { definition with name := changed.name }
  | _, definition, changed => changed = definition

theorem SizeForm.goes_on (form : SizeForm) : ∀ token ∈ form.tokens, token.kind.endsStream = false := by
  obtain ⟨opening, size, closing, isOpening, isSize, isClosing⟩ := form
  have first : opening.kind.endsStream = false := by rw [isOpening]; rfl
  have second : size.kind.endsStream = false := by rcases isSize with kind | kind <;> rw [kind] <;> rfl
  have third : closing.kind.endsStream = false := by rw [isClosing]; rfl
  simp [tokens, first, second, third]

theorem SizeForm.optional_goes_on (size? : Option SizeForm) :
    ∀ token ∈ optionalTokens size?, token.kind.endsStream = false := by
  cases size? with
  | none => exact nofun
  | some form => exact form.goes_on

theorem ColumnClause.goes_on (clause : ColumnClause) : ∀ token ∈ clause.tokens, token.kind.endsStream = false := by
  cases clause with
  | named name isName => exact List.forall_mem_singleton.mpr (TokenKind.name_goes_on _ isName)
  | size form => exact form.goes_on
  | notNull word null isNot isNull =>
      have first := word.keyword_goes_on .NOT isNot
      have second := null.keyword_goes_on .NULL isNull
      simp [tokens, first, second]
  | primaryKey word key isPrimary isKey =>
      have first := word.keyword_goes_on .PRIMARY isPrimary
      have second : key.kind.endsStream = false := by rw [isKey.1]; rfl
      simp [tokens, first, second]
  | array word less element size? greater isArray isLess isElement isGreater =>
      have first := word.keyword_goes_on .ARRAY isArray
      have second : less.kind.endsStream = false := by rw [isLess.1]; rfl
      have third : element.kind.endsStream = false := by rw [isElement]; rfl
      have last : greater.kind.endsStream = false := by rw [isGreater.1]; rfl
      have inside := List.forall_mem_append.mpr ⟨SizeForm.optional_goes_on size?, List.forall_mem_singleton.mpr last⟩
      exact List.forall_mem_cons.mpr ⟨first, List.forall_mem_cons.mpr ⟨second, List.forall_mem_cons.mpr ⟨third, inside⟩⟩⟩

theorem step_goes_on (all tokens rest : List Token) (state following : State) (definition changed : TableDefinition)
    (step : Step state definition tokens (some following) changed rest) (ahead : Ahead all tokens) : Ahead all rest := by
  cases step with
  | before _ token _ isComment => exact ahead.tail (TokenKind.comment_goes_on _ isComment)
  | create _ token _ isCreate => exact ahead.tail (token.keyword_goes_on .CREATE isCreate)
  | between _ token _ isComment => exact ahead.tail (TokenKind.comment_goes_on _ isComment)
  | table _ token _ isTable => exact ahead.tail (token.keyword_goes_on .TABLE isTable)
  | name _ name opening _ isName isOpening =>
      exact (ahead.tail (TokenKind.name_goes_on _ isName)).tail (by rw [isOpening]; rfl)
  | clause _ _ clause _ => exact ahead.drop clause.goes_on
  | column _ _ comma _ isComma _ => exact ahead.tail (by rw [isComma]; rfl)

section Readers

abbrev Stops (all : List Token) (definition : TableDefinition) (rest : List Token) (consumed : Nat)
    (action : ParseM TableDefinition (Option State)) : Prop :=
  Blames all (· = definition) action ⟨definition, ⟨rest, consumed⟩, none⟩ (Recorded all (· = definition))

-- After this part of a step there are tokens to come, and otherwise it stops with the definition as it was.
abbrev Proceeds {α : Type} (all : List Token) (definition : TableDefinition) (rest : List Token) (consumed : Nat)
    (action : ParseM TableDefinition α) : Prop :=
  Blames all (· = definition) action ⟨definition, ⟨rest, consumed⟩, none⟩ fun _ after =>
    ∃ back taken, after = ⟨definition, ⟨back, taken⟩, none⟩ ∧ Ahead all back

variable {all rest : List Token} {token : Token}

theorem read_start_stops (definition : TableDefinition) (consumed : Nat) (ahead : Ahead all (token :: rest))
    (readable : token.kind ≠ .error) : Stops all definition rest consumed (readStart token) := by
  unfold readStart
  split
  · exact blames_bind (blames_commit rfl (blames_pure nofun))
  · exact blames_bind (blames_commit rfl (blames_pure nofun))
  · rename_i isKeyword
    split
    · exact blames_pure nofun
    · exact blames_fail (.unsupported isKeyword ahead.mem) rfl
  · exact blames_fail (.unexpected _ readable ahead.mem) rfl

theorem read_object_stops (definition : TableDefinition) (consumed : Nat) (ahead : Ahead all (token :: rest))
    (readable : token.kind ≠ .error) : Stops all definition rest consumed (readObject token) := by
  unfold readObject
  split
  · exact blames_bind (blames_commit rfl (blames_pure nofun))
  · exact blames_bind (blames_commit rfl (blames_pure nofun))
  · rename_i isKeyword
    split
    · exact blames_pure nofun
    · exact blames_fail (.unsupported isKeyword ahead.mem) rfl
  · exact blames_fail (.unexpected _ readable ahead.mem) rfl

theorem read_name_stops (definition : TableDefinition) (consumed : Nat) (ahead : Ahead all (token :: rest))
    (readable : token.kind ≠ .error) :
    Blames all (Leaves .name definition) (readName token) ⟨definition, ⟨rest, consumed⟩, none⟩
      (Recorded all (Leaves .name definition)) := by
  unfold readName
  split
  · rename_i isName
    refine blames_bind (blames_change (blames_bind ?_))
    refine blames_next (ahead.tail (TokenKind.name_goes_on _ isName)) rfl fun opening others pending readable => ?_
    subst pending
    split
    · exact blames_pure nofun
    · have following := ahead.tail (TokenKind.name_goes_on _ isName)
      exact blames_fail (.not_found _ readable following.mem) rfl
  · exact blames_fail (.not_found _ readable ahead.mem) rfl

theorem read_size_proceeds (item : ColumnDefinition) (definition : TableDefinition) (consumed : Nat)
    (ahead : Ahead all rest) : Proceeds all definition rest consumed (readSize item) := by
  refine blames_bind (blames_next ahead rfl fun size others pending readable => ?_)
  subst pending
  split
  · rename_i isSize
    have goesOn : size.kind.endsStream = false := by rcases isSize with kind | kind <;> rw [kind] <;> rfl
    have following := ahead.tail goesOn
    refine blames_bind (blames_next following rfl fun closing back pending readable => ?_)
    subst pending
    split
    · rename_i isClosing
      exact blames_pure ⟨back, _, rfl, following.tail (by rw [isClosing]; rfl)⟩
    · exact blames_throw (.not_found _ readable following.mem) rfl
  · exact blames_throw (.not_found _ readable ahead.mem) rfl

theorem read_operator_proceeds (item : ColumnDefinition) (operator : String) (definition : TableDefinition)
    (consumed : Nat) (ahead : Ahead all rest) :
    Proceeds all definition rest consumed (readOperator item operator) := by
  refine blames_bind (blames_next ahead rfl fun token back pending readable => ?_)
  subst pending
  split
  · rename_i isOperator
    exact blames_pure ⟨back, _, rfl, ahead.tail (by rw [isOperator.1]; rfl)⟩
  · exact blames_throw (.not_found _ readable ahead.mem) rfl

theorem read_element_size_proceeds (item : ColumnDefinition) (definition : TableDefinition) (consumed : Nat)
    (ahead : Ahead all rest) : Proceeds all definition rest consumed (readElementSize item) := by
  refine blames_bind (blames_peek ahead rfl fun opening others pending _ => ?_)
  subst pending
  split
  · rename_i isOpening
    refine blames_bind (blames_skip ahead rfl fun _ _ pending => ?_)
    cases pending
    have following := ahead.tail (by rw [isOpening]; rfl)
    refine blames_bind (blames_imp (read_size_proceeds item definition _ following) ?_)
    rintro _ _ ⟨back, taken, rfl, further⟩
    exact blames_pure ⟨back, taken, rfl, further⟩
  · exact blames_pure ⟨_, _, rfl, ahead⟩

theorem read_array_stops (item : ColumnDefinition) (definition : TableDefinition) (consumed : Nat)
    (ahead : Ahead all rest) : Stops all definition rest consumed (readArray item) := by
  refine blames_bind (blames_imp (read_operator_proceeds item "<" definition _ ahead) ?_)
  rintro _ _ ⟨back, taken, rfl, ahead⟩
  refine blames_bind (blames_next ahead rfl fun element others pending readable => ?_)
  subst pending
  split
  · rename_i isElement
    have following := ahead.tail (by rw [isElement]; rfl)
    refine blames_bind (blames_imp (read_element_size_proceeds _ definition _ following) ?_)
    rintro _ _ ⟨back, taken, rfl, ahead⟩
    refine blames_bind (blames_imp (read_operator_proceeds _ ">" definition _ ahead) ?_)
    rintro _ _ ⟨back, taken, rfl, ahead⟩
    exact blames_pure nofun
  · exact blames_throw (.not_found _ readable ahead.mem) rfl

theorem read_word_stops (wanted : Token → Prop) [DecidablePred wanted] (what : String) (following : ColumnDefinition)
    (definition : TableDefinition) (consumed : Nat) (ahead : Ahead all rest) :
    Stops all definition rest consumed (readWord wanted what following) := by
  refine blames_bind (blames_peek ahead rfl fun word others pending _ => ?_)
  subst pending
  split
  · exact blames_bind (blames_skip ahead rfl fun _ _ _ => blames_pure nofun)
  · refine blames_bind (blames_next ahead rfl fun found others pending readable => ?_)
    cases pending
    exact blames_fail (.not_found what readable ahead.mem) rfl

theorem read_column_stops (item : ColumnDefinition) (definition : TableDefinition) (consumed : Nat)
    (ahead : Ahead all (token :: rest)) (readable : token.kind ≠ .error) :
    Stops all definition rest consumed (readColumn item token) := by
  have unexpected : Stops all definition rest consumed (fail (.unexpected "columns" token)) :=
    blames_fail (.unexpected _ readable ahead.mem) rfl
  unfold readColumn
  split
  · rename_i isKeyword
    have following := ahead.tail (by rw [isKeyword]; rfl)
    split
    · exact read_word_stops _ _ _ definition consumed following
    · exact read_word_stops _ _ _ definition consumed following
    · exact read_array_stops item definition consumed following
    · exact unexpected
  · exact blames_pure nofun
  · exact blames_pure nofun
  · rename_i isOpening
    have following := ahead.tail (by rw [isOpening]; rfl)
    refine blames_bind (blames_imp (read_size_proceeds item definition _ following) ?_)
    rintro _ _ ⟨back, taken, rfl, _⟩
    exact blames_pure nofun
  · exact blames_bind (blames_commit rfl (blames_pure nofun))
  · exact blames_bind (blames_commit rfl (blames_pure nofun))
  · exact unexpected

end Readers

theorem step_stops (all tokens : List Token) (state : State) (definition : TableDefinition) (consumed : Nat)
    (ahead : Ahead all tokens) :
    Blames all (Leaves state definition) (grammar.step state) ⟨definition, ⟨tokens, consumed⟩, none⟩
      (Recorded all (Leaves state definition)) := by
  have same : Leaves state definition definition := by cases state <;> rfl
  refine blames_bind (blames_next ahead same fun token rest pending readable => ?_)
  subst pending
  cases state with
  | start => exact read_start_stops definition (consumed + 1) ahead readable
  | object => exact read_object_stops definition (consumed + 1) ahead readable
  | name => exact read_name_stops definition (consumed + 1) ahead readable
  | columns item => exact read_column_stops item definition (consumed + 1) ahead readable

theorem grammar_accountable (all : List Token) : grammar.Accountable all Step Leaves where
  describes := grammar_describes
  goesOn state following definition changed tokens rest := step_goes_on all tokens rest state following definition changed
  stops state definition tokens consumed ahead := step_stops all tokens state definition consumed ahead

theorem parse_error_about (sql : String) : ∀ error ∈ (parse sql).error?, error.IsAbout (tokenize sql) :=
  grammar.run_error_about (grammar_accountable (tokenize sql)) .start {} _ 0 (ahead_of_tokenize sql)

end SqlOutline.TableDefinition
