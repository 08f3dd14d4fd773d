import SqlOutline.Proofs.Parser.Respelling
import SqlOutline.TableDefinition.Grammar

set_option autoImplicit false

namespace SqlOutline

def ColumnDefinition.respell (text : String → String) (item : ColumnDefinition) : ColumnDefinition :=
  { item with name := text item.name }

def TableDefinition.respell (text : String → String) (definition : TableDefinition) : TableDefinition :=
  ⟨text definition.name, definition.comments.map text, definition.columns.map (ColumnDefinition.respell text)⟩

namespace TableDefinition

open SqlOutline.Parser

def State.respell (text : String → String) : State → State
  | .columns item => .columns (item.respell text)
  | state => state

variable (respelling : Respelling)

abbrev ActsAlike {α : Type} (same : α → α → Prop) (action other : ParseM TableDefinition α) : Prop :=
  Alike respelling (TableDefinition.respell respelling.text) same action other

abbrev ReadsAlike (action other : ParseM TableDefinition (Option State)) : Prop :=
  ActsAlike respelling (fun following? other? => other? = following?.map (State.respell respelling.text)) action other

section Values

theorem respell_column_empty : ({} : ColumnDefinition).respell respelling.text = {} := by
  simp only [ColumnDefinition.respell, respelling.empty]

theorem respell_column_valid (item : ColumnDefinition) : (item.respell respelling.text).isValid = item.isValid := by
  simp only [ColumnDefinition.isValid, ColumnDefinition.respell, respelling.is_empty]

theorem respell_add_comment (text : String → String) (comment : String) (definition : TableDefinition) :
    (definition.respell text).addComment (text comment) = (definition.addComment comment).respell text := by
  simp [respell, addComment]

theorem respell_add_column (text : String → String) (item : ColumnDefinition) (definition : TableDefinition) :
    (definition.respell text).addColumn (item.respell text) = (definition.addColumn item).respell text := by
  simp [respell, addColumn]

theorem respell_name_column (item : ColumnDefinition) (text : String) :
    nameColumn (item.respell respelling.text) (respelling.text text) = (nameColumn item text).respell respelling.text := by
  simp only [nameColumn, ColumnDefinition.respell, respelling.is_empty, respelling.capitals]
  split <;> rfl

theorem respell_wanted (item : ColumnDefinition) (what : String) :
    respelling.text (wantedIn (item.respell respelling.text) what) = respelling.text (wantedIn item what) := by
  simp only [wantedIn, ColumnDefinition.respell, respelling.append, respelling.again]

end Values

section Steps

variable {respelling} {token other : Token} (same : SameToken respelling token other)

theorem goes_on_alike {following other : State} (same : other = following.respell respelling.text) :
    ReadsAlike respelling (pure (some following)) (pure (some other)) :=
  alike_pure (congrArg some same)

theorem commit_alike (what : String) {valid otherValid : Bool} {add otherAdd : TableDefinition → TableDefinition}
    {following? other? : Option State} (same : otherValid = valid)
    (commutes : ∀ definition, otherAdd (TableDefinition.respell respelling.text definition) =
      TableDefinition.respell respelling.text (add definition))
    (goesOn : other? = following?.map (State.respell respelling.text)) :
    ReadsAlike respelling (do commit what valid add; return following?) (do commit what otherValid otherAdd; return other?) :=
  alike_bind (alike_commit what same commutes) fun _ _ _ => alike_pure goesOn

theorem read_size_alike (item : ColumnDefinition) :
    ActsAlike respelling Eq (readSize item) (readSize (item.respell respelling.text)) := by
  refine alike_bind alike_next fun size otherSize sizes => ?_
  rw [sizes.1.kind, sizes.1.text sizes.2, respelling.capitals]
  split
  · refine alike_bind alike_next fun closing otherClosing closings => ?_
    rw [closings.1.kind]
    split
    · exact alike_pure rfl
    · exact alike_throw (.not_found closings.1 _ _ (respell_wanted respelling item _))
  · exact alike_throw (.not_found sizes.1 _ _ (respell_wanted respelling item _))

theorem read_operator_alike (item : ColumnDefinition) (symbol : Char) (plain : symbol.isAlpha = false) :
    ActsAlike respelling Eq (readOperator item (String.singleton symbol))
      (readOperator (item.respell respelling.text) (String.singleton symbol)) := by
  refine alike_bind alike_next fun token other same => ?_
  have text : other.text = String.singleton symbol ↔ token.text = String.singleton symbol := by
    rw [same.1.text same.2, respelling.symbol_iff _ symbol plain]
  simp only [same.1.kind, text]
  split
  · exact alike_pure rfl
  · exact alike_throw (.not_found same.1 _ _ (respell_wanted respelling item _))

theorem read_element_size_alike (item : ColumnDefinition) :
    ActsAlike respelling (fun item other => other = item.respell respelling.text) (readElementSize item)
      (readElementSize (item.respell respelling.text)) := by
  refine alike_bind alike_peek fun next otherNext nexts => ?_
  rw [nexts.1.kind]
  split
  · refine alike_bind alike_skip fun _ _ _ => alike_bind (read_size_alike item) fun size otherSize sizes => ?_
    subst sizes
    exact alike_pure rfl
  · exact alike_pure rfl

theorem read_array_alike (item : ColumnDefinition) :
    ReadsAlike respelling (readArray item) (readArray (item.respell respelling.text)) := by
  refine alike_bind (read_operator_alike item '<' rfl) fun _ _ _ => ?_
  refine alike_bind alike_next fun element otherElement elements => ?_
  rw [elements.1.kind, elements.1.text elements.2, respelling.capitals]
  split
  · refine alike_bind (read_element_size_alike { item with baseType := upperCase element.text, isArray := true })
      fun item otherItem items => ?_
    subst items
    exact alike_bind (read_operator_alike item '>' rfl) fun _ _ _ => goes_on_alike rfl
  · exact alike_throw (.not_found elements.1 _ _ (respell_wanted respelling item _))

theorem read_word_alike (wanted : Token → Prop) [DecidablePred wanted] (item following : ColumnDefinition) (what : String)
    (alike : ∀ token other, SameToken respelling token other → (wanted other ↔ wanted token)) :
    ReadsAlike respelling (readWord wanted (wantedIn item what) following)
      (readWord wanted (wantedIn (item.respell respelling.text) what) (following.respell respelling.text)) := by
  refine alike_bind alike_peek fun word otherWord words => ?_
  simp only [alike word otherWord words]
  split
  · exact alike_bind alike_skip fun _ _ _ => goes_on_alike rfl
  · exact alike_bind alike_next fun token other same =>
      alike_fail (.not_found same.1 _ _ (respell_wanted respelling item _)) rfl

theorem read_null_alike (item : ColumnDefinition) :
    ReadsAlike respelling (readNull item) (readNull (item.respell respelling.text)) :=
  read_word_alike _ item { item with notNull := true } _ fun _ _ same => by rw [same.1.is_keyword]

theorem read_key_alike (item : ColumnDefinition) :
    ReadsAlike respelling (readKey item) (readKey (item.respell respelling.text)) :=
  read_word_alike _ item item _ fun _ _ same => by
    rw [same.1.kind, same.1.text same.2, respelling.equal_ignoring_case]

include same

theorem unexpected_alike (state : String) :
    ReadsAlike respelling (fail (.unexpected state token)) (fail (.unexpected state other)) :=
  alike_fail (.unexpected same.1 state) rfl

theorem awaits_alike (keyword : Keyword) {state following : State} (stays : state.respell respelling.text = state)
    (goesOn : following.respell respelling.text = following) :
    ReadsAlike respelling
      (match token.kind with
      | .singleLineComment | .multiLineComment => do
          commit "comment" true (·.addComment token.text)
          return some state
      | .keyword => if token.isKeyword keyword then return some following else fail (.unsupported token)
      | _ => fail (.unexpected "create" token))
      (match other.kind with
      | .singleLineComment | .multiLineComment => do
          commit "comment" true (·.addComment other.text)
          return some state
      | .keyword => if other.isKeyword keyword then return some following else fail (.unsupported other)
      | _ => fail (.unexpected "create" other)) := by
  obtain ⟨respells, readable⟩ := same
  rw [respells.kind, respells.is_keyword, respells.text readable]
  split
  · exact commit_alike _ rfl (respell_add_comment _ _) (congrArg some stays.symm)
  · exact commit_alike _ rfl (respell_add_comment _ _) (congrArg some stays.symm)
  · split
    · exact goes_on_alike goesOn.symm
    · exact alike_fail (.unsupported respells) rfl
  · exact unexpected_alike ⟨respells, readable⟩ _

theorem read_start_alike : ReadsAlike respelling (readStart token) (readStart other) :=
  awaits_alike same .CREATE rfl rfl

theorem read_object_alike : ReadsAlike respelling (readObject token) (readObject other) :=
  awaits_alike same .TABLE rfl rfl

theorem read_name_alike : ReadsAlike respelling (readName token) (readName other) := by
  obtain ⟨respells, readable⟩ := same
  unfold readName
  rw [respells.kind, respells.text readable]
  split
  · refine alike_bind (alike_change fun definition => rfl) fun _ _ _ => ?_
    refine alike_bind alike_next fun opening otherOpening openings => ?_
    rw [openings.1.kind]
    split
    · refine goes_on_alike ?_
      rw [State.respell, respell_column_empty]
    · exact alike_fail (.not_found openings.1 _ _ rfl) rfl
  · exact alike_fail (.not_found respells _ _ rfl) rfl

theorem read_column_alike (item : ColumnDefinition) :
    ReadsAlike respelling (readColumn item token) (readColumn (item.respell respelling.text) other) := by
  obtain ⟨respells, readable⟩ := same
  unfold readColumn
  rw [respells.kind, respells.keyword, respells.text readable]
  have valid := respell_column_valid respelling item
  have adds := respell_add_column respelling.text item
  split
  · split
    · exact read_null_alike item
    · exact read_key_alike item
    · exact read_array_alike item
    · exact unexpected_alike ⟨respells, readable⟩ _
  · exact goes_on_alike (congrArg State.columns (respell_name_column respelling item token.text))
  · exact goes_on_alike (congrArg State.columns (respell_name_column respelling item token.text))
  · refine alike_bind (read_size_alike item) fun size otherSize sizes => ?_
    subst sizes
    exact goes_on_alike rfl
  · refine commit_alike _ valid adds ?_
    simp only [Option.map_some, State.respell, respell_column_empty]
  · exact commit_alike _ valid adds rfl
  · exact unexpected_alike ⟨respells, readable⟩ _

omit same in
theorem step_alike (state : State) :
    ReadsAlike respelling (grammar.step state) (grammar.step (state.respell respelling.text)) := by
  refine alike_bind alike_next fun token other same => ?_
  cases state with
  | start => exact read_start_alike same
  | object => exact read_object_alike same
  | name => exact read_name_alike same
  | columns item => exact read_column_alike same item

end Steps

theorem of_tokens_respelled (tokens others : List Token) (respelled : List.Forall₂ (Token.Respells respelling) tokens others) :
    (ofTokens others).value = (ofTokens tokens).value.respell respelling.text ∧
      Option.Rel (ParseError.Respells respelling) (ofTokens tokens).error? (ofTokens others).error? := by
  refine grammar.run_alike step_alike .start _ _ ⟨?_, respelled, .none⟩
  simp only [Parser.ofTokens, respell, respelling.empty, List.map_nil]

end TableDefinition

end SqlOutline
