import SqlOutline.Proofs.Parser.Continuation
import SqlOutline.Proofs.TableDefinition.Column
import SqlOutline.Proofs.Token.Pieces

set_option autoImplicit false

namespace SqlOutline.TableDefinition

open SqlOutline.Parser

structure IsPartOf (part whole : TableDefinition) : Prop where
  name : part.name = "" ∨ part.name = whole.name
  comments : part.comments <+: whole.comments
  columns : part.columns <+: whole.columns

namespace IsPartOf

theorem refl (definition : TableDefinition) : IsPartOf definition definition :=
  ⟨.inr rfl, List.prefix_rfl, List.prefix_rfl⟩

theorem trans (first second third : TableDefinition) (before : IsPartOf first second) (after : IsPartOf second third) :
    IsPartOf first third := by
  refine ⟨?_, before.comments.trans after.comments, before.columns.trans after.columns⟩
  rcases before.name with unset | same
  · exact .inl unset
  · rw [same]
    exact after.name

theorem add_comment (definition : TableDefinition) (text : String) : IsPartOf definition (definition.addComment text) :=
  ⟨.inr rfl, List.prefix_append .., List.prefix_rfl⟩

theorem add_column (definition : TableDefinition) (item : ColumnDefinition) :
    IsPartOf definition (definition.addColumn item) :=
  ⟨.inr rfl, List.prefix_rfl, List.prefix_append ..⟩

theorem set_name (definition : TableDefinition) (name : String) (unset : definition.name = "") :
    IsPartOf definition { definition with name := name } :=
  ⟨.inl unset, List.prefix_rfl, List.prefix_rfl⟩

end IsPartOf

def State.Consistent : State → TableDefinition → Prop
  | .columns _, _ => True
  | _, definition => definition.name = ""

theorem step_consistent (state following : State) (definition changed : TableDefinition) (tokens rest : List Token)
    (step : Step state definition tokens (some following) changed rest) (consistent : state.Consistent definition) :
    following.Consistent changed := by
  cases step with
  | before definition token rest isComment => exact consistent
  | create definition token rest isCreate => exact consistent
  | between definition token rest isComment => exact consistent
  | table definition token rest isTable => exact consistent
  | name definition name opening rest isName isOpening => exact trivial
  | clause item definition clause rest => exact trivial
  | column item definition comma rest isComma valid => exact trivial

section Continuations

-- After two names any column can end: one of them is its name if it has none, and the last is its type.
theorem columns_continue (item : ColumnDefinition) (definition : TableDefinition) :
    Continues Step (.columns item) definition [] := by
  have named : (nameColumn (nameColumn item "c") "T").isValid = true := by
    have typed : upperCase "T" ≠ "" := upper_case_ne_empty "T" nofun
    by_cases unnamed : item.name = "" <;> simp [nameColumn, ColumnDefinition.isValid, unnamed, typed]
  have first := Step.clause item definition (.named ⟨.identifier, "c", 1⟩ rfl) [⟨.identifier, "T", 1⟩, ⟨.rightParen, ")", 1⟩]
  have second := Step.clause (nameColumn item "c") definition (.named ⟨.identifier, "T", 1⟩ rfl) [⟨.rightParen, ")", 1⟩]
  have last := Step.close (nameColumn (nameColumn item "c") "T") definition ⟨.rightParen, ")", 1⟩ [] rfl named
  exact ⟨_, _, .more _ _ _ _ _ _ _ first (.more _ _ _ _ _ _ _ second (.last _ _ _ _ _ last))⟩

theorem clause_continues (item : ColumnDefinition) (definition : TableDefinition) (clause : ColumnClause)
    (before extra : List Token) (spelled : clause.tokens = before ++ extra) :
    Continues Step (.columns item) definition before := by
  refine continues_more extra (fun rest => ?_) (columns_continue (clause.extend item) definition)
  rw [← List.append_assoc, ← spelled]
  exact .clause item definition clause rest

theorem name_continues (definition : TableDefinition) (name : Token) (isName : name.kind.isName = true) :
    Continues Step .name definition [name] :=
  continues_more [⟨.leftParen, "(", 1⟩] (fun rest => .name definition name _ rest isName rfl) (columns_continue {} _)

theorem object_continues (definition : TableDefinition) : Continues Step .object definition [] := by
  obtain ⟨rest, result, accepts⟩ := name_continues definition ⟨.identifier, "t", 1⟩ rfl
  have table := Step.table definition (Keyword.TABLE.token 1) (⟨.identifier, "t", 1⟩ :: rest)
    (keyword_token_spelled .TABLE 1)
  exact ⟨_, result, .more _ _ _ _ _ _ _ table accepts⟩

theorem state_continues (state : State) (definition : TableDefinition) : Continues Step state definition [] := by
  cases state with
  | start =>
      exact continues_more [Keyword.CREATE.token 1]
        (fun rest => .create definition _ rest (keyword_token_spelled .CREATE 1)) (object_continues definition)
  | object => exact object_continues definition
  | name =>
      obtain ⟨rest, result, accepts⟩ := name_continues definition ⟨.identifier, "t", 1⟩ rfl
      exact ⟨_, result, accepts⟩
  | columns item => exact columns_continue item definition

end Continuations

section Reading

abbrev Reads (state : State) (definition value : TableDefinition) (before : List Token) (seen? : Option Token)
    (action : ParseM TableDefinition (Option State)) : Prop :=
  Reading IsPartOf (Continues Step state definition) value before seen? action

theorem read_start_reads (definition : TableDefinition) (token : Token) :
    Reads .start definition definition [token] none (readStart token) := by
  unfold readStart
  split
  · exact reading_commit (.add_comment definition _) (.pure ..)
  · exact reading_commit (.add_comment definition _) (.pure ..)
  · split
    · exact .pure ..
    · exact .fail _ _ _ _ (.unsupported _)
  · exact .fail _ _ _ _ (.unexpected _ _)

theorem read_object_reads (definition : TableDefinition) (token : Token) :
    Reads .object definition definition [token] none (readObject token) := by
  unfold readObject
  split
  · exact reading_commit (.add_comment definition _) (.pure ..)
  · exact reading_commit (.add_comment definition _) (.pure ..)
  · split
    · exact .pure ..
    · exact .fail _ _ _ _ (.unsupported _)
  · exact .fail _ _ _ _ (.unexpected _ _)

theorem read_name_reads (definition : TableDefinition) (token : Token) (unset : definition.name = "") :
    Reads .name definition definition [token] none (readName token) := by
  unfold readName
  split
  · rename_i isName
    refine .change _ _ _ _ _ (.set_name definition token.text unset) ?_
    refine .next _ _ _ (name_continues definition token isName) fun opening => ?_
    split
    · exact .pure ..
    · exact .fail _ _ _ _ (.not_found _ _)
  · exact .fail _ _ _ _ (.not_found _ _)

variable {item : ColumnDefinition} {definition : TableDefinition} {before : List Token}

theorem read_size_reads {further : String → ParseM TableDefinition (Option State)} (shown : ColumnDefinition)
    (opened : Continues Step (.columns item) definition before)
    (sized : ∀ size : Token, size.kind = .identifier ∨ size.kind = .number →
      Continues Step (.columns item) definition (before ++ [size]))
    (closed : ∀ size closing : Token, size.kind = .identifier ∨ size.kind = .number → closing.kind = .rightParen →
      Reads (.columns item) definition definition (before ++ [size] ++ [closing]) none (further (upperCase size.text))) :
    Reads (.columns item) definition definition before none (readSize shown >>= further) := by
  simp only [readSize, bind_assoc]
  refine .next _ _ _ opened fun size => ?_
  split
  · rename_i isSize
    simp only [bind_assoc]
    refine .next _ _ _ (sized size isSize) fun closing => ?_
    split
    · rename_i isClosing
      exact closed size closing isSize isClosing
    · exact .throw _ _ _ _ (.not_found _ _)
  · exact .throw _ _ _ _ (.not_found _ _)

theorem read_operator_reads {further : Unit → ParseM TableDefinition (Option State)} (shown : ColumnDefinition)
    (operator : String) (seen? : Option Token) (asked : Continues Step (.columns item) definition before)
    (taken : ∀ token : Token, token.kind = .operator ∧ token.text = operator →
      Reads (.columns item) definition definition (before ++ [token]) none (further ())) :
    Reads (.columns item) definition definition before seen? (readOperator shown operator >>= further) := by
  simp only [readOperator, bind_assoc]
  have each (token : Token) : Reads (.columns item) definition definition (before ++ [token]) none
      ((if token.kind = .operator ∧ token.text = operator then pure ()
        else throw (.notFound (wantedIn shown ("'" ++ operator ++ "' in array type")) token)) >>= further) := by
    split
    · rename_i isOperator
      exact taken token isOperator
    · exact .throw _ _ _ _ (.not_found _ _)
  cases seen? with
  | none => exact .next _ _ _ asked each
  | some token => exact .take _ _ token _ (each token)

theorem read_element_size_reads {further : ColumnDefinition → ParseM TableDefinition (Option State)}
    (shown : ColumnDefinition) (asked : Continues Step (.columns item) definition before)
    (opened : ∀ opening : Token, opening.kind = .leftParen →
      Continues Step (.columns item) definition (before ++ [opening]))
    (sized : ∀ opening size : Token, opening.kind = .leftParen → size.kind = .identifier ∨ size.kind = .number →
      Continues Step (.columns item) definition (before ++ [opening] ++ [size]))
    (closed : ∀ (form : SizeForm),
      Reads (.columns item) definition definition (before ++ form.tokens) none (further (withSize shown (some form))))
    (plain : ∀ token : Token, Reads (.columns item) definition definition before (some token) (further shown)) :
    Reads (.columns item) definition definition before none (readElementSize shown >>= further) := by
  simp only [readElementSize, bind_assoc]
  refine .peek _ _ _ asked fun opening => ?_
  split
  · rename_i isOpening
    simp only [bind_assoc]
    refine reading_skip (read_size_reads shown (opened opening isOpening)
      (fun size isSize => sized opening size isOpening isSize) fun size closing isSize isClosing => ?_)
    rw [List.append_assoc, List.append_assoc]
    exact closed ⟨opening, size, closing, isOpening, isSize, isClosing⟩
  · exact plain opening

theorem read_array_reads (item : ColumnDefinition) (definition : TableDefinition) (word : Token)
    (isArray : word.isKeyword .ARRAY = true) :
    Reads (.columns item) definition definition [word] none (readArray item) := by
  -- An array type can be completed from the tokens that are there, whichever these are.
  have completed (less element : Token) (size? : Option SizeForm) (isLess : less.kind = .operator ∧ less.text = "<")
      (isElement : element.kind = .identifier) (before extra : List Token)
      (spelled : word :: less :: element :: (SizeForm.optionalTokens size? ++ [(⟨.operator, ">", 1⟩ : Token)]) =
        before ++ extra) :
      Continues Step (.columns item) definition before :=
    clause_continues item definition (.array word less element size? ⟨.operator, ">", 1⟩ isArray isLess isElement ⟨rfl, rfl⟩)
      before extra spelled
  refine read_operator_reads item "<" none (completed ⟨.operator, "<", 1⟩ ⟨.identifier, "e", 1⟩ none ⟨rfl, rfl⟩ rfl _ _ rfl)
    fun less isLess => ?_
  refine .next _ _ _ (completed less ⟨.identifier, "e", 1⟩ none isLess rfl _ _ rfl) fun element => ?_
  split
  · rename_i isElement
    have asked := completed less element none isLess isElement [word, less, element] _ rfl
    refine read_element_size_reads _ asked (fun opening isOpening => ?_) (fun opening size isOpening isSize => ?_)
      (fun form => ?_) fun token => ?_
    · exact completed less element (some ⟨opening, ⟨.identifier, "s", 1⟩, ⟨.rightParen, ")", 1⟩, isOpening, .inl rfl, rfl⟩)
        isLess isElement _ _ rfl
    · exact completed less element (some ⟨opening, size, ⟨.rightParen, ")", 1⟩, isOpening, isSize, rfl⟩) isLess isElement
        _ _ rfl
    · exact read_operator_reads _ ">" none (completed less element (some form) isLess isElement _ _ rfl)
        fun _ _ => .pure ..
    · exact read_operator_reads _ ">" (some token) asked fun _ _ => .pure ..
  · exact .throw _ _ _ _ (.not_found _ _)

theorem read_word_reads (wanted : Token → Prop) [DecidablePred wanted] (what : String) (item following : ColumnDefinition)
    (definition : TableDefinition) (before : Token) (viable : Continues Step (.columns item) definition [before]) :
    Reads (.columns item) definition definition [before] none (readWord wanted what following) := by
  refine .peek _ _ _ viable fun word => ?_
  split
  · exact reading_skip (.pure ..)
  · exact .take _ _ _ _ (.fail _ _ _ _ (.not_found _ _))

theorem read_column_reads (item : ColumnDefinition) (definition : TableDefinition) (token : Token) :
    Reads (.columns item) definition definition [token] none (readColumn item token) := by
  unfold readColumn
  split
  · split
    · rename_i spelled
      have isNot := (Token.is_keyword_iff _ _).mpr spelled
      exact read_word_reads _ _ item _ definition token
        (clause_continues item definition (.notNull token (Keyword.NULL.token 1) isNot (keyword_token_spelled .NULL 1))
          [token] [Keyword.NULL.token 1] rfl)
    · rename_i spelled
      have isPrimary := (Token.is_keyword_iff _ _).mpr spelled
      have isKey : equalIgnoringCase "KEY" "KEY" = true := (equal_ignoring_case_iff _ _).mpr rfl
      exact read_word_reads _ _ item _ definition token
        (clause_continues item definition (.primaryKey token ⟨.identifier, "KEY", 1⟩ isPrimary ⟨rfl, isKey⟩)
          [token] [⟨.identifier, "KEY", 1⟩] rfl)
    · rename_i spelled
      exact read_array_reads item definition token ((Token.is_keyword_iff _ _).mpr spelled)
    · exact .fail _ _ _ _ (.unexpected _ _)
  · exact .pure ..
  · exact .pure ..
  · rename_i isOpening
    refine read_size_reads item ?_ (fun size isSize => ?_) fun _ _ _ _ => .pure ..
    · exact clause_continues item definition
        (.size ⟨token, ⟨.identifier, "s", 1⟩, ⟨.rightParen, ")", 1⟩, isOpening, .inl rfl, rfl⟩) _ _ rfl
    · exact clause_continues item definition (.size ⟨token, size, ⟨.rightParen, ")", 1⟩, isOpening, isSize, rfl⟩) _ _ rfl
  · exact reading_commit (.add_column definition item) (.pure ..)
  · exact reading_commit (.add_column definition item) (.pure ..)
  · exact .fail _ _ _ _ (.unexpected _ _)

theorem step_reads (state : State) (definition : TableDefinition) (consistent : state.Consistent definition) :
    Reads state definition definition [] none (grammar.step state) := by
  refine .next _ _ _ (state_continues state definition) fun token => ?_
  cases state with
  | start => exact read_start_reads definition token
  | object => exact read_object_reads definition token
  | name => exact read_name_reads definition token consistent
  | columns item => exact read_column_reads item definition token

end Reading

theorem grammar_incremental : grammar.Incremental Step IsPartOf State.Consistent where
  describes := grammar_describes
  refl := IsPartOf.refl
  trans := IsPartOf.trans
  keeps := step_consistent
  reads := step_reads

theorem run_looks (front : List Token) (readable : Readable front) :
    Grammar.RunLooks Step IsPartOf grammar .start {} front :=
  grammar.run_looks grammar_incremental .start {} front 0 readable rfl

end SqlOutline.TableDefinition
