import SqlOutline.Proofs.Parser.Acceptance
import SqlOutline.Proofs.TableDefinition.Form

set_option autoImplicit false

namespace SqlOutline.TableDefinition

open SqlOutline.Parser

def withSize (item : ColumnDefinition) : Option SizeForm → ColumnDefinition
  | none => item
  | some form => { item with typeSize? := some form.text }

def ColumnClause.extend (item : ColumnDefinition) : ColumnClause → ColumnDefinition
  | .named name _ => nameColumn item name.text
  | .size form => { item with typeSize? := some form.text }
  | .notNull _ _ _ _ => { item with notNull := true }
  | .primaryKey _ _ _ _ => item
  | .array _ _ element size? _ _ _ _ _ =>
      withSize { item with baseType := upperCase element.text, isArray := true } size?

inductive Step : State → TableDefinition → List Token → Option State → TableDefinition → List Token → Prop where
  | before (definition : TableDefinition) (token : Token) (rest : List Token) (isComment : token.kind.isComment = true) :
      Step .start definition (token :: rest) (some .start) (definition.addComment token.text) rest
  | create (definition : TableDefinition) (token : Token) (rest : List Token) (isCreate : token.isKeyword .CREATE = true) :
      Step .start definition (token :: rest) (some .object) definition rest
  | between (definition : TableDefinition) (token : Token) (rest : List Token) (isComment : token.kind.isComment = true) :
      Step .object definition (token :: rest) (some .object) (definition.addComment token.text) rest
  | table (definition : TableDefinition) (token : Token) (rest : List Token) (isTable : token.isKeyword .TABLE = true) :
      Step .object definition (token :: rest) (some .name) definition rest
  | name (definition : TableDefinition) (name opening : Token) (rest : List Token) (isName : name.kind.isName = true)
      (isOpening : opening.kind = .leftParen) :
      Step .name definition (name :: opening :: rest) (some (.columns {})) { definition with name := name.text } rest
  | clause (item : ColumnDefinition) (definition : TableDefinition) (clause : ColumnClause) (rest : List Token) :
      Step (.columns item) definition (clause.tokens ++ rest) (some (.columns (clause.extend item))) definition rest
  | column (item : ColumnDefinition) (definition : TableDefinition) (comma : Token) (rest : List Token)
      (isComma : comma.kind = .comma) (valid : item.isValid = true) :
      Step (.columns item) definition (comma :: rest) (some (.columns {})) (definition.addColumn item) rest
  | close (item : ColumnDefinition) (definition : TableDefinition) (closing : Token) (rest : List Token)
      (isClosing : closing.kind = .rightParen) (valid : item.isValid = true) :
      Step (.columns item) definition (closing :: rest) none (definition.addColumn item) rest

def Stepped (state : State) (definition : TableDefinition) (tokens : List Token) (following? : Option State)
    (after : Parser TableDefinition) : Prop :=
  after.error? = none → Step state definition tokens following? after.value after.tokens.rest

theorem read_start_steps (definition : TableDefinition) (token : Token) (rest : List Token) (consumed : Nat) :
    Ensures (readStart token) ⟨definition, ⟨rest, consumed⟩, none⟩ (Stepped .start definition (token :: rest)) := by
  have comment (isComment : token.kind.isComment = true) :
      Stepped .start definition (token :: rest) (some .start)
        ⟨definition.addComment token.text, ⟨rest, consumed⟩, none⟩ :=
    fun _ => .before definition token rest isComment
  unfold readStart
  split
  · rename_i kind
    exact ensures_bind (ensures_commit fun _ => ensures_pure (comment (by rw [kind]; rfl)))
  · rename_i kind
    exact ensures_bind (ensures_commit fun _ => ensures_pure (comment (by rw [kind]; rfl)))
  · split
    · rename_i isCreate
      exact ensures_pure fun _ => .create definition token rest isCreate
    · exact ensures_fail
  · exact ensures_fail

theorem read_object_steps (definition : TableDefinition) (token : Token) (rest : List Token) (consumed : Nat) :
    Ensures (readObject token) ⟨definition, ⟨rest, consumed⟩, none⟩ (Stepped .object definition (token :: rest)) := by
  have comment (isComment : token.kind.isComment = true) :
      Stepped .object definition (token :: rest) (some .object)
        ⟨definition.addComment token.text, ⟨rest, consumed⟩, none⟩ :=
    fun _ => .between definition token rest isComment
  unfold readObject
  split
  · rename_i kind
    exact ensures_bind (ensures_commit fun _ => ensures_pure (comment (by rw [kind]; rfl)))
  · rename_i kind
    exact ensures_bind (ensures_commit fun _ => ensures_pure (comment (by rw [kind]; rfl)))
  · split
    · rename_i isTable
      exact ensures_pure fun _ => .table definition token rest isTable
    · exact ensures_fail
  · exact ensures_fail

theorem read_name_steps (definition : TableDefinition) (token : Token) (rest : List Token) (consumed : Nat) :
    Ensures (readName token) ⟨definition, ⟨rest, consumed⟩, none⟩ (Stepped .name definition (token :: rest)) := by
  unfold readName
  split
  · rename_i isName
    refine ensures_bind (ensures_change (ensures_bind (ensures_next fun opening tail pending => ?_)))
    subst pending
    split
    · rename_i isOpening
      exact ensures_pure fun _ => .name definition token opening tail isName isOpening
    · exact ensures_fail
  · exact ensures_fail

theorem read_size_takes (item : ColumnDefinition) (definition : TableDefinition) (opening : Token) (rest : List Token)
    (consumed : Nat) (isOpening : opening.kind = .leftParen) :
    Ensures (readSize item) ⟨definition, ⟨rest, consumed⟩, none⟩ fun size after =>
      ∃ (form : SizeForm) (back : List Token) (taken : Nat), opening :: rest = form.tokens ++ back ∧ size = form.text ∧
        after = ⟨definition, ⟨back, taken⟩, none⟩ := by
  refine ensures_bind (ensures_next fun size tail pending => ?_)
  subst pending
  split
  · rename_i isSize
    refine ensures_bind (ensures_next fun closing back pending => ?_)
    subst pending
    split
    · rename_i isClosing
      exact ensures_pure ⟨⟨opening, size, closing, isOpening, isSize, isClosing⟩, back, _, rfl, rfl, rfl⟩
    · exact ensures_throw
  · exact ensures_throw

theorem read_operator_takes (item : ColumnDefinition) (operator : String) (definition : TableDefinition)
    (tokens : List Token) (consumed : Nat) :
    Ensures (readOperator item operator) ⟨definition, ⟨tokens, consumed⟩, none⟩ fun _ after =>
      ∃ token rest, tokens = token :: rest ∧ (token.kind = .operator ∧ token.text = operator) ∧
        after = ⟨definition, ⟨rest, consumed + 1⟩, none⟩ := by
  refine ensures_bind (ensures_next fun token rest pending => ?_)
  split
  · rename_i isOperator
    exact ensures_pure ⟨token, rest, pending, isOperator, rfl⟩
  · exact ensures_throw

theorem read_element_size_takes (item : ColumnDefinition) (definition : TableDefinition) (tokens : List Token)
    (consumed : Nat) :
    Ensures (readElementSize item) ⟨definition, ⟨tokens, consumed⟩, none⟩ fun result after =>
      ∃ (size? : Option SizeForm) (back : List Token) (taken : Nat), tokens = SizeForm.optionalTokens size? ++ back ∧
        result = withSize item size? ∧ after = ⟨definition, ⟨back, taken⟩, none⟩ := by
  refine ensures_bind (ensures_peek fun opening tail pending _ => ?_)
  subst pending
  split
  · rename_i isOpening
    refine ensures_bind (ensures_skip fun _ _ pending => ?_)
    cases pending
    refine ensures_bind (ensures_imp (read_size_takes item definition opening tail _ isOpening) ?_)
    rintro _ _ ⟨form, back, taken, spelled, rfl, rfl⟩
    exact ensures_pure ⟨some form, back, taken, spelled, rfl, rfl⟩
  · exact ensures_pure ⟨none, _, _, rfl, rfl, rfl⟩

theorem read_array_steps (item : ColumnDefinition) (definition : TableDefinition) (word : Token) (rest : List Token)
    (consumed : Nat) (isArray : word.isKeyword .ARRAY = true) :
    Ensures (readArray item) ⟨definition, ⟨rest, consumed⟩, none⟩
      (Stepped (.columns item) definition (word :: rest)) := by
  refine ensures_bind (ensures_imp (read_operator_takes item "<" definition rest consumed) ?_)
  rintro _ _ ⟨less, rest, rfl, isLess, rfl⟩
  refine ensures_bind (ensures_next fun element rest pending => ?_)
  subst pending
  split
  · rename_i isElement
    refine ensures_bind (ensures_imp (read_element_size_takes _ definition rest _) ?_)
    rintro _ _ ⟨size?, rest, taken, rfl, rfl, rfl⟩
    refine ensures_bind (ensures_imp (read_operator_takes _ ">" definition rest taken) ?_)
    rintro _ _ ⟨greater, rest, rfl, isGreater, rfl⟩
    have step := Step.clause item definition
      (.array word less element size? greater isArray isLess isElement isGreater) rest
    simp only [ColumnClause.tokens, List.cons_append, List.append_assoc] at step
    exact ensures_pure fun _ => step
  · exact ensures_throw

theorem read_word_steps (wanted : Token → Prop) [DecidablePred wanted] (what : String) (item following : ColumnDefinition)
    (definition : TableDefinition) (before : Token) (rest : List Token) (consumed : Nat)
    (steps : ∀ word tail, wanted word →
      Step (.columns item) definition (before :: word :: tail) (some (.columns following)) definition tail) :
    Ensures (readWord wanted what following) ⟨definition, ⟨rest, consumed⟩, none⟩
      (Stepped (.columns item) definition (before :: rest)) := by
  refine ensures_bind (ensures_peek fun word tail pending _ => ?_)
  subst pending
  split
  · rename_i isWanted
    refine ensures_bind (ensures_skip fun _ _ pending => ensures_pure fun _ => ?_)
    cases pending
    exact steps word tail isWanted
  · exact ensures_bind (ensures_next fun _ _ _ => ensures_fail)

theorem read_column_steps (item : ColumnDefinition) (definition : TableDefinition) (token : Token) (rest : List Token)
    (consumed : Nat) :
    Ensures (readColumn item token) ⟨definition, ⟨rest, consumed⟩, none⟩
      (Stepped (.columns item) definition (token :: rest)) := by
  unfold readColumn
  split
  · split
    · rename_i spelled
      have isNot := (Token.is_keyword_iff _ _).mpr spelled
      exact read_word_steps _ _ item _ definition token rest consumed fun null tail isNull =>
        .clause item definition (.notNull token null isNot isNull) tail
    · rename_i spelled
      have isPrimary := (Token.is_keyword_iff _ _).mpr spelled
      exact read_word_steps _ _ item _ definition token rest consumed fun key tail isKey =>
        .clause item definition (.primaryKey token key isPrimary isKey) tail
    · rename_i spelled
      exact read_array_steps item definition token rest consumed ((Token.is_keyword_iff _ _).mpr spelled)
    · exact ensures_fail
  · rename_i kind
    exact ensures_pure fun _ => .clause item definition (.named token (by rw [kind]; rfl)) rest
  · rename_i kind
    exact ensures_pure fun _ => .clause item definition (.named token (by rw [kind]; rfl)) rest
  · rename_i isOpening
    refine ensures_bind (ensures_imp (read_size_takes item definition token rest consumed isOpening) ?_)
    rintro _ _ ⟨form, back, taken, spelled, rfl, rfl⟩
    rw [spelled]
    exact ensures_pure fun _ => .clause item definition (.size form) back
  · rename_i isComma
    exact ensures_bind (ensures_commit fun valid => ensures_pure fun _ => .column item definition token rest isComma valid)
  · rename_i isClosing
    exact ensures_bind (ensures_commit fun valid => ensures_pure fun _ => .close item definition token rest isClosing valid)
  · exact ensures_fail

theorem step_steps (state : State) (definition : TableDefinition) (tokens : List Token) (consumed : Nat) :
    Ensures (grammar.step state) ⟨definition, ⟨tokens, consumed⟩, none⟩ (Stepped state definition tokens) := by
  refine ensures_bind (ensures_next fun token rest pending => ?_)
  subst pending
  cases state with
  | start => exact read_start_steps definition token rest (consumed + 1)
  | object => exact read_object_steps definition token rest (consumed + 1)
  | name => exact read_name_steps definition token rest (consumed + 1)
  | columns item => exact read_column_steps item definition token rest (consumed + 1)

theorem step_cons (state : State) (definition : TableDefinition) (token : Token) (rest : List Token) (consumed : Nat)
    (readable : token.kind ≠ .error) :
    grammar.step state ⟨definition, ⟨token :: rest, consumed⟩, none⟩ =
      (read state token : ParseM TableDefinition (Option State)) ⟨definition, ⟨rest, consumed + 1⟩, none⟩ :=
  next_bind definition token rest consumed none readable

theorem read_size_done (item : ColumnDefinition) (definition : TableDefinition) (size closing : Token)
    (rest : List Token) (consumed : Nat) (isSize : size.kind = .identifier ∨ size.kind = .number)
    (isClosing : closing.kind = .rightParen) :
    (readSize item : ParseM TableDefinition String) ⟨definition, ⟨size :: closing :: rest, consumed⟩, none⟩ =
      .ok (upperCase size.text) ⟨definition, ⟨rest, consumed + 2⟩, none⟩ := by
  have readable : size.kind ≠ .error := by rcases isSize with kind | kind <;> simp [kind]
  rw [readSize, next_bind _ _ _ _ _ readable, if_pos isSize, next_bind _ _ _ _ _ (by simp [isClosing]), if_pos isClosing]
  rfl

theorem read_operator_done (item : ColumnDefinition) (operator : String) (definition : TableDefinition) (token : Token)
    (rest : List Token) (consumed : Nat) (isOperator : token.kind = .operator ∧ token.text = operator) :
    (readOperator item operator : ParseM TableDefinition Unit) ⟨definition, ⟨token :: rest, consumed⟩, none⟩ =
      .ok () ⟨definition, ⟨rest, consumed + 1⟩, none⟩ := by
  rw [readOperator, next_bind _ _ _ _ _ (by simp [isOperator.1]), if_pos isOperator]
  rfl

theorem read_element_size_done (item : ColumnDefinition) (definition : TableDefinition) (size? : Option SizeForm)
    (greater : Token) (rest : List Token) (consumed : Nat) (isGreater : greater.kind = .operator ∧ greater.text = ">") :
    ∃ taken, (readElementSize item : ParseM TableDefinition ColumnDefinition)
        ⟨definition, ⟨SizeForm.optionalTokens size? ++ greater :: rest, consumed⟩, none⟩ =
      .ok (withSize item size?) ⟨definition, ⟨greater :: rest, taken⟩, none⟩ := by
  cases size? with
  | none =>
      refine ⟨consumed, ?_⟩
      change (readElementSize item : ParseM TableDefinition ColumnDefinition)
        ⟨definition, ⟨greater :: rest, consumed⟩, none⟩ = _
      rw [readElementSize, peek_bind _ _ _ _ _ (by simp [isGreater.1]), if_neg (by simp [isGreater.1])]
      rfl
  | some form =>
      obtain ⟨opening, size, closing, isOpening, isSize, isClosing⟩ := form
      refine ⟨consumed + 3, ?_⟩
      change (readElementSize item : ParseM TableDefinition ColumnDefinition)
        ⟨definition, ⟨opening :: size :: closing :: greater :: rest, consumed⟩, none⟩ = _
      rw [readElementSize, peek_bind _ _ _ _ _ (by simp [isOpening]), if_pos isOpening,
        skip_bind _ _ _ _ _ (by simp [isOpening]),
        bind_of_ok (read_size_done item definition size closing _ _ isSize isClosing)]
      rfl

theorem read_word_done (wanted : Token → Prop) [DecidablePred wanted] (what : String) (following : ColumnDefinition)
    (definition : TableDefinition) (word : Token) (rest : List Token) (consumed : Nat) (readable : word.kind ≠ .error)
    (isWanted : wanted word) :
    (readWord wanted what following : ParseM TableDefinition (Option State)) ⟨definition, ⟨word :: rest, consumed⟩, none⟩ =
      .ok (some (.columns following)) ⟨definition, ⟨rest, consumed + 1⟩, none⟩ := by
  rw [readWord, peek_bind _ _ _ _ _ readable, if_pos isWanted, skip_bind _ _ _ _ _ readable]
  rfl

theorem clause_taken (item : ColumnDefinition) (definition : TableDefinition) (clause : ColumnClause)
    (rest : List Token) (consumed : Nat) :
    ∃ taken, grammar.step (.columns item) ⟨definition, ⟨clause.tokens ++ rest, consumed⟩, none⟩ =
      .ok (some (.columns (clause.extend item))) ⟨definition, ⟨rest, taken⟩, none⟩ := by
  cases clause with
  | named name isName =>
      refine ⟨consumed + 1, ?_⟩
      change grammar.step _ ⟨definition, ⟨name :: rest, consumed⟩, none⟩ = _
      rw [step_cons _ _ _ _ _ (TokenKind.not_error_of_name _ isName)]
      rcases (TokenKind.is_name_iff _).mp isName with kind | kind
      all_goals
        simp only [read, readColumn, kind]
        rfl
  | size form =>
      obtain ⟨opening, size, closing, isOpening, isSize, isClosing⟩ := form
      refine ⟨consumed + 3, ?_⟩
      change grammar.step _ ⟨definition, ⟨opening :: size :: closing :: rest, consumed⟩, none⟩ = _
      rw [step_cons _ _ _ _ _ (by simp [isOpening])]
      simp only [read, readColumn, isOpening]
      rw [bind_of_ok (read_size_done item definition size closing rest _ isSize isClosing)]
      rfl
  | notNull word null isNot isNull =>
      have spelled := (Token.is_keyword_iff _ _).mp isNot
      have kind := Token.kind_of_keyword word .NOT spelled
      have nullKind := Token.kind_of_keyword null .NULL ((Token.is_keyword_iff _ _).mp isNull)
      refine ⟨consumed + 2, ?_⟩
      change grammar.step _ ⟨definition, ⟨word :: null :: rest, consumed⟩, none⟩ = _
      rw [step_cons _ _ _ _ _ (by simp [kind])]
      simp only [read, readColumn, kind, spelled]
      exact read_word_done _ _ _ definition null rest _ (by simp [nullKind]) isNull
  | primaryKey word key isPrimary isKey =>
      have spelled := (Token.is_keyword_iff _ _).mp isPrimary
      have kind := Token.kind_of_keyword word .PRIMARY spelled
      refine ⟨consumed + 2, ?_⟩
      change grammar.step _ ⟨definition, ⟨word :: key :: rest, consumed⟩, none⟩ = _
      rw [step_cons _ _ _ _ _ (by simp [kind])]
      simp only [read, readColumn, kind, spelled]
      exact read_word_done _ _ _ definition key rest _ (by simp [isKey.1]) isKey
  | array word less element size? greater isArray isLess isElement isGreater =>
      have spelled := (Token.is_keyword_iff _ _).mp isArray
      have kind := Token.kind_of_keyword word .ARRAY spelled
      obtain ⟨taken, sized⟩ := read_element_size_done { item with baseType := upperCase element.text, isArray := true }
        definition size? greater rest (consumed + 3) isGreater
      refine ⟨taken + 1, ?_⟩
      simp only [ColumnClause.tokens, List.cons_append, List.append_assoc, List.nil_append]
      rw [step_cons _ _ _ _ _ (by simp [kind])]
      simp only [read, readColumn, kind, spelled]
      rw [readArray, bind_of_ok (read_operator_done item "<" definition less _ _ isLess),
        next_bind _ _ _ _ _ (by simp [isElement]), if_pos isElement, bind_of_ok sized,
        bind_of_ok (read_operator_done _ ">" definition greater rest taken isGreater)]
      rfl

theorem step_taken (state : State) (definition changed : TableDefinition) (tokens rest : List Token) (consumed : Nat)
    (following? : Option State) (step : Step state definition tokens following? changed rest) :
    ∃ taken, grammar.step state ⟨definition, ⟨tokens, consumed⟩, none⟩ =
      .ok following? ⟨changed, ⟨rest, taken⟩, none⟩ := by
  cases step with
  | before _ token _ isComment =>
      refine ⟨consumed + 1, ?_⟩
      rcases (TokenKind.is_comment_iff _).mp isComment with kind | kind
      all_goals
        rw [step_cons _ _ _ _ _ (by simp [kind])]
        simp only [read, readStart, kind]
        rfl
  | create _ token _ isCreate =>
      have kind := Token.kind_of_keyword token .CREATE ((Token.is_keyword_iff _ _).mp isCreate)
      refine ⟨consumed + 1, ?_⟩
      rw [step_cons _ _ _ _ _ (by simp [kind])]
      simp only [read, readStart, kind, if_pos isCreate]
      rfl
  | between _ token _ isComment =>
      refine ⟨consumed + 1, ?_⟩
      rcases (TokenKind.is_comment_iff _).mp isComment with kind | kind
      all_goals
        rw [step_cons _ _ _ _ _ (by simp [kind])]
        simp only [read, readObject, kind]
        rfl
  | table _ token _ isTable =>
      have kind := Token.kind_of_keyword token .TABLE ((Token.is_keyword_iff _ _).mp isTable)
      refine ⟨consumed + 1, ?_⟩
      rw [step_cons _ _ _ _ _ (by simp [kind])]
      simp only [read, readObject, kind, if_pos isTable]
      rfl
  | name _ name opening _ isName isOpening =>
      refine ⟨consumed + 2, ?_⟩
      rw [step_cons _ _ _ _ _ (TokenKind.not_error_of_name _ isName)]
      simp only [read, readName, if_pos isName]
      rw [change_bind, next_bind _ _ _ _ _ (by simp [isOpening]), if_pos isOpening]
      rfl
  | clause item _ clause _ => exact clause_taken item definition clause rest consumed
  | column item _ comma _ isComma valid =>
      refine ⟨consumed + 1, ?_⟩
      rw [step_cons _ _ _ _ _ (by simp [isComma])]
      simp only [read, readColumn, isComma, valid]
      rfl
  | close item _ closing _ isClosing valid =>
      refine ⟨consumed + 1, ?_⟩
      rw [step_cons _ _ _ _ _ (by simp [isClosing])]
      simp only [read, readColumn, isClosing, valid]
      rfl

theorem grammar_describes : grammar.Describes Step where
  sound state definition tokens consumed following? after success clean :=
    step_steps state definition tokens consumed following? after success clean
  complete state definition changed tokens rest consumed following? step :=
    step_taken state definition changed tokens rest consumed following? step

end SqlOutline.TableDefinition
