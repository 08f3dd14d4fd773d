import SqlOutline.Proofs.Parser.Acceptance
import SqlOutline.Proofs.Query.Form

set_option autoImplicit false

namespace SqlOutline.Query

open SqlOutline.Parser

def ColumnUnit.extend (item : Column) : ColumnUnit → Column
  | .asAlias _ name _ _ => { item with alias? := some name.text }
  | .qualifier name _ _ _ => { item with table? := some name.text }
  | .aliased name label _ _ => { item with column := name.text, alias? := some label.text }
  | .plain name _ => { item with column := item.column ++ name.text }
  | .wildcard _ _ => { item with column := Column.wildcard }

def addName (item : Table) (text : String) : Table :=
  if item.name.isEmpty then { item with name := text } else { item with alias? := some text }

-- A token is there after a plain name, and it is not an error.
def ColumnUnit.SeesNext (unit : ColumnUnit) (following : List Token) : Prop :=
  unit.isPlain = true → ∃ token rest, following = token :: rest ∧ token.kind ≠ .error

inductive Step : State → Query → List Token → Option State → Query → List Token → Prop where
  | comment (query : Query) (token : Token) (rest : List Token) (isComment : token.kind.isComment = true) :
      Step .start query (token :: rest) (some .start) (query.addComment token.text) rest
  | select (query : Query) (token : Token) (rest : List Token) (isSelect : token.isKeyword .SELECT = true) :
      Step .start query (token :: rest) (some (.columns {})) { query with statement? := some .select } rest
  | unit (item : Column) (query : Query) (unit : ColumnUnit) (rest : List Token) (ends : unit.EndsBefore rest)
      (seen : unit.SeesNext rest) :
      Step (.columns item) query (unit.tokens ++ rest) (some (.columns (unit.extend item))) query rest
  | column (item : Column) (query : Query) (comma : Token) (rest : List Token) (isComma : comma.kind = .comma)
      (valid : item.isValid = true) :
      Step (.columns item) query (comma :: rest) (some (.columns {})) (query.addSelect item) rest
  | source (item : Column) (query : Query) (token : Token) (rest : List Token) (isFrom : token.isKeyword .FROM = true)
      (valid : item.isValid = true) :
      Step (.columns item) query (token :: rest) (some (.tables {})) (query.addSelect item) rest
  | name (item : Table) (query : Query) (token : Token) (rest : List Token) (isName : token.kind.isName = true)
      (free : item.alias? = none) :
      Step (.tables item) query (token :: rest) (some (.tables (addName item token.text))) query rest
  | table (item : Table) (query : Query) (comma : Token) (rest : List Token) (isComma : comma.kind = .comma)
      (valid : item.isValid = true) :
      Step (.tables item) query (comma :: rest) (some (.tables {})) (query.addFrom item) rest
  | stop (item : Table) (query : Query) (token : Token) (rest : List Token) (isStop : StopsQuery token)
      (valid : item.isValid = true) : Step (.tables item) query (token :: rest) none (query.addFrom item) rest

-- After an action that takes its tokens from `tokens`, either an error is recorded or a step was made.
def Stepped (state : State) (query : Query) (tokens : List Token) (following? : Option State)
    (after : Parser Query) : Prop :=
  after.error? = none → Step state query tokens following? after.value after.tokens.rest

theorem stop_word_iff (token : Token) :
    (token.isKeyword .WHERE || token.isOneOf joinKeywords) = true ↔
      token.isOneOf [.WHERE, .JOIN, .INNER, .OUTER, .LEFT, .RIGHT, .FULL] = true := by
  simp only [Bool.or_eq_true, Token.is_keyword_iff, Token.is_one_of_iff, joinKeywords]
  simp

theorem read_start_steps (query : Query) (token : Token) (rest : List Token) (consumed : Nat) :
    Ensures (readStart token) ⟨query, ⟨rest, consumed⟩, none⟩ (Stepped .start query (token :: rest)) := by
  have comment (isComment : token.kind.isComment = true) :
      Stepped .start query (token :: rest) (some .start) ⟨query.addComment token.text, ⟨rest, consumed⟩, none⟩ :=
    fun _ => .comment query token rest isComment
  unfold readStart
  split
  · rename_i kind
    exact ensures_bind (ensures_commit fun _ => ensures_pure (comment (by rw [kind]; rfl)))
  · rename_i kind
    exact ensures_bind (ensures_commit fun _ => ensures_pure (comment (by rw [kind]; rfl)))
  · split
    · rename_i isSelect
      exact ensures_bind (ensures_change (ensures_pure fun _ => .select query token rest isSelect))
    · exact ensures_fail
  · exact ensures_fail

theorem read_column_name_steps (item : Column) (query : Query) (name : Token) (rest : List Token) (consumed : Nat)
    (isName : name.kind.isName = true) :
    Ensures (readColumnName item name) ⟨query, ⟨rest, consumed⟩, none⟩
      (Stepped (.columns item) query (name :: rest)) := by
  refine ensures_bind (ensures_peek fun token tail pending readable => ?_)
  subst pending
  split
  · rename_i isDot
    refine ensures_bind (ensures_skip fun _ _ pending => ensures_pure fun _ => ?_)
    cases pending
    exact .unit item query (.qualifier name token isName isDot) tail nofun nofun
  · rename_i isIdentifier
    refine ensures_bind (ensures_next fun _ _ pending => ensures_pure fun _ => ?_)
    cases pending
    exact .unit item query (.aliased name token isName isIdentifier) tail nofun nofun
  · rename_i notDot notIdentifier
    refine ensures_pure fun _ => ?_
    refine .unit item query (.plain name isName) (token :: tail) ?_ fun _ => ⟨token, tail, rfl, readable⟩
    rintro _ _ ⟨⟩
    exact ⟨notDot, notIdentifier⟩

theorem read_alias_steps (item : Column) (query : Query) (word : Token) (rest : List Token) (consumed : Nat)
    (isAs : word.isKeyword .AS = true) :
    Ensures (readAlias item) ⟨query, ⟨rest, consumed⟩, none⟩ (Stepped (.columns item) query (word :: rest)) := by
  refine ensures_bind (ensures_next fun name tail pending => ?_)
  subst pending
  split
  · rename_i isName
    exact ensures_pure fun _ => .unit item query (.asAlias word name isAs isName) tail nofun nofun
  · exact ensures_fail

theorem read_column_steps (item : Column) (query : Query) (token : Token) (rest : List Token) (consumed : Nat) :
    Ensures (readColumn item token) ⟨query, ⟨rest, consumed⟩, none⟩ (Stepped (.columns item) query (token :: rest)) := by
  unfold readColumn
  split
  · rename_i isComma
    exact ensures_bind (ensures_commit fun valid => ensures_pure fun _ => .column item query token rest isComma valid)
  · split
    · rename_i isFrom
      exact ensures_bind (ensures_commit fun valid => ensures_pure fun _ => .source item query token rest isFrom valid)
    · split
      · rename_i isAs
        exact read_alias_steps item query token rest consumed isAs
      · exact ensures_fail
  · rename_i kind
    exact read_column_name_steps item query token rest consumed (by rw [kind]; rfl)
  · rename_i kind
    exact read_column_name_steps item query token rest consumed (by rw [kind]; rfl)
  · rename_i kind
    split
    · rename_i isStar
      exact ensures_pure fun _ => .unit item query (.wildcard token ⟨kind, isStar⟩) rest nofun nofun
    · exact ensures_fail
  · exact ensures_fail

theorem read_table_name_steps (item : Table) (query : Query) (token : Token) (rest : List Token) (consumed : Nat)
    (isName : token.kind.isName = true) :
    Ensures (readTableName item token) ⟨query, ⟨rest, consumed⟩, none⟩
      (Stepped (.tables item) query (token :: rest)) := by
  unfold readTableName
  split
  · exact ensures_fail
  · rename_i free
    have step := Step.name item query token rest isName free
    unfold addName at step
    split
    · rename_i unnamed
      rw [if_pos unnamed] at step
      exact ensures_pure fun _ => step
    · rename_i named
      rw [if_neg named] at step
      exact ensures_pure fun _ => step

theorem read_table_steps (item : Table) (query : Query) (token : Token) (rest : List Token) (consumed : Nat) :
    Ensures (readTable item token) ⟨query, ⟨rest, consumed⟩, none⟩ (Stepped (.tables item) query (token :: rest)) := by
  have stop (isStop : StopsQuery token) (what : String) :
      Ensures (do
        commit what item.isValid (·.addFrom item)
        return (none : Option State)) ⟨query, ⟨rest, consumed⟩, none⟩ (Stepped (.tables item) query (token :: rest)) :=
    ensures_bind (ensures_commit fun valid => ensures_pure fun _ => .stop item query token rest isStop valid)
  unfold readTable
  split
  · rename_i isComma
    exact ensures_bind (ensures_commit fun valid => ensures_pure fun _ => .table item query token rest isComma valid)
  · split
    · rename_i word
      exact stop (.inr (.inr ((stop_word_iff token).mp word))) _
    · exact ensures_fail
  · rename_i kind
    exact read_table_name_steps item query token rest consumed (by rw [kind]; rfl)
  · rename_i kind
    exact read_table_name_steps item query token rest consumed (by rw [kind]; rfl)
  · rename_i kind
    exact stop (.inl kind) _
  · rename_i kind
    exact stop (.inr (.inl kind)) _
  · exact ensures_fail

theorem step_steps (state : State) (query : Query) (tokens : List Token) (consumed : Nat) :
    Ensures (grammar.step state) ⟨query, ⟨tokens, consumed⟩, none⟩ (Stepped state query tokens) := by
  refine ensures_bind (ensures_next fun token rest pending => ?_)
  subst pending
  cases state with
  | start => exact read_start_steps query token rest (consumed + 1)
  | columns item => exact read_column_steps item query token rest (consumed + 1)
  | tables item => exact read_table_steps item query token rest (consumed + 1)

theorem step_cons (state : State) (query : Query) (token : Token) (rest : List Token) (consumed : Nat)
    (readable : token.kind ≠ .error) :
    grammar.step state ⟨query, ⟨token :: rest, consumed⟩, none⟩ =
      (read state token : ParseM Query (Option State)) ⟨query, ⟨rest, consumed + 1⟩, none⟩ :=
  next_bind query token rest consumed none readable

theorem read_column_of_name (item : Column) (name : Token) (isName : name.kind.isName = true) :
    (readColumn item name : ParseM Query (Option State)) = readColumnName item name := by
  rcases (TokenKind.is_name_iff _).mp isName with kind | kind <;> simp only [readColumn, kind]

theorem unit_taken (item : Column) (query : Query) (unit : ColumnUnit) (rest : List Token) (consumed : Nat)
    (ends : unit.EndsBefore rest) (seen : unit.SeesNext rest) :
    ∃ taken, grammar.step (.columns item) ⟨query, ⟨unit.tokens ++ rest, consumed⟩, none⟩ =
      .ok (some (.columns (unit.extend item))) ⟨query, ⟨rest, taken⟩, none⟩ := by
  cases unit with
  | asAlias word name isAs isName =>
      have spelled := (Token.is_keyword_iff _ _).mp isAs
      have kind := Token.kind_of_keyword word .AS spelled
      refine ⟨consumed + 2, ?_⟩
      change grammar.step _ ⟨query, ⟨word :: name :: rest, consumed⟩, none⟩ = _
      rw [step_cons _ _ _ _ _ (by simp [kind])]
      simp only [read, readColumn, kind, Token.isKeyword, spelled]
      change (readAlias item : ParseM Query (Option State)) ⟨query, ⟨name :: rest, consumed + 1⟩, none⟩ = _
      rw [readAlias, next_bind _ _ _ _ _ (by simp [isName]), if_pos isName]
      rfl
  | qualifier name dot isName isDot =>
      refine ⟨consumed + 2, ?_⟩
      change grammar.step _ ⟨query, ⟨name :: dot :: rest, consumed⟩, none⟩ = _
      rw [step_cons _ _ _ _ _ (TokenKind.not_error_of_name _ isName), read, read_column_of_name _ _ isName,
        readColumnName, peek_bind _ _ _ _ _ (by simp [isDot])]
      simp only [isDot]
      rw [skip_bind _ _ _ _ _ (by simp [isDot])]
      rfl
  | aliased name label isName isLabel =>
      refine ⟨consumed + 2, ?_⟩
      change grammar.step _ ⟨query, ⟨name :: label :: rest, consumed⟩, none⟩ = _
      rw [step_cons _ _ _ _ _ (TokenKind.not_error_of_name _ isName), read, read_column_of_name _ _ isName,
        readColumnName, peek_bind _ _ _ _ _ (by simp [isLabel])]
      simp only [isLabel]
      rw [next_bind _ _ _ _ _ (by simp [isLabel])]
      rfl
  | plain name isName =>
      obtain ⟨token, tail, rfl, readable⟩ := seen rfl
      obtain ⟨notDot, notIdentifier⟩ := ends rfl token rfl
      refine ⟨consumed + 1, ?_⟩
      change grammar.step _ ⟨query, ⟨name :: token :: tail, consumed⟩, none⟩ = _
      rw [step_cons _ _ _ _ _ (TokenKind.not_error_of_name _ isName), read, read_column_of_name _ _ isName,
        readColumnName, peek_bind _ _ _ _ _ readable]
      cases kind : token.kind with
      | dot => exact absurd kind notDot
      | identifier => exact absurd kind notIdentifier
      | _ => rfl
  | wildcard star isStar =>
      refine ⟨consumed + 1, ?_⟩
      change grammar.step _ ⟨query, ⟨star :: rest, consumed⟩, none⟩ = _
      rw [step_cons _ _ _ _ _ (by simp [isStar.1])]
      simp only [read, readColumn, isStar.1, if_pos isStar.2]
      rfl

theorem step_taken (state : State) (query changed : Query) (tokens rest : List Token) (consumed : Nat)
    (following? : Option State) (step : Step state query tokens following? changed rest) :
    ∃ taken, grammar.step state ⟨query, ⟨tokens, consumed⟩, none⟩ = .ok following? ⟨changed, ⟨rest, taken⟩, none⟩ := by
  cases step with
  | comment _ token _ isComment =>
      refine ⟨consumed + 1, ?_⟩
      rcases (TokenKind.is_comment_iff _).mp isComment with kind | kind
      all_goals
        rw [step_cons _ _ _ _ _ (by simp [kind])]
        simp only [read, readStart, kind]
        rfl
  | select _ token _ isSelect =>
      have spelled := (Token.is_keyword_iff _ _).mp isSelect
      have kind := Token.kind_of_keyword token .SELECT spelled
      refine ⟨consumed + 1, ?_⟩
      rw [step_cons _ _ _ _ _ (by simp [kind])]
      simp only [read, readStart, kind, if_pos isSelect]
      rfl
  | unit item _ unit _ ends seen => exact unit_taken item query unit rest consumed ends seen
  | column item _ comma _ isComma valid =>
      refine ⟨consumed + 1, ?_⟩
      rw [step_cons _ _ _ _ _ (by simp [isComma])]
      simp only [read, readColumn, isComma, valid]
      rfl
  | source item _ token _ isFrom valid =>
      have kind := Token.kind_of_keyword token .FROM ((Token.is_keyword_iff _ _).mp isFrom)
      refine ⟨consumed + 1, ?_⟩
      rw [step_cons _ _ _ _ _ (by simp [kind])]
      simp only [read, readColumn, kind, if_pos isFrom, valid]
      rfl
  | name item _ token _ isName free =>
      refine ⟨consumed + 1, ?_⟩
      rw [step_cons _ _ _ _ _ (TokenKind.not_error_of_name _ isName)]
      rcases (TokenKind.is_name_iff _).mp isName with kind | kind
      all_goals
        simp only [read, readTable, kind, readTableName, free, addName]
        split <;> rfl
  | table item _ comma _ isComma valid =>
      refine ⟨consumed + 1, ?_⟩
      rw [step_cons _ _ _ _ _ (by simp [isComma])]
      simp only [read, readTable, isComma, valid]
      rfl
  | stop item _ token _ isStop valid =>
      refine ⟨consumed + 1, ?_⟩
      rcases isStop with kind | kind | word
      · rw [step_cons _ _ _ _ _ (by simp [kind])]
        simp only [read, readTable, kind, valid]
        rfl
      · rw [step_cons _ _ _ _ _ (by simp [kind])]
        simp only [read, readTable, kind, valid]
        rfl
      · obtain ⟨keyword, _, spelled⟩ := (Token.is_one_of_iff _ _).mp word
        have kind := Token.kind_of_keyword token keyword spelled
        rw [step_cons _ _ _ _ _ (by simp [kind])]
        simp only [read, readTable, kind, if_pos ((stop_word_iff token).mpr word), valid]
        rfl

theorem grammar_describes : grammar.Describes Step where
  sound state query tokens consumed following? after success clean :=
    step_steps state query tokens consumed following? after success clean
  complete state query changed tokens rest consumed following? step :=
    step_taken state query changed tokens rest consumed following? step

end SqlOutline.Query
