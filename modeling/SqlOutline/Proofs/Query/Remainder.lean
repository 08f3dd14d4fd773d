import SqlOutline.Proofs.Query.Acceptance
import SqlOutline.Proofs.Token.Extension
import SqlOutline.Proofs.Token.Pieces

set_option autoImplicit false

namespace SqlOutline.Query

namespace SelectForm

def statement (form : SelectForm) : List Token :=
  form.comments ++ [form.select] ++ form.columns.tokens ColumnForm.tokens ++ [form.source] ++
    form.tables.tokens TableForm.tokens

def endedBy (form : SelectForm) (stop : Token) (rest : List Token) (isStop : StopsQuery stop) : SelectForm :=
  { form with stop := stop, rest := rest, isStop := isStop }

theorem tokens_eq (form : SelectForm) : form.tokens = form.statement ++ form.stop :: form.rest := by
  simp [tokens, statement]

end SelectForm

theorem stop_readable (token : Token) (isStop : StopsQuery token) : token.kind ≠ .error := by
  rcases isStop with kind | kind | word
  · simp [kind]
  · simp [kind]
  · obtain ⟨keyword, _, spelled⟩ := (token.is_one_of_iff _).mp word
    simp [token.kind_of_keyword keyword spelled]

theorem parse_ended_by (sql : String) (form : SelectForm) (stop : Token) (rest : List Token) (isStop : StopsQuery stop)
    (spelled : tokenize sql = form.statement ++ stop :: rest) : parse sql = ⟨form.query, none⟩ :=
  (of_tokens_iff _ (names_written_tokenize sql) _).mpr
    ⟨form.endedBy stop rest isStop, (form.endedBy stop rest isStop).tokens_eq.trans spelled.symm, rfl⟩

section NextLine

variable (front back : String) (form : SelectForm)

theorem newline_to_list (back : String) : ("\n" ++ back).toList = '\n' :: back.toList := by
  simp [String.toList_append]

-- The query ends where its text ends. There the first token of the next line comes in place of the end of the input.
theorem parse_past_end (stop : Token) (rest : List Token) (isStop : StopsQuery stop) (next : tokenize back = stop :: rest)
    (spelled : form.statement ++ [form.stop] = tokenize front) :
    parse (front ++ ("\n" ++ back)) = ⟨form.query, none⟩ := by
  have last : (tokenize front).getLast? = some form.stop := by rw [← spelled, List.getLast?_concat]
  have beginning : (tokenize front).dropLast = form.statement := by rw [← spelled, List.dropLast_concat]
  have ends := (TokenKind.ends_stream_iff _).mp ((tokenize_stream front).last_ends form.stop last)
  have ended := ends.resolve_right (stop_readable form.stop form.isStop)
  have joined := Lexer.tokens_append_newline back.toList (Lexer.ofString front) nofun
    ((congrArg _ last).trans (congrArg some ended))
  have moved := Lexer.tokens_moved_down (newlines front.toList + 1) (Lexer.ofString back)
  rw [show (Lexer.ofString back).tokens = _ from next, List.map_cons] at moved
  have whole : tokenize (front ++ ("\n" ++ back)) =
      form.statement ++ stop.movedDown (newlines front.toList + 1) ::
        rest.map (Token.movedDown (newlines front.toList + 1)) := by
    rw [← beginning, ← moved, tokenize, Lexer.ofString, String.toList_append, newline_to_list]
    exact joined
  have stillStops : StopsQuery (stop.movedDown (newlines front.toList + 1)) := isStop
  exact parse_ended_by _ form _ _ stillStops whole

theorem parse_past_stop (followed : form.rest ≠ []) (spelled : form.statement ++ form.stop :: form.rest = tokenize front) :
    parse (front ++ ("\n" ++ back)) = ⟨form.query, none⟩ := by
  have split : tokenize front = (form.statement ++ [form.stop]) ++ form.rest := by
    rw [List.append_assoc]
    exact spelled.symm
  have settled : Settled ("\n" ++ back).toList (form.statement ++ [form.stop]) form.rest := by
    rw [newline_to_list]
    exact fun last _ => .inr (.inl (Lexer.newline_boundary last.kind [] back.toList))
  obtain ⟨further, longer⟩ := tokenize_extended front _ _ _ split followed settled
  exact parse_ended_by _ form form.stop further form.isStop (longer.symm.trans (List.append_assoc ..))

theorem parse_next_line (stop : Token) (rest : List Token) (isStop : StopsQuery stop) (next : tokenize back = stop :: rest)
    (complete : (parse front).error? = none) : parse (front ++ ("\n" ++ back)) = ⟨(parse front).value, none⟩ := by
  have accepted : parse front = ⟨(parse front).value, none⟩ := congrArg (Parsed.mk _) complete
  obtain ⟨form, spelled, means⟩ := (of_tokens_iff _ (names_written_tokenize front) _).mp accepted
  rw [form.tokens_eq] at spelled
  rw [← means]
  cases following : form.rest with
  | nil =>
      rw [following] at spelled
      exact parse_past_end front back form stop rest isStop next spelled
  | cons token others => exact parse_past_stop front back form (following ▸ List.cons_ne_nil token others) spelled

end NextLine

theorem keyword_stops (line : Nat) (keyword : Keyword)
    (stops : keyword ∈ [Keyword.WHERE, .JOIN, .INNER, .OUTER, .LEFT, .RIGHT, .FULL]) : StopsQuery (keyword.token line) :=
  .inr (.inr ((Token.is_one_of_iff _ _).mpr ⟨keyword, stops, Keyword.of_string_text keyword⟩))

theorem parse_next_keyword (front back : String) (keyword : Keyword)
    (stops : keyword ∈ [Keyword.WHERE, .JOIN, .INNER, .OUTER, .LEFT, .RIGHT, .FULL])
    (complete : (parse front).error? = none) :
    parse (front ++ ("\n" ++ (keyword.text ++ " " ++ back))) = ⟨(parse front).value, none⟩ := by
  have text : (keyword.text ++ " " ++ back).toList = keyword.text.toList ++ ' ' :: back.toList := by
    simp [String.toList_append]
  refine parse_next_line front _ (keyword.token 1) (tokensFrom 1 (' ' :: back.toList)) (keyword_stops 1 keyword stops) ?_
    complete
  rw [tokenize, Lexer.ofString, text]
  exact lexes_to_keyword 1 keyword _ (separated_space _)

theorem parse_query_continued (front back : String) (complete : (parse front).error? = none) :
    parse (front ++ "\n;" ++ back) = ⟨(parse front).value, none⟩ ∧
      parse (front ++ "\nWHERE " ++ back) = ⟨(parse front).value, none⟩ ∧
      ∀ keyword ∈ [Keyword.JOIN, .INNER, .OUTER, .LEFT, .RIGHT, .FULL],
        parse (front ++ "\n" ++ keyword.text ++ " " ++ back) = ⟨(parse front).value, none⟩ := by
  refine ⟨?_, ?_, fun keyword member => ?_⟩
  · have split : front ++ "\n;" ++ back = front ++ ("\n" ++ (";" ++ back)) := by
      simp [← String.toList_inj, String.toList_append]
    have text : (";" ++ back).toList = ';' :: back.toList := by simp [String.toList_append]
    have next : tokenize (";" ++ back) = ⟨.statementEnd, ";", 1⟩ :: tokensFrom 1 back.toList := by
      rw [tokenize, Lexer.ofString, text]
      exact tokens_from_punctuation 1 ';' .statementEnd _ rfl
    rw [split]
    exact parse_next_line front (";" ++ back) _ _ (.inr (.inl rfl)) next complete
  · have split : front ++ "\nWHERE " ++ back = front ++ ("\n" ++ (Keyword.WHERE.text ++ " " ++ back)) := by
      simp [← String.toList_inj, String.toList_append, Keyword.text]
    rw [split]
    exact parse_next_keyword front back .WHERE List.mem_cons_self complete
  · have split : front ++ "\n" ++ keyword.text ++ " " ++ back = front ++ ("\n" ++ (keyword.text ++ " " ++ back)) := by
      simp only [String.append_assoc]
    rw [split]
    exact parse_next_keyword front back keyword (List.mem_cons_of_mem _ member) complete

theorem parse_query_continued_unread :
    (parse "SELECT * FROM t; 'it").error? = none ∧
      parse ("SELECT * FROM t; 'it" ++ "\n;" ++ "`") = ⟨(parse "SELECT * FROM t; 'it").value, none⟩ ∧
      parse ("SELECT * FROM t; 'it" ++ "\nWHERE " ++ "`") = ⟨(parse "SELECT * FROM t; 'it").value, none⟩ ∧
      ∀ keyword ∈ [Keyword.JOIN, .INNER, .OUTER, .LEFT, .RIGHT, .FULL],
        parse ("SELECT * FROM t; 'it" ++ "\n" ++ keyword.text ++ " " ++ "`") =
          ⟨(parse "SELECT * FROM t; 'it").value, none⟩ :=
  have complete : (parse "SELECT * FROM t; 'it").error? = none := Option.isNone_iff_eq_none.mp (by decide +kernel)
  ⟨complete, parse_query_continued "SELECT * FROM t; 'it" "`" complete⟩

end SqlOutline.Query
