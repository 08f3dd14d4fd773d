import SqlOutline.Proofs.Sequence
import SqlOutline.Proofs.Token.Recognition

set_option autoImplicit false

namespace SqlOutline

-- What can follow a piece: the blank before the next piece, or the end of an entry or of a list.
def Separated (rest : List Char) : Prop :=
  ∀ c ∈ rest.head?, c ∈ [' ', ',', ';', ')']

theorem Separated.endsWord {rest : List Char} (separated : Separated rest) : EndsWord rest := by
  have outside : ∀ c ∈ [' ', ',', ';', ')'], isWordChar c = false ∧ c ≠ '.' := forall_mem_of_all _ (by decide)
  exact fun c first => outside c (separated c first)

theorem Separated.endsOperator {rest : List Char} (separated : Separated rest) : EndsOperator rest := by
  have outside : ∀ c ∈ [' ', ',', ';', ')'], isOperatorChar c = false := forall_mem_of_all _ (by decide)
  exact fun c first => outside c (separated c first)

theorem separated_space (rest : List Char) : Separated (' ' :: rest) :=
  first_holds ' ' rest (by decide)

theorem separated_comma (rest : List Char) : Separated (',' :: rest) :=
  first_holds ',' rest (by decide)

-- The text is read as these tokens, all on one line, and whatever follows is not touched.
def LexesTo (line : Nat) (text : String) (front : List Token) : Prop :=
  ∀ rest, Separated rest → tokensFrom line (text.toList ++ rest) = front ++ tokensFrom line rest

def Keyword.token (keyword : Keyword) (line : Nat) : Token :=
  ⟨.keyword, keyword.text, line⟩

theorem keyword_token_spelled (keyword : Keyword) (line : Nat) : (keyword.token line).isKeyword keyword = true :=
  (Token.is_keyword_iff _ _).mpr (Keyword.of_string_text keyword)

theorem lexes_to_keyword (line : Nat) (keyword : Keyword) : LexesTo line keyword.text [keyword.token line] :=
  fun rest separated => tokens_from_keyword line keyword rest separated.endsWord

theorem lexes_to_bare_word (line : Nat) (text : String) (bare : BareWord text) :
    LexesTo line text [⟨.identifier, text, line⟩] :=
  fun rest separated => tokens_from_bare_word line text rest bare separated.endsWord

theorem lexes_to_name (line : Nat) (name : String) (isName : IsName name) :
    ∃ kind : TokenKind, kind.isName = true ∧ LexesTo line name [⟨kind, name, line⟩] := by
  obtain ⟨kind, known, reads⟩ := tokens_from_name line name isName
  exact ⟨kind, known, fun rest separated => reads rest separated.endsWord⟩

theorem lexes_to_operator (line : Nat) (text : String) (operator : OperatorText text) :
    LexesTo line text [⟨.operator, text, line⟩] :=
  fun rest separated => tokens_from_operator line text rest operator separated.endsOperator

theorem lexes_to_append (line : Nat) (first second : String) (front back : List Token) (reads : LexesTo line first front)
    (further : LexesTo line second back) : LexesTo line (first ++ " " ++ second) (front ++ back) := by
  intro rest separated
  have chars : (first ++ " " ++ second).toList ++ rest = first.toList ++ ' ' :: (second.toList ++ rest) := by
    simp [String.toList_append]
  rw [chars, reads _ (separated_space _), tokens_from_space, further rest separated, List.append_assoc]

theorem lexes_to_qualified (line : Nat) (name second : String) (back : List Token) (isName : IsName name)
    (afresh : ∀ rest, StartsAfresh (second.toList ++ rest)) (further : LexesTo line second back) :
    ∃ kind : TokenKind, kind.isName = true ∧
      LexesTo line (name ++ "." ++ second) (⟨kind, name, line⟩ :: ⟨.dot, ".", line⟩ :: back) := by
  obtain ⟨kind, known, reads⟩ := tokens_from_qualifier line name isName
  refine ⟨kind, known, fun rest separated => ?_⟩
  have chars : (name ++ "." ++ second).toList ++ rest = name.toList ++ '.' :: (second.toList ++ rest) := by
    simp [String.toList_append]
  rw [chars, reads _ (afresh rest), further rest separated]
  rfl

theorem lexes_to_comma_list {Entry Form Value : Type} (written : Entry → String) (spelling : Form → List Token)
    (value : Form → Value) (meaning : Entry → Value) (line : Nat) (entries : List Entry) (nonempty : entries ≠ [])
    (each : ∀ entry ∈ entries, ∃ form, value form = meaning entry ∧ LexesTo line (written entry) (spelling form)) :
    ∃ forms : CommaList Form, forms.entries.map value = entries.map meaning ∧
      LexesTo line (", ".intercalate (entries.map written)) (forms.tokens spelling) := by
  induction entries with
  | nil => contradiction
  | cons entry others ih =>
      obtain ⟨⟨form, means, lexes⟩, further⟩ := List.forall_mem_cons.mp each
      cases others with
      | nil =>
          refine ⟨.last form, by simp [CommaList.entries, means], ?_⟩
          simpa [CommaList.tokens] using lexes
      | cons next others =>
          obtain ⟨forms, meanings, list⟩ := ih nofun further
          refine ⟨.cons form ⟨.comma, ",", line⟩ rfl forms, by rw [CommaList.entries, List.map_cons, means, meanings]; rfl, ?_⟩
          intro rest separated
          have chars : (", ".intercalate ((entry :: next :: others).map written)).toList ++ rest =
              (written entry).toList ++ ',' :: ' ' :: ((", ".intercalate ((next :: others).map written)).toList ++ rest) := by
            simp [String.intercalate_cons_cons, String.toList_append]
          rw [chars, lexes _ (separated_comma _), tokens_from_punctuation line ',' .comma _ rfl, tokens_from_space,
            list rest separated]
          simp [CommaList.tokens]

theorem lexes_to_indexed_list {Entry Form : Type} (written : Nat → Entry → String) (spelling : Form → List Token)
    (value : Form → Entry) (line : Nat) (entries : List Entry) (nonempty : entries ≠ [])
    (each : ∀ entry ∈ entries, ∀ index,
      ∃ form, value form = entry ∧ LexesTo line (written index entry) (spelling form)) :
    ∃ forms : CommaList Form, forms.entries.map value = entries ∧
      LexesTo line (", ".intercalate (entries.zipIdx.map fun entry => written entry.2 entry.1)) (forms.tokens spelling) := by
  have indexed : entries.zipIdx ≠ [] := by simpa using nonempty
  obtain ⟨forms, meanings, lexes⟩ := lexes_to_comma_list (fun entry : Entry × Nat => written entry.2 entry.1) spelling value
    Prod.fst line entries.zipIdx indexed fun entry member => each entry.1 (List.fst_mem_of_mem_zipIdx member) entry.2
  rw [List.zipIdx_map_fst] at meanings
  exact ⟨forms, meanings, lexes⟩

end SqlOutline
