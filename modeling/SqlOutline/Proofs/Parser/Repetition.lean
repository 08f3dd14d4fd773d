import SqlOutline.Proofs.Parser.Acceptance
import SqlOutline.Proofs.Sequence

set_option autoImplicit false

namespace SqlOutline

section Comments

variable {State V : Type} {Step : State → V → List Token → Option State → V → List Token → Prop}
variable (state : State) (add : V → String → V) (Leaves : V → List Token → V → Prop)

def TakesComments (Step : State → V → List Token → Option State → V → List Token → Prop) : Prop :=
  ∀ value tokens result, Accepts Step state value tokens result ↔
    (∃ token rest, tokens = token :: rest ∧ token.kind.isComment = true ∧
      Accepts Step state (add value token.text) rest result) ∨ Leaves value tokens result

theorem comments_sound (takes : TakesComments state add Leaves Step) (value result : V) (tokens : List Token)
    (accepts : Accepts Step state value tokens result) :
    ∃ comments rest, tokens = comments ++ rest ∧ (∀ token ∈ comments, token.kind.isComment = true) ∧
      Leaves ((comments.map Token.text).foldl add value) rest result := by
  rcases (takes value tokens result).mp accepts with ⟨token, rest, rfl, isComment, further⟩ | leaves
  · obtain ⟨comments, rest, rfl, areComments, leaves⟩ := comments_sound takes (add value token.text) result rest further
    exact ⟨token :: comments, rest, rfl, List.forall_mem_cons.mpr ⟨isComment, areComments⟩, leaves⟩
  · exact ⟨[], tokens, rfl, nofun, leaves⟩
termination_by tokens.length

theorem comments_complete (takes : TakesComments state add Leaves Step) (comments : List Token) (value result : V)
    (rest : List Token) (areComments : ∀ token ∈ comments, token.kind.isComment = true)
    (leaves : Leaves ((comments.map Token.text).foldl add value) rest result) :
    Accepts Step state value (comments ++ rest) result := by
  induction comments generalizing value with
  | nil => exact (takes value rest result).mpr (.inr leaves)
  | cons token comments ih =>
      obtain ⟨isComment, others⟩ := List.forall_mem_cons.mp areComments
      have further := ih (add value token.text) others leaves
      exact (takes value _ result).mpr (.inl ⟨token, comments ++ rest, rfl, isComment, further⟩)

end Comments

section Entries

variable {State V Form Item : Type} {Step : State → V → List Token → Option State → V → List Token → Prop}
variable (state : State) (spelling : Form → List Token) (meaning : Form → Item) (add : V → Item → V)
variable (Ends : V → Token → List Token → V → Prop)

-- The state reads an entry and adds it. After a comma it comes back, with any other token the list ends.
def TakesEntries (Step : State → V → List Token → Option State → V → List Token → Prop) : Prop :=
  ∀ value tokens result, NamesWritten tokens → (Accepts Step state value tokens result ↔
    ∃ form separator rest, tokens = spelling form ++ separator :: rest ∧
      ((separator.kind = .comma ∧ Accepts Step state (add value (meaning form)) rest result) ∨
        Ends (add value (meaning form)) separator rest result))

theorem comma_list_sound (takes : TakesEntries state spelling meaning add Ends Step) (value result : V)
    (tokens : List Token) (written : NamesWritten tokens) (accepts : Accepts Step state value tokens result) :
    ∃ (forms : CommaList Form) (separator : Token) (rest : List Token),
      tokens = forms.tokens spelling ++ separator :: rest ∧
      Ends ((forms.entries.map meaning).foldl add value) separator rest result := by
  obtain ⟨form, separator, rest, rfl, ⟨isComma, further⟩ | ends⟩ := (takes value tokens result written).mp accepts
  · have remaining := names_written_tail _ _ ((names_written_append _ _).mp written).2
    obtain ⟨forms, last, rest, rfl, ends⟩ := comma_list_sound takes _ result rest remaining further
    exact ⟨.cons form separator isComma forms, last, rest, by simp [CommaList.tokens], ends⟩
  · exact ⟨.last form, separator, rest, rfl, ends⟩
termination_by tokens.length
decreasing_by
  subst_vars
  simp only [List.length_append, List.length_cons]
  omega

theorem comma_list_complete (takes : TakesEntries state spelling meaning add Ends Step) (forms : CommaList Form)
    (value result : V) (separator : Token) (rest : List Token)
    (written : NamesWritten (forms.tokens spelling ++ separator :: rest))
    (ends : Ends ((forms.entries.map meaning).foldl add value) separator rest result) :
    Accepts Step state value (forms.tokens spelling ++ separator :: rest) result := by
  induction forms generalizing value with
  | last form => exact (takes value _ result written).mpr ⟨form, separator, rest, rfl, .inr ends⟩
  | cons form comma isComma more ih =>
      rw [CommaList.tokens, List.append_assoc] at written ⊢
      have remaining := names_written_tail _ _ ((names_written_append _ _).mp written).2
      have further := ih (add value (meaning form)) remaining ends
      exact (takes value _ result written).mpr ⟨form, comma, _, rfl, .inl ⟨isComma, further⟩⟩

end Entries

theorem foldl_collect {V Item : Type} (add : V → Item → V) (put : V → List Item → V) (none : ∀ value, put value [] = value)
    (one : ∀ value item items, put (add value item) items = put value (item :: items)) (items : List Item) (value : V) :
    items.foldl add value = put value items := by
  induction items generalizing value with
  | nil => exact (none value).symm
  | cons item items ih => rw [List.foldl_cons, ih, one]

end SqlOutline
