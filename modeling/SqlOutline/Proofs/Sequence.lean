import SqlOutline.Token

set_option autoImplicit false

namespace SqlOutline

-- No name is without a text. This holds for the tokens of a text, but not for every list of tokens.
def NamesWritten (tokens : List Token) : Prop :=
  ∀ token ∈ tokens, token.kind.isName = true → token.text ≠ ""

theorem names_written_append (front back : List Token) :
    NamesWritten (front ++ back) ↔ NamesWritten front ∧ NamesWritten back :=
  List.forall_mem_append

theorem names_written_tail (token : Token) (rest : List Token) (written : NamesWritten (token :: rest)) :
    NamesWritten rest :=
  fun entry member => written entry (List.mem_cons_of_mem token member)

theorem forall_mem_of_all {α : Type} {holds : α → Prop} [DecidablePred holds] (entries : List α)
    (tested : entries.all (fun entry => decide (holds entry)) = true) : ∀ entry ∈ entries, holds entry :=
  fun entry member => of_decide_eq_true (List.all_eq_true.mp tested entry member)

theorem first_holds {α : Type} {holds : α → Prop} (first : α) (rest : List α) (fits : holds first) :
    ∀ entry ∈ (first :: rest).head?, holds entry :=
  fun _ same => Option.some.inj same ▸ fits

inductive CommaList (α : Type) where
  | last (entry : α)
  | cons (entry : α) (comma : Token) (isComma : comma.kind = .comma) (more : CommaList α)

namespace CommaList

variable {α : Type}

def entries : CommaList α → List α
  | .last entry => [entry]
  | .cons entry _ _ more => entry :: more.entries

def tokens (spelling : α → List Token) : CommaList α → List Token
  | .last entry => spelling entry
  | .cons entry comma _ more => spelling entry ++ comma :: more.tokens spelling

end CommaList

section Parts

variable {Part Item α : Type}

def lastFound (find : Part → Option α) (parts : List Part) (before : Option α) : Option α :=
  (parts.filterMap find).getLast?.or before

theorem last_found_cons (find : Part → Option α) (part : Part) (rest : List Part) (before : Option α) :
    lastFound find (part :: rest) before = lastFound find rest ((find part).or before) := by
  unfold lastFound
  cases found : find part with
  | none => simp [found]
  | some text =>
      rw [List.filterMap_cons_some found, List.getLast?_cons]
      cases (rest.filterMap find).getLast? <;> rfl

theorem foldl_last_found (extend : Item → Part → Item) (field : Item → Option α) (find : Part → Option α)
    (overwrites : ∀ item part, field (extend item part) = (find part).or (field item)) (parts : List Part) (item : Item) :
    field (parts.foldl extend item) = lastFound find parts (field item) := by
  induction parts generalizing item with
  | nil => rfl
  | cons part rest ih => rw [List.foldl_cons, ih, overwrites, last_found_cons]

theorem foldl_flag (extend : Item → Part → Item) (field : Item → Bool) (flag : Part → Bool)
    (sets : ∀ item part, field (extend item part) = (flag part || field item)) (parts : List Part) (item : Item) :
    field (parts.foldl extend item) = (parts.any flag || field item) := by
  induction parts generalizing item with
  | nil => rfl
  | cons part rest ih =>
      rw [List.foldl_cons, ih, sets, List.any_cons]
      cases flag part <;> simp

end Parts

end SqlOutline
