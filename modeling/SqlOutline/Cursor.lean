set_option autoImplicit false

namespace SqlOutline

structure Cursor (α : Type) where
  rest : List α
  consumed : Nat
deriving DecidableEq

namespace Cursor

variable {α : Type}

def ofList (entries : List α) : Cursor α :=
  ⟨entries, 0⟩

def peek? (cursor : Cursor α) : Option α :=
  cursor.rest.head?

-- Takes the next entry. Nothing is counted once the list is used up.
def next? (cursor : Cursor α) : Option (α × Cursor α) :=
  match cursor.rest with
  | [] => none
  | entry :: rest => some (entry, ⟨rest, cursor.consumed + 1⟩)

theorem peek_eq_next (cursor : Cursor α) : cursor.peek? = cursor.next?.map Prod.fst := by
  obtain ⟨rest, consumed⟩ := cursor
  cases rest <;> rfl

theorem next_length (cursor following : Cursor α) (entry : α) (taken : cursor.next? = some (entry, following)) :
    following.rest.length < cursor.rest.length := by
  obtain ⟨rest, consumed⟩ := cursor
  cases rest with
  | nil => contradiction
  | cons head tail =>
      cases taken
      exact Nat.lt_succ_self _

end Cursor

end SqlOutline
