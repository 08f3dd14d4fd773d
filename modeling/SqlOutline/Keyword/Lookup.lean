import SqlOutline.Keyword

set_option autoImplicit false

namespace SqlOutline

def upperCase (text : String) : String :=
  text.map Char.toUpper

def foldCase (text : String) : String :=
  text.map Char.toLower

def equalIgnoringCase (a b : String) : Bool :=
  foldCase a == foldCase b

theorem equal_ignoring_case_iff (a b : String) : equalIgnoringCase a b = true ↔ foldCase a = foldCase b := by
  simp [equalIgnoringCase]

-- Halves the table between `low` and `high` until `target` is met. Every entry below `low` is
-- smaller than `target` and every entry from `high` on is larger, if the table is ordered.
def searchSorted (table : Array String) (target : String) (low high : Nat) : Option Nat :=
  if low < high then
    let middle := (low + high) / 2
    match table[middle]? with
    | none => none
    | some entry =>
        if target = entry then some middle
        else if target < entry then searchSorted table target low middle
        else searchSorted table target (middle + 1) high
  else none
termination_by high - low

namespace Keyword

def foldedTexts : Array String :=
  all.map fun keyword => foldCase keyword.text

def index? (word : String) : Option Nat :=
  searchSorted foldedTexts (foldCase word) 0 foldedTexts.size

def ofString? (word : String) : Option Keyword :=
  (index? word).bind fun index => all[index]?

end Keyword

end SqlOutline
