import Mathlib.Data.List.Forall2
import SqlOutline.Proofs.Text.LetterCase
import SqlOutline.Token

set_option autoImplicit false

namespace SqlOutline

-- How a text is written in the other place, which may change letter case but nothing else, and what counts
-- of a line number.
structure Respelling where
  text : String → String
  line : Nat → Nat
  append : ∀ a b, text (a ++ b) = text a ++ text b
  again : ∀ a, text (text a) = text a
  folded : ∀ a, foldCase (text a) = foldCase a
  capitals : ∀ a, upperCase (text a) = upperCase a

-- The message of an error need not be respelled in the same way, as it is not part of the text.
structure Token.Respells (respelling : Respelling) (token other : Token) : Prop where
  kind : other.kind = token.kind
  text : token.kind ≠ .error → other.text = respelling.text token.text
  same : respelling.text other.text = respelling.text token.text
  line : respelling.line other.line = respelling.line token.line

theorem equal_of_fold (text : String) (symbol : Char) (plain : symbol.isAlpha = false) :
    foldCase text = foldCase (String.singleton symbol) ↔ text = String.singleton symbol := by
  obtain ⟨notUpper, notLower⟩ := Bool.or_eq_false_iff.mp plain
  have lowered (c : Char) : c.toLower = symbol.toLower ↔ c = symbol := by
    rw [to_lower_of_not_upper symbol (Bool.eq_false_iff.mp notUpper)]
    by_cases upper : c.isUpper = true
    · constructor
      · rintro rfl
        rw [is_lower_to_lower c upper] at notLower
        contradiction
      · rintro rfl
        rw [upper] at notUpper
        contradiction
    · rw [to_lower_of_not_upper c upper]
  rw [same_case_iff, ← String.toList_inj]
  simp [List.map_eq_singleton_iff, lowered]

namespace Respelling

variable (respelling : Respelling)

theorem is_empty (text : String) : (respelling.text text).isEmpty = text.isEmpty := by
  have folds (text : String) : text.isEmpty = (foldCase text).isEmpty := by
    rw [Bool.eq_iff_iff, String.isEmpty_iff, String.isEmpty_iff, ← String.toList_eq_nil_iff, ← String.toList_eq_nil_iff]
    simp [foldCase]
  rw [folds, respelling.folded, ← folds]

theorem empty : respelling.text "" = "" :=
  String.isEmpty_iff.mp (respelling.is_empty "")

theorem symbol_iff (text : String) (symbol : Char) (plain : symbol.isAlpha = false) :
    respelling.text text = String.singleton symbol ↔ text = String.singleton symbol := by
  rw [← equal_of_fold _ symbol plain, respelling.folded, equal_of_fold _ symbol plain]

theorem symbol (symbol : Char) (plain : symbol.isAlpha = false) :
    respelling.text (String.singleton symbol) = String.singleton symbol :=
  (respelling.symbol_iff _ symbol plain).mpr rfl

theorem keyword (text : String) : Keyword.ofString? (respelling.text text) = Keyword.ofString? text := by
  simp only [Keyword.ofString?, Keyword.index?, respelling.folded]

theorem equal_ignoring_case (text word : String) :
    equalIgnoringCase (respelling.text text) word = equalIgnoringCase text word := by
  simp only [equalIgnoringCase, respelling.folded]

end Respelling

namespace Token.Respells

variable {respelling : Respelling} {token other : Token} (respells : token.Respells respelling other)

include respells

theorem keyword : other.keyword? = token.keyword? := by
  by_cases isKeyword : token.kind = .keyword
  · have readable : token.kind ≠ .error := by rw [isKeyword]; exact nofun
    simp only [keyword?, respells.kind, respells.text readable, isKeyword, respelling.keyword]
  · have otherKind : other.kind ≠ .keyword := respells.kind ▸ isKeyword
    have none (token : Token) (kind : token.kind ≠ .keyword) : token.keyword? = none := by
      unfold keyword?
      split
      · contradiction
      · rfl
    rw [none token isKeyword, none other otherKind]

theorem is_keyword (keyword : Keyword) : other.isKeyword keyword = token.isKeyword keyword := by
  simp only [isKeyword, respells.keyword]

theorem is_one_of (keywords : List Keyword) : other.isOneOf keywords = token.isOneOf keywords := by
  simp only [isOneOf, respells.keyword]

end Token.Respells

end SqlOutline
