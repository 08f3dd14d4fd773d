import SqlOutline.Proofs.Token.Delimited
import SqlOutline.Proofs.Token.Position

set_option autoImplicit false

namespace SqlOutline

def isChainChar (c : Char) : Bool :=
  isWordChar c || c == '.'

def wordTokens (line : Nat) (kind : TokenKind) (word : List Char) : List Token :=
  if word = [] then [] else [⟨kind, String.ofList word, line⟩]

def lastKind (word : List Char) : TokenKind :=
  if KeywordText (String.ofList word) then .keyword else .identifier

-- All words but the last one have a dot after them.
def segmentTokens (line : Nat) : List (List Char) → List Token
  | [] => []
  | [last] => wordTokens line (lastKind last) last
  | word :: next :: more => wordTokens line .identifier word ++ ⟨.dot, ".", line⟩ :: segmentTokens line (next :: more)

def chainTokens (line : Nat) (chain : List Char) : List Token :=
  segmentTokens line (chain.splitOn '.')

theorem dot_not_mem_word (word : List Char) (members : ∀ c ∈ word, isWordChar c = true) : '.' ∉ word :=
  fun member => absurd (members '.' member) (by decide)

theorem chain_tokens_last (line : Nat) (word : List Char) (members : ∀ c ∈ word, isWordChar c = true) :
    chainTokens line word = wordTokens line (lastKind word) word := by
  rw [chainTokens, List.splitOn_eq_singleton (dot_not_mem_word word members), segmentTokens]

theorem chain_tokens_dot (line : Nat) (word more : List Char) (members : ∀ c ∈ word, isWordChar c = true) :
    chainTokens line (word ++ '.' :: more) =
      wordTokens line .identifier word ++ ⟨.dot, ".", line⟩ :: chainTokens line more := by
  obtain ⟨next, others, split⟩ := List.exists_cons_of_ne_nil (List.splitOn_ne_nil '.' more)
  rw [chainTokens, chainTokens, List.splitOn_append_cons_self, List.splitOn_eq_singleton (dot_not_mem_word word members),
    split, List.singleton_append, segmentTokens]

theorem chain_cases (chain : List Char) (links : ∀ c ∈ chain, isChainChar c = true) :
    (∀ c ∈ chain, isWordChar c = true) ∨
      ∃ word more, chain = word ++ '.' :: more ∧ (∀ c ∈ word, isWordChar c = true) ∧
        (∀ c ∈ more, isChainChar c = true) := by
  have whole := List.takeWhile_append_dropWhile (p := isWordChar) (l := chain)
  have members : ∀ c ∈ chain.takeWhile isWordChar, isWordChar c = true := List.all_eq_true.mp List.all_takeWhile
  have ends := drop_while_ends isWordChar chain
  generalize chain.takeWhile isWordChar = word at whole members
  cases after : chain.dropWhile isWordChar with
  | nil =>
      rw [after, List.append_nil] at whole
      exact .inl (whole ▸ members)
  | cons c more =>
      rw [after] at whole ends
      subst whole
      obtain ⟨_, further⟩ := List.forall_mem_append.mp links
      obtain ⟨link, others⟩ := List.forall_mem_cons.mp further
      have dot : c = '.' := by simpa [isChainChar, ends c rfl] using link
      exact .inr ⟨word, more, by rw [dot], members, others⟩

theorem ends_chain_iff (c : Char) : isChainChar c = false ↔ isWordChar c = false ∧ c ≠ '.' := by
  simp [isChainChar]

namespace Lexer

section Word

variable (line : Nat) {word : List Char} (members : ∀ c ∈ word, isWordChar c = true)

include members

theorem last_word {rest : List Char} (ends : ∀ c ∈ rest.head?, isChainChar c = false) :
    Lexeme.word (word ++ rest) = ⟨lastKind word, word, rest, .gap⟩ := by
  have outside (c : Char) (first : c ∈ rest.head?) := (ends_chain_iff c).mp (ends c first)
  obtain ⟨front, back⟩ := Lexeme.take_while_members isWordChar word rest members fun c first => (outside c first).1
  have noDot : rest.head? ≠ some '.' := fun first => (outside '.' first).2 rfl
  simp only [Lexeme.word, front, back, if_neg noDot, lastKind, keyword_text_iff]
  split <;> rfl

theorem qualifying_word (rest : List Char) :
    Lexeme.word (word ++ '.' :: rest) = ⟨.identifier, word, '.' :: rest, .chain⟩ := by
  obtain ⟨front, back⟩ := Lexeme.take_while_members isWordChar word ('.' :: rest) members (first_holds '.' rest (by decide))
  simp only [Lexeme.word, front, back, List.head?_cons, if_true]

theorem next_of_word (written : word ≠ []) (rest : List Char) :
    next? ⟨word ++ rest, line, .chain⟩ = some (emit line (Lexeme.word (word ++ rest))) := by
  obtain ⟨c, tail, rfl⟩ := List.exists_cons_of_ne_nil written
  have dotted : Lexeme.readDotted? ((c :: tail) ++ rest) = some (Lexeme.word ((c :: tail) ++ rest)) :=
    (Lexeme.read_dotted_iff _ _).mpr (.inr ⟨c, tail ++ rest, rfl, members c List.mem_cons_self, rfl⟩)
  simp only [next?, dotted]

theorem tokens_of_last_word {rest : List Char} (ends : ∀ c ∈ rest.head?, isChainChar c = false) :
    tokens ⟨word ++ rest, line, .chain⟩ = wordTokens line (lastKind word) word ++ tokensFrom line rest := by
  by_cases written : word = []
  · have afresh : StartsAfresh rest := by
      intro c first
      obtain ⟨outside, notDot⟩ := (ends_chain_iff c).mp (ends c first)
      refine ⟨notDot, Bool.eq_false_iff.mpr fun digit => ?_⟩
      rw [is_word_char_of_digit c digit] at outside
      contradiction
    rw [written, wordTokens, if_pos rfl]
    exact tokens_of_chain line rest afresh
  · have step := next_of_word line members written rest
    rw [last_word members ends] at step
    rw [tokens_of_some _ _ _ step, wordTokens, if_neg written]
    simp only [newlines_of_word word members, Nat.add_zero, List.singleton_append, tokensFrom]

theorem tokens_of_qualifier (rest : List Char) :
    tokens ⟨word ++ '.' :: rest, line, .chain⟩ =
      wordTokens line .identifier word ++ ⟨.dot, ".", line⟩ :: tokens ⟨rest, line, .chain⟩ := by
  have dot : tokens ⟨'.' :: rest, line, .chain⟩ = ⟨.dot, ".", line⟩ :: tokens ⟨rest, line, .chain⟩ :=
    tokens_of_some _ _ _ rfl
  by_cases written : word = []
  · rw [written, wordTokens, if_pos rfl]
    exact dot
  · have step := next_of_word line members written ('.' :: rest)
    rw [qualifying_word members] at step
    rw [tokens_of_some _ _ _ step, wordTokens, if_neg written]
    simp only [newlines_of_word word members, Nat.add_zero, dot, List.singleton_append]

end Word

theorem tokens_in_chain (line : Nat) (chain rest : List Char) (links : ∀ c ∈ chain, isChainChar c = true)
    (ends : ∀ c ∈ rest.head?, isChainChar c = false) :
    tokens ⟨chain ++ rest, line, .chain⟩ = chainTokens line chain ++ tokensFrom line rest := by
  rcases chain_cases chain links with members | ⟨word, more, rfl, members, further⟩
  · rw [tokens_of_last_word line members ends, chain_tokens_last line chain members]
  · rw [List.append_assoc, List.cons_append, tokens_of_qualifier line members, tokens_in_chain line more rest further ends,
      chain_tokens_dot line word more members, List.append_assoc, List.cons_append]
termination_by chain.length
decreasing_by
  subst_vars
  simp only [List.length_append, List.length_cons]
  omega

end Lexer

namespace Lexeme

theorem word_of_kind (place : Place) (input : List Char) (lexeme : Lexeme) (accepted : readAt place input = .ok lexeme)
    (isWord : lexeme.kind = .keyword ∨ lexeme.kind = .identifier) : lexeme = word input := by
  rcases read_at_cases place input lexeme accepted with ⟨_, dotted⟩ | ⟨_, reads⟩
  · obtain ⟨rest, _, rfl⟩ | ⟨c, rest, rfl, _, rfl⟩ := (read_dotted_iff input lexeme).mp dotted
    · simp at isWord
    · rfl
  · cases reads with
    | word c rest member notDigit => rfl
    | punctuation c kind rest found =>
        unfold punctuation? at found
        repeat' split at found
        all_goals cases found
        all_goals simp at isWord
    | _ => simp [run] at isWord

theorem keyword_spelled (input : List Char) (isKeyword : (word input).kind = .keyword) :
    (Keyword.ofString? (String.ofList (word input).text)).isSome = true := by
  simp only [word] at isKeyword ⊢
  split at isKeyword
  · contradiction
  · split at isKeyword
    · rename_i notDot spelled
      simp [notDot, spelled]
    · contradiction

theorem identifier_qualifies (input : List Char) (isIdentifier : (word input).kind = .identifier)
    (spells : KeywordText (String.ofList (word input).text)) : (word input).rest.head? = some '.' := by
  rw [keyword_text_iff] at spells
  simp only [word] at isIdentifier spells ⊢
  split at isIdentifier
  · rename_i dot
    simp [dot]
  · split at isIdentifier
    · contradiction
    · rename_i notDot notKeyword
      simp [notDot, notKeyword] at spells

end Lexeme

namespace Lexer.Takes

variable {place : Place} {gap : List Char} {lexeme : Lexeme}

theorem keyword_spelled (takes : Takes place gap lexeme) (isKeyword : lexeme.kind = .keyword) :
    (Keyword.ofString? (String.ofList lexeme.text)).isSome = true := by
  have word := Lexeme.word_of_kind _ _ lexeme takes.accepted (.inl isKeyword)
  rw [word] at isKeyword ⊢
  exact Lexeme.keyword_spelled _ isKeyword

theorem identifier_qualifies (takes : Takes place gap lexeme) (isIdentifier : lexeme.kind = .identifier)
    (spells : KeywordText (String.ofList lexeme.text)) : lexeme.rest.head? = some '.' := by
  have word := Lexeme.word_of_kind _ _ lexeme takes.accepted (.inr isIdentifier)
  rw [word] at isIdentifier spells ⊢
  exact Lexeme.identifier_qualifies _ isIdentifier spells

end Lexer.Takes

theorem tokens_of_chain_start (line : Nat) (place : Place) (gap input : List Char) (unfinished : place ≠ .finished)
    (blank : Blank gap) (starts : ∃ c ∈ input.head?, isWordChar c = true ∧ c.isDigit = false) :
    Lexer.tokens ⟨gap ++ input, line, place⟩ =
      chainTokens (line + newlines gap) (input.takeWhile isChainChar) ++
        tokensFrom (line + newlines gap) (input.dropWhile isChainChar) := by
  have afresh : StartsAfresh input := by
    obtain ⟨c, first, member, notDigit⟩ := starts
    intro d same
    obtain rfl := Option.some.inj (first.symm.trans same)
    exact ⟨Lexeme.word_char_ne c '.' member (by decide), notDigit⟩
  have links : ∀ c ∈ input.takeWhile isChainChar, isChainChar c = true := List.all_eq_true.mp List.all_takeWhile
  rw [tokens_afresh line place gap input unfinished blank afresh, ← Lexer.tokens_of_chain _ input afresh,
    ← Lexer.tokens_in_chain _ _ _ links (drop_while_ends isChainChar input), List.takeWhile_append_dropWhile]

theorem keyword_token_is_keyword (sql : String) (token : Token) (member : token ∈ tokenize sql)
    (isKeyword : token.kind = .keyword) : token.keyword?.isSome = true := by
  obtain ⟨layout, divides⟩ := exists_division sql
  rw [← divides.tokens, Layout.tokens, List.mem_append, List.mem_singleton] at member
  rcases member with inside | rfl
  · obtain ⟨piece, among, rfl⟩ := List.mem_map.mp inside
    obtain ⟨front, back, split⟩ := List.append_of_mem among
    obtain ⟨place, next, takes⟩ := divides.takes front back piece.1 piece.2 split
    have spelled := takes.keyword_spelled isKeyword
    rw [String.ofList_toList] at spelled
    simpa only [Token.keyword?, isKeyword] using spelled
  · rcases layout.ends with ⟨ended, _⟩ | ⟨failed, _⟩
    · rw [isKeyword] at ended
      contradiction
    · rw [isKeyword] at failed
      contradiction

theorem identifier_before_dot (layout : Layout) (sql : String) (divides : layout.Divides sql)
    (front back : List (String × Token)) (gap : String) (token : Token)
    (split : layout.pieces = front ++ (gap, token) :: back) (isIdentifier : token.kind = .identifier)
    (spells : KeywordText token.text) : (layout.onward back).head? = some '.' := by
  obtain ⟨place, next, takes⟩ := divides.takes front back gap token split
  rw [← String.ofList_toList (s := token.text)] at spells
  exact takes.identifier_qualifies isIdentifier spells

-- A chain of words and dots becomes a name and a dot for each word with a dot after it, and a name or a keyword for the
-- word at its end. So the kind of a word is known from its text, unless a dot comes right after it.
theorem tokens_split_at_dots :
    (∀ (line : Nat) (place : Place) (gap input : List Char), place ≠ .finished → Blank gap →
      (∃ c ∈ input.head?, isWordChar c = true ∧ c.isDigit = false) →
      Lexer.tokens ⟨gap ++ input, line, place⟩ =
        chainTokens (line + gap.count '\n') (input.takeWhile isChainChar) ++
          tokensFrom (line + gap.count '\n') (input.dropWhile isChainChar)) ∧
    (∀ sql, ∀ token ∈ tokenize sql, token.kind = .keyword → token.keyword?.isSome = true) ∧
    ∀ sql, ∃ layout : Layout, layout.Divides sql ∧
      ∀ front gap token back, layout.pieces = front ++ (gap, token) :: back → token.kind = .identifier →
        KeywordText token.text → (layout.onward back).head? = some '.' := by
  refine ⟨tokens_of_chain_start, keyword_token_is_keyword, fun sql => ?_⟩
  obtain ⟨layout, divides⟩ := exists_division sql
  exact ⟨layout, divides, fun front gap token back => identifier_before_dot layout sql divides front back gap token⟩

theorem tokens_split_at_dots_select :
    Place.gap ≠ .finished ∧ Blank ['\n'] ∧
      (∃ c ∈ "select..1a.From,".toList.head?, isWordChar c = true ∧ c.isDigit = false) ∧
      Lexer.tokens ⟨['\n'] ++ "select..1a.From,".toList, 1, .gap⟩ =
        [⟨.identifier, "select", 2⟩, ⟨.dot, ".", 2⟩, ⟨.dot, ".", 2⟩, ⟨.identifier, "1a", 2⟩, ⟨.dot, ".", 2⟩,
          ⟨.keyword, "From", 2⟩] ++ tokensFrom 2 [','] := by
  have blank : Blank ['\n'] := List.forall_mem_singleton.mpr rfl
  have starts : ∃ c ∈ "select..1a.From,".toList.head?, isWordChar c = true ∧ c.isDigit = false := ⟨'s', rfl, by decide⟩
  have split := tokens_split_at_dots.1 1 .gap ['\n'] "select..1a.From,".toList nofun blank starts
  refine ⟨nofun, blank, starts, split.trans ?_⟩
  have chain : "select..1a.From,".toList.takeWhile isChainChar = "select..1a.From".toList := by decide +kernel
  have rest : "select..1a.From,".toList.dropWhile isChainChar = [','] := by decide +kernel
  rw [chain, rest]
  decide +kernel

end SqlOutline
