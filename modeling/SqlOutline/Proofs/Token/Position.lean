import SqlOutline.Proofs.Token.LineNumbers

set_option autoImplicit false

namespace SqlOutline

namespace Layout

def onward (layout : Layout) (back : List (String × Token)) : List Char :=
  (written back).toList ++ (layout.gap.toList ++ layout.tail.toList)

theorem written_append (front back : List (String × Token)) :
    (written (front ++ back)).toList = (written front).toList ++ (written back).toList := by
  simp [written, String.toList_append]

theorem onward_cons (layout : Layout) (gap : String) (token : Token) (back : List (String × Token)) :
    layout.onward ((gap, token) :: back) = gap.toList ++ (token.text.toList ++ layout.onward back) := by
  simp only [onward, written_cons, List.append_assoc]

namespace Divides

variable {layout : Layout} {sql : String}

theorem reached (divides : layout.Divides sql) (front back : List (String × Token)) (split : layout.pieces = front ++ back) :
    ∃ line place, place ≠ .finished ∧
      Lexer.tokens ⟨layout.onward back, line, place⟩ = back.map Prod.snd ++ [layout.terminal] := by
  have reads : Lexer.tokens ⟨layout.text.toList, 1, .gap⟩ = layout.pieces.map Prod.snd ++ [layout.terminal] := by
    rw [divides.text]
    exact divides.tokens.symm
  have blank := layout.blank
  have inside := layout.inside
  rw [layout.text_to_list, split, written_append, List.map_append, List.append_assoc, List.append_assoc] at reads
  rw [split] at blank inside
  obtain ⟨_, place, unfinished, further⟩ := Lexer.pieces_numbered front 1 .gap _ _ nofun
    (List.forall_mem_append.mp blank).1 (List.forall_mem_append.mp inside).1 reads
  exact ⟨_, place, unfinished, further⟩

theorem takes (divides : layout.Divides sql) (front back : List (String × Token)) (gap : String) (token : Token)
    (split : layout.pieces = front ++ (gap, token) :: back) :
    ∃ place next, Lexer.Takes place gap.toList ⟨token.kind, token.text.toList, layout.onward back, next⟩ := by
  obtain ⟨line, place, unfinished, reads⟩ := divides.reached front _ split
  have member : (gap, token) ∈ layout.pieces := split ▸ List.mem_append_right front List.mem_cons_self
  rw [onward_cons, List.map_cons, List.cons_append] at reads
  obtain ⟨next, taken, _⟩ := Lexer.piece_taken unfinished (layout.blank _ member) (layout.inside _ member) reads
  exact ⟨place, next, taken⟩

end Divides

end Layout

end SqlOutline
