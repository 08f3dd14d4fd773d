import SqlOutline.Json.Record
import SqlOutline.Proofs.Json.Read

set_option autoImplicit false

namespace SqlOutline.Json

variable {α : Type}

-- The value stands for the content. It is never null, which an option takes for itself.
structure Keeps (value? : Json → Option α) (value : Json) (content : α) : Prop where
  writable : Writable value
  given : value ≠ .null
  read : value? value = some content

theorem map_m_some {β : Type} (items : List α) (f : α → Option β) (g : α → β)
    (each : ∀ item ∈ items, f item = some (g item)) : items.mapM f = some (items.map g) := by
  induction items with
  | nil => rfl
  | cons item items ih =>
      rw [List.forall_mem_cons] at each
      simp [each.1, ih each.2]

theorem text_keeps (text : String) : Keeps text? (ofText text) text where
  writable := .string text.toList
  given := nofun
  read := text_of_text text

theorem choice_of_text (name : String) : (ofText name).choice? = some name := by
  simp [ofText, choice?, unescape_escape]

theorem name_keeps {value? : Json → Option α} {ofName? : String → Option α} {content : α} (name : String)
    (reads : ∀ value, value? value = value.choice?.bind ofName?) (named : ofName? name = some content) :
    Keeps value? (ofText name) content where
  writable := .string name.toList
  given := nofun
  read := by rw [reads, choice_of_text, Option.bind_some, named]

theorem bool_keeps (value : Bool) : Keeps bool? (.bool value) value where
  writable := .bool value
  given := nofun
  read := rfl

theorem nat_writable (value : Nat) : Writable (ofNat value) :=
  .number _ (is_number_to_digits value) fun c member => by simp [isNumberChar, to_digits_digits value c member]

theorem nat_keeps (value : Nat) (bounded : value < UInt64.size) : Keeps nat? (ofNat value) value where
  writable := nat_writable value
  given := nofun
  read := nat_of_nat value bounded

theorem list_writable (toJson : α → Json) (items : List α) (each : ∀ item ∈ items, Writable (toJson item)) :
    Writable (ofList toJson items) := by
  refine .array _ fun value member => ?_
  obtain ⟨item, listed, rfl⟩ := List.mem_map.mp member
  exact each item listed

theorem list_keeps (toJson : α → Json) (item? : Json → Option α) (items : List α)
    (each : ∀ item ∈ items, Keeps item? (toJson item) item) : Keeps (list? item?) (ofList toJson items) items where
  writable := list_writable toJson items fun item member => (each item member).writable
  given := nofun
  read := by
    have all := map_m_some items (item? ∘ toJson) id fun item member => (each item member).read
    rw [ofList, list?, List.mapM_map]
    simpa using all

section Field

variable {value? : Json → Option α}

structure KeepsField (field? : Option Json → Option α) (value : Json) (content : α) : Prop where
  writable : Writable value
  read : field? (some value) = some content

theorem Keeps.required {value : Json} {content : α} (keeps : Keeps value? value content) :
    KeepsField (required? value?) value content :=
  ⟨keeps.writable, keeps.read⟩

theorem option_keeps (toJson : α → Json) (content? : Option α)
    (each : ∀ content ∈ content?, Keeps value? (toJson content) content) :
    KeepsField (optional? value?) (ofOption toJson content?) content? := by
  cases content? with
  | none => exact ⟨.null, rfl⟩
  | some content =>
      obtain ⟨writable, given, read⟩ := each content rfl
      refine ⟨writable, ?_⟩
      rw [ofOption, optional?, read]
      · rfl
      · exact fun null => given null

end Field

section Record

theorem record_writable (fields : List (String × Json)) (each : ∀ field ∈ fields, Writable field.2) :
    Writable (ofRecord fields) := by
  apply Writable.object
  · intro field member
    obtain ⟨named, listed, rfl⟩ := List.mem_map.mp member
    exact ⟨named.1.toList, rfl⟩
  · intro field member
    obtain ⟨named, listed, rfl⟩ := List.mem_map.mp member
    exact each named listed

theorem named_fields_of_record (fields : List (String × Json)) :
    namedFields? (fields.map fun field => (escape field.1.toList, field.2)) = some fields := by
  rw [namedFields?, List.mapM_map, map_m_some fields _ id, List.map_id]
  intro field member
  simp [unescape_escape]

theorem field_of_member (fields : List (String × Json)) (distinct : (fields.map Prod.fst).Nodup)
    (field : String × Json) (member : field ∈ fields) : field? fields field.1 = some (some field.2) := by
  obtain ⟨front, back, rfl⟩ := List.append_of_mem member
  rw [List.map_append, List.map_cons, List.nodup_append, List.nodup_cons] at distinct
  obtain ⟨-, ⟨notBack, -⟩, apart⟩ := distinct
  have frontOthers : front.filter (fun other => other.1 == field.1) = [] := by
    refine List.filter_eq_nil_iff.mpr fun other listed same => ?_
    exact apart other.1 (List.mem_map_of_mem listed) field.1 List.mem_cons_self (beq_iff_eq.mp same)
  have backOthers : back.filter (fun other => other.1 == field.1) = [] := by
    refine List.filter_eq_nil_iff.mpr fun other listed same => ?_
    exact notBack (beq_iff_eq.mp same ▸ List.mem_map_of_mem listed)
  simp [field?, List.filter_append, frontOthers, backOthers]

-- The names of the fields must differ, for a name that comes twice is refused.
theorem record_fields_of_record (fields : List (String × Json)) (distinct : (fields.map Prod.fst).Nodup) :
    recordFields? (fields.map Prod.fst) (ofRecord fields) = some (fields.map fun field => some field.2) := by
  have all := map_m_some fields _ _ fun field member => field_of_member fields distinct field member
  simp only [ofRecord, recordFields?, named_fields_of_record, Option.bind_eq_bind, Option.bind_some, List.mapM_map]
  exact all

theorem record_keeps {value? : Json → Option α} {names : List String} {build : List (Option Json) → Option α}
    {fields : List (String × Json)} {content : α}
    (reads : ∀ value, value? value = (recordFields? names value).bind build)
    (named : fields.map Prod.fst = names) (distinct : names.Nodup) (writable : ∀ field ∈ fields, Writable field.2)
    (built : build (fields.map fun field => some field.2) = some content) :
    Keeps value? (ofRecord fields) content where
  writable := record_writable fields writable
  given := nofun
  read := by
    subst named
    rw [reads, record_fields_of_record fields distinct, Option.bind_some, built]

end Record

end SqlOutline.Json
