import BurnLens.Library.Table

/-! # The request record of the hosted backend

`RequestRecordBase` as a validator of decoded JSON: a field takes a value of its type and what
the lax mode of the data model converts to it.
-/

namespace BurnLens.Backend

open Library

def cloudSyncedTags : List Str :=
  ["feature", "team", "customer", "key_label", "agent_id", "workflow_id", "session"]

/-- The texts that the lax mode reads as a value of another type. -/
structure LaxMode where
  datetime : Json → Bool
  integer : Str → Bool
  number : Str → Bool

inductive FieldType where
  | datetime
  | str
  | int
  | float
  | dict
  -- with `max_length`, where there is one
  | optionalStr (maxLength : Option Nat)
deriving DecidableEq

def FieldType.accepts (lax : LaxMode) : FieldType → Json → Bool
  | datetime, value => lax.datetime value
  | str, .str _ => true
  | int, .bool _ | int, .int _ => true
  | int, .float x => x.whole.isSome
  | int, .str s => lax.integer s
  | float, .bool _ | float, .float _ => true
  | float, .int n => (Number.int n).fits
  | float, .str s => lax.number s
  | dict, .obj _ => true
  | optionalStr _, .null => true
  | optionalStr none, .str _ => true
  | optionalStr (some maxLength), .str s => s.length ≤ maxLength
  | _, _ => false

structure ModelField where
  name : Str
  type : FieldType
  required : Bool := false
deriving DecidableEq

/-- The fields of `RequestRecordBase`.  The validator of `pricing_class` replaces a label that it
    does not know and refuses none. -/
def requestRecordBase : List ModelField :=
  [⟨"timestamp", .datetime, true⟩, ⟨"provider", .str, true⟩, ⟨"model", .str, true⟩,
   ⟨"input_tokens", .int, false⟩, ⟨"output_tokens", .int, false⟩,
   ⟨"reasoning_tokens", .int, false⟩, ⟨"cache_read_tokens", .int, false⟩,
   ⟨"cache_write_tokens", .int, false⟩, ⟨"cost_usd", .float, false⟩,
   ⟨"duration_ms", .int, false⟩, ⟨"status_code", .int, false⟩, ⟨"tags", .dict, false⟩,
   ⟨"system_prompt_hash", .optionalStr none, false⟩, ⟨"cache_hit", .int, false⟩,
   ⟨"cache_saved_usd", .float, false⟩, ⟨"tool_calls", .int, false⟩,
   ⟨"trace_id", .optionalStr none, false⟩, ⟨"parent_span_id", .optionalStr none, false⟩,
   ⟨"event_id", .optionalStr none, false⟩, ⟨"request_id", .optionalStr none, false⟩,
   ⟨"source", .optionalStr none, false⟩, ⟨"pricing_class", .optionalStr none, false⟩,
   ⟨"pricing_version", .optionalStr (some 128), false⟩,
   ⟨"pricing_fingerprint", .optionalStr (some 64), false⟩,
   ⟨"requested_model", .optionalStr none, false⟩, ⟨"routed_model", .optionalStr none, false⟩,
   ⟨"downgrade_reason", .optionalStr none, false⟩, ⟨"prompt_system_tokens", .int, false⟩,
   ⟨"prompt_tools_tokens", .int, false⟩, ⟨"prompt_rag_tokens", .int, false⟩,
   ⟨"prompt_history_tokens", .int, false⟩]

/-- `_lift_flat_tags`, on a dictionary. -/
def liftFlatTags (data : Fields) : Fields :=
  if (data.getD "tags" .null).truthy then data
  else
    let nested := cloudSyncedTags.filterMap fun name =>
      match data.getD ("tag_" ++ name) .null with
      | .null => none
      | value => some (name, value)
    if nested.isEmpty then data else data.set "tags" (.obj nested)

/-- Does the field take what the dictionary has for it? -/
def ModelField.takes (lax : LaxMode) (data : Fields) (field : ModelField) : Bool :=
  match data.get? field.name with
  | some value => field.type.accepts lax value
  | none => !field.required

/-- Does `RequestRecordBase` validate? -/
def satisfies (lax : LaxMode) (data : Fields) : Bool :=
  requestRecordBase.all fun field => field.takes lax (liftFlatTags data)

/-! ## Lifted tags -/

theorem liftFlatTags_cases (data : Fields) :
    liftFlatTags data = data ∨ ∃ nested, liftFlatTags data = data.set "tags" (.obj nested) := by
  unfold liftFlatTags
  split
  · exact Or.inl rfl
  · simp only
    split
    · exact Or.inl rfl
    · exact Or.inr ⟨_, rfl⟩

theorem get?_liftFlatTags (data : Fields) {name : Str} (other : name ≠ "tags") :
    (liftFlatTags data).get? name = data.get? name := by
  obtain same | ⟨nested, same⟩ := liftFlatTags_cases data
  · rw [same]
  · rw [same, Fields.get?_set_of_ne _ _ other]

/-- Whatever the flat tags are, a dictionary without `tags` gets a valid one. -/
theorem takes_tags (lax : LaxMode) {data : Fields} (flat : data.get? "tags" = none) :
    ModelField.takes lax (liftFlatTags data) ⟨"tags", .dict, false⟩ = true := by
  obtain same | ⟨nested, same⟩ := liftFlatTags_cases data
  · simp only [ModelField.takes, same, flat, Bool.not_false]
  · have absent : data.has "tags" = false := by rw [Fields.has, flat, Option.isSome_none]
    simp only [ModelField.takes, same, Fields.get?_set_of_absent absent, FieldType.accepts]

theorem takes_of_get? (lax : LaxMode) {data : Fields} {name : Str} {value : Json}
    (sent : data.get? name = some value) (type : FieldType) (required : Bool) :
    ModelField.takes lax data ⟨name, type, required⟩ = type.accepts lax value := by
  simp only [ModelField.takes, sent]

theorem dict_field {field : ModelField} (member : field ∈ requestRecordBase) :
    field.type = .dict ∧ field = ⟨"tags", .dict, false⟩ ∨
      field.type ≠ .dict ∧ field.name ≠ "tags" := by
  have its : ∀ field ∈ requestRecordBase,
      field.type = .dict ∧ field = ⟨"tags", .dict, false⟩ ∨
        field.type ≠ .dict ∧ field.name ≠ "tags" := by
    decide +kernel
  exact its field member

/-- Of a dictionary without `tags`, every other field is judged by what it has for it. -/
theorem satisfies_iff (lax : LaxMode) {data : Fields} (flat : data.get? "tags" = none) :
    satisfies lax data = true ↔
      ∀ field ∈ requestRecordBase, field.type ≠ .dict → field.takes lax data = true := by
  simp only [satisfies, List.all_eq_true]
  apply forall₂_congr
  intro field member
  obtain ⟨dict, same⟩ | ⟨other, named⟩ := dict_field member
  · simp only [same, takes_tags lax flat, ne_eq, not_true, false_implies]
  · simp only [ModelField.takes, get?_liftFlatTags data named, ne_eq, other, not_false_iff,
      true_implies]

end BurnLens.Backend
