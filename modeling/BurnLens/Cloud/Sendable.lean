import BurnLens.Backend.Models
import BurnLens.Cloud.Sync

/-! # Which records the backend takes

The columns of the requests table convert what they are bound to and constrain little; the
backend's record is stricter.  `Sendable` says of a record itself whether the row that is stored
of it gives a payload that the backend takes.
-/

namespace BurnLens.Cloud

open Library Cost Storage Backend

/-! ## The condition on a record -/

section

variable (texts : NumberText) (lax : LaxMode)

/-- A count: a number without a fraction, or a text that one of the two sides reads as one. -/
def isCount : Json → Bool
  | .bool _ | .int _ => true
  | .float x => x.whole.isSome
  | .str s =>
    match texts.numeric s with
    | some a => a.isWhole
    | none => lax.integer s
  | _ => false

/-- A false value is sent as 0 for a segment of the prompt. -/
def isSegment (value : Json) : Bool := !value.truthy || isCount texts lax value

def isAmount : Json → Bool
  | .bool _ | .int _ | .float _ => true
  | .str s => (texts.numeric s).isSome || lax.number s
  | _ => false

end

/-- The formats of the data model have an offset in hours and minutes. -/
def wholeMinutes : Timestamp → Bool
  | .aware t => t.utcoffset % 60000000 = 0
  | .naive _ => true

def isDict : Json → Bool
  | .obj _ => true
  | _ => false

def countsOf (record : LedgerRecord) : List Json :=
  [record.inputTokens, record.outputTokens, record.reasoningTokens, record.cacheReadTokens,
   record.cacheWriteTokens, record.durationMs, record.statusCode, record.cacheHit,
   record.toolCalls]

def segmentsOf (record : LedgerRecord) : List Json :=
  [record.promptSystemTokens, record.promptToolsTokens, record.promptRagTokens,
   record.promptHistoryTokens]

structure Sendable (texts : NumberText) (lax : LaxMode) (record : LedgerRecord) : Prop where
  tags : isDict record.tags = true
  timestamp : wholeMinutes record.timestamp = true
  counts : ∀ value ∈ countsOf record, isCount texts lax value = true
  segments : ∀ value ∈ segmentsOf record, isSegment texts lax value = true
  amounts : ∀ value ∈ [record.costUsd, record.cacheSavedUsd], isAmount texts lax value = true
  version : ∀ version, record.pricingVersion = some version → version.length ≤ 128
  fingerprint : ∀ digest, record.pricingFingerprint = some digest → digest.length ≤ 64

/-! ## Stored values as the backend sees them -/

section

variable {texts : NumberText} {lax : LaxMode}

theorem packed_accepted (a : Number) : FieldType.int.accepts lax a.packed = a.isWhole := by
  cases a with
  | int n =>
    simp only [Number.packed, Number.isWhole]
    split
    · next fits => simp [FieldType.accepts, fits]
    · next large =>
      have outside : ¬(-2 ^ 63 < n ∧ n < 2 ^ 63) := by
        simp only [storable, decide_eq_true_eq] at large
        omega
      have fraction : (Flt.fin (n : ℚ)).whole = none := by
        simpa [Flt.whole] using outside
      simp [FieldType.accepts, fraction, large]
  | float x =>
    simp only [Number.packed, Number.isWhole]
    cases whole : x.whole with
    | none => simp [FieldType.accepts, whole]
    | some n => simp [FieldType.accepts]

theorem count_accepted (value : Json) :
    FieldType.int.accepts lax (texts.integerAffinity value) = isCount texts lax value := by
  cases value with
  | float x => exact packed_accepted (.float x)
  | str s =>
    simp only [NumberText.integerAffinity, isCount]
    cases texts.numeric s with
    | none => rfl
    | some a => exact packed_accepted a
  | _ => rfl

theorem isWhole_of_zero {a : Number} (zero : a.packed.truthy = false) : a.isWhole = true := by
  cases a with
  | int n =>
    simp only [Number.packed] at zero
    split at zero
    · next fits => exact fits
    · next large =>
      have : n = 0 := by simpa [Json.truthy] using zero
      subst this
      exact absurd rfl large
  | float x =>
    simp only [Number.packed] at zero
    cases whole : x.whole with
    | none =>
      rw [whole] at zero
      cases x with
      | fin x =>
        have : x = 0 := by simpa [Json.truthy] using zero
        subst this
        cases whole
      | _ => cases zero
    | some n => simp [Number.isWhole, whole]

theorem segment_accepted (value : Json) :
    FieldType.int.accepts lax ((texts.integerAffinity value).orElse (.int 0)) =
      isSegment texts lax value := by
  -- a packed number that is false is 0, so that it counts in either way
  have number : ∀ a : Number, FieldType.int.accepts lax (a.packed.orElse (.int 0)) = a.isWhole := by
    intro a
    rw [Json.orElse]
    split
    · exact packed_accepted a
    · next zero => exact (isWhole_of_zero (by simpa using zero)).symm
  cases value with
  | float x =>
    have zero : (Json.float x).truthy = false → x.whole.isSome = true := by
      intro zero
      cases x with
      | fin x =>
        have : x = 0 := by simpa [Json.truthy] using zero
        subst this
        rfl
      | _ => cases zero
    rw [isSegment, NumberText.integerAffinity, number]
    cases nonzero : (Json.float x).truthy with
    | true => rfl
    | false => exact zero nonzero
  | str s =>
    rw [isSegment, NumberText.integerAffinity]
    cases literal : texts.numeric s with
    | none => cases s <;> simp [Json.orElse, Json.truthy, FieldType.accepts, isCount, literal]
    | some a =>
      have nonempty : s ≠ [] := by
        rintro rfl
        rw [texts.digits] at literal
        cases literal
      have written : (Json.str s).truthy = true := by simpa [Json.truthy] using nonempty
      simp only [number, written, isCount, literal, Bool.not_true, Bool.false_or]
  | bool b => cases b <;> rfl
  | int n => by_cases zero : n = 0 <;> simp [isSegment, isCount, Json.orElse, Json.truthy,
      NumberText.integerAffinity, FieldType.accepts, zero]
  | null => rfl
  | arr items => cases items <;> rfl
  | obj fields => cases fields <;> rfl

theorem amount_accepted (value : Json) :
    FieldType.float.accepts lax (texts.realAffinity value) = isAmount texts lax value := by
  cases value with
  | str s =>
    simp only [NumberText.realAffinity, isAmount]
    cases texts.numeric s with
    | none => simp [FieldType.accepts]
    | some a => cases a <;> rfl
  | _ => rfl

theorem text_accepted {value : Json} (bound : bindable value = true)
    (present : bindsNull value = false) :
    FieldType.str.accepts lax (texts.textAffinity value) = true := by
  cases value with
  | float x => cases x <;> first | rfl | cases present
  | null => cases present
  | arr items => cases bound
  | obj fields => cases bound
  | _ => rfl

theorem optionalAffinity_accepted {value : Json} (bound : bindable value = true) :
    (FieldType.optionalStr none).accepts lax (texts.textAffinity value) = true := by
  cases value with
  | float x => cases x <;> rfl
  | arr items => cases bound
  | obj fields => cases bound
  | _ => rfl

theorem optionalText_accepted (text : Option Str) :
    (FieldType.optionalStr none).accepts lax (optionalText text) = true := by
  cases text <;> rfl

end

/-! ## What a stored row sends -/

section

variable {record : LedgerRecord} {texts : NumberText} {dumps : Json → Str}
  {eventId pricingClass : Str} {pricingVersion fingerprint : Option Str} {row tags : Fields}
  {sentClass : Json} {hmac : Json → Str}

theorem distinct_row :
    ((record.row texts dumps eventId pricingClass pricingVersion fingerprint).map Prod.fst).Nodup := by
  simp only [LedgerRecord.row, List.map_cons, List.map_nil]
  decide +kernel

theorem names_payload : (payload row tags sentClass).map Prod.fst =
    (payload [] [] .null).map Prod.fst := by
  simp only [payload, List.map_append, List.map_map, List.map_cons, List.map_nil, Function.comp_def]

theorem distinct_payload : ((payload row tags sentClass).map Prod.fst).Nodup := by
  rw [names_payload]
  decide +kernel

theorem sanitizeRecord_payload :
    sanitizeRecord (payload row tags sentClass) = payload row tags sentClass := by
  apply List.filter_eq_self.mpr
  intro field member
  have named : field.1 ∈ (payload [] [] .null).map Prod.fst :=
    names_payload ▸ List.mem_map_of_mem member
  have allowed : ∀ name ∈ (payload [] [] .null).map Prod.fst, name ∈ syncAllowedFields := by
    decide +kernel
  exact decide_eq_true (allowed _ named)

theorem payload_flat : (wireRecord hmac (payload row tags sentClass)).get? "tags" = none := by
  rw [wireRecord, sanitizeRecord_payload, Fields.get?_set_of_ne _ _ (by decide)]
  apply Fields.get?_of_not_mem
  rw [names_payload]
  decide +kernel

theorem promptHash_accepted (lax : LaxMode) :
    ModelField.takes lax (wireRecord hmac (payload row tags sentClass))
      ⟨"system_prompt_hash", .optionalStr none, false⟩ = true := by
  have present : (payload row tags sentClass).has "system_prompt_hash" = true := by
    rw [Fields.has, Fields.get?_of_getElem? (i := 11) distinct_payload rfl, Option.isSome_some]
  rw [takes_of_get? lax (by
    rw [wireRecord, sanitizeRecord_payload, Fields.get?_set_self present]), pseudonymizePromptHash]
  split <;> rfl

/-- An entry of the payload that is taken from a column, on the wire. -/
theorem wire_get? {name : Str} {default value : Json} (i j : Nat)
    (other : name ≠ "system_prompt_hash")
    (sent : (payload row tags sentClass)[i]? = some (name, row.getD name default))
    (distinct : (row.map Prod.fst).Nodup) (stored : row[j]? = some (name, value)) :
    (wireRecord hmac (payload row tags sentClass)).get? name = some value := by
  rw [wireRecord, sanitizeRecord_payload, Fields.get?_set_of_ne _ _ other,
    Fields.get?_of_getElem? distinct_payload sent, Fields.getD,
    Fields.get?_of_getElem? distinct stored, Option.getD_some]

theorem wire_segment {name : Str} {value : Json} (i j : Nat) (other : name ≠ "system_prompt_hash")
    (sent : (payload row tags sentClass)[i]? =
      some (name, (row.getD name .null).orElse (.int 0)))
    (distinct : (row.map Prod.fst).Nodup) (stored : row[j]? = some (name, value)) :
    (wireRecord hmac (payload row tags sentClass)).get? name = some (value.orElse (.int 0)) := by
  rw [wireRecord, sanitizeRecord_payload, Fields.get?_set_of_ne _ _ other,
    Fields.get?_of_getElem? distinct_payload sent, Fields.getD,
    Fields.get?_of_getElem? distinct stored, Option.getD_some]

end

/-- The row of a record that was stored, field by field of the backend's record. -/
theorem satisfies_row {lax : LaxMode} {record : LedgerRecord} {texts : NumberText}
    {dumps : Json → Str} {hmac : Json → Str} {eventId pricingClass : Str}
    {pricingVersion fingerprint : Option Str} {tags : Fields} (kept : record.Kept) :
    satisfies lax (wireRecord hmac (payload
        (record.row texts dumps eventId pricingClass pricingVersion fingerprint) tags
        (.str pricingClass))) = true ↔
      lax.datetime (.str record.timestamp.isoformat) = true ∧
        (∀ value ∈ countsOf record, isCount texts lax value = true) ∧
        (∀ value ∈ segmentsOf record, isSegment texts lax value = true) ∧
        (∀ value ∈ [record.costUsd, record.cacheSavedUsd], isAmount texts lax value = true) ∧
        (FieldType.optionalStr (some 128)).accepts lax (optionalText pricingVersion) = true ∧
        (FieldType.optionalStr (some 64)).accepts lax (optionalText fingerprint) = true := by
  generalize its : record.row texts dumps eventId pricingClass pricingVersion fingerprint = row
  have distinct : (row.map Prod.fst).Nodup := its ▸ distinct_row
  have here : ∀ {name : Str} {value : Json} (j : Nat),
      (record.row texts dumps eventId pricingClass pricingVersion fingerprint)[j]? =
        some (name, value) → row[j]? = some (name, value) := fun j stored => its ▸ stored
  let wire := wireRecord hmac (payload row tags (.str pricingClass))
  have sent : ∀ {name : Str} {default value : Json} (i j : Nat),
      (payload row tags (.str pricingClass))[i]? = some (name, row.getD name default) →
      row[j]? = some (name, value) → name ≠ "system_prompt_hash" → ∀ type required,
        ModelField.takes lax wire ⟨name, type, required⟩ = type.accepts lax value := by
    intro name default value i j sent stored other
    exact takes_of_get? lax (wire_get? i j other sent distinct stored)
  have segment : ∀ {name : Str} {value : Json} (i j : Nat),
      (payload row tags (.str pricingClass))[i]? =
        some (name, (row.getD name .null).orElse (.int 0)) →
      row[j]? = some (name, value) → name ≠ "system_prompt_hash" → ∀ type required,
        ModelField.takes lax wire ⟨name, type, required⟩ =
          type.accepts lax (value.orElse (.int 0)) := by
    intro name value i j sent stored other
    exact takes_of_get? lax (wire_segment i j other sent distinct stored)
  have timestamp := sent 0 0 rfl (here 0 rfl) (by decide)
  have provider := sent 1 1 rfl (here 1 rfl) (by decide)
  have model := sent 2 2 rfl (here 2 rfl) (by decide)
  have inputTokens := sent 3 4 rfl (here 4 rfl) (by decide)
  have outputTokens := sent 4 5 rfl (here 5 rfl) (by decide)
  have reasoningTokens := sent 5 6 rfl (here 6 rfl) (by decide)
  have cacheReadTokens := sent 6 7 rfl (here 7 rfl) (by decide)
  have cacheWriteTokens := sent 7 8 rfl (here 8 rfl) (by decide)
  have costUsd := sent 8 9 rfl (here 9 rfl) (by decide)
  have durationMs := sent 9 10 rfl (here 10 rfl) (by decide)
  have statusCode := sent 10 11 rfl (here 11 rfl) (by decide)
  have cacheHit := sent 12 28 rfl (here 28 rfl) (by decide)
  have cacheSavedUsd := sent 13 29 rfl (here 29 rfl) (by decide)
  have toolCalls := sent 14 30 rfl (here 30 rfl) (by decide)
  have traceId := sent 15 19 rfl (here 19 rfl) (by decide)
  have parentSpanId := sent 16 20 rfl (here 20 rfl) (by decide)
  have eventId := sent 17 18 rfl (here 18 rfl) (by decide)
  have requestId := sent 18 15 rfl (here 15 rfl) (by decide)
  have source := sent 19 14 rfl (here 14 rfl) (by decide)
  have version := sent 20 21 rfl (here 21 rfl) (by decide)
  have digest := sent 21 23 rfl (here 23 rfl) (by decide)
  have requestedModel := sent 23 3 rfl (here 3 rfl) (by decide)
  have routedModel := sent 24 16 rfl (here 16 rfl) (by decide)
  have downgradeReason := sent 25 17 rfl (here 17 rfl) (by decide)
  have system := segment 33 24 rfl (here 24 rfl) (by decide)
  have tools := segment 34 25 rfl (here 25 rfl) (by decide)
  have rag := segment 35 26 rfl (here 26 rfl) (by decide)
  have history := segment 36 27 rfl (here 27 rfl) (by decide)
  have pricing : ∀ type required, ModelField.takes lax wire ⟨"pricing_class", type, required⟩ =
      type.accepts lax (.str pricingClass) := by
    apply takes_of_get? lax
    show (wireRecord hmac _).get? _ = _
    rw [wireRecord, sanitizeRecord_payload, Fields.get?_set_of_ne _ _ (by decide)]
    exact Fields.get?_of_getElem? (i := 22) distinct_payload rfl
  have hash : ModelField.takes lax wire ⟨"system_prompt_hash", .optionalStr none, false⟩ = true :=
    promptHash_accepted lax
  rw [satisfies_iff lax payload_flat]
  show (∀ field ∈ requestRecordBase, field.type ≠ .dict → field.takes lax wire = true) ↔ _
  simp only [requestRecordBase, List.forall_mem_cons, timestamp, provider,
    model, inputTokens, outputTokens, reasoningTokens, cacheReadTokens, cacheWriteTokens, costUsd,
    durationMs, statusCode, cacheHit, cacheSavedUsd, toolCalls, traceId, parentSpanId, eventId,
    requestId, source, version, digest, requestedModel, routedModel, downgradeReason, system,
    tools, rag, history, pricing, hash]
  have named : FieldType.str.accepts lax (texts.textAffinity record.model) = true := by
    have member : (("model" : Str), record.model) ∈ record.required :=
      List.mem_cons_of_mem _ (List.mem_cons_self ..)
    exact text_accepted (kept.bindable _ member) (kept.complete _ member)
  have asked : (FieldType.optionalStr none).accepts lax
      (texts.textAffinity record.requestedModel) = true :=
    optionalAffinity_accepted kept.requestedModel
  have text : ∀ s, FieldType.str.accepts lax (.str s) = true := fun _ => rfl
  have optional : ∀ s, (FieldType.optionalStr none).accepts lax (.str s) = true := fun _ => rfl
  simp only [named, asked, text, optional, count_accepted, segment_accepted, amount_accepted,
    optionalText_accepted, countsOf, segmentsOf, List.forall_mem_cons, ne_eq,
    reduceCtorEq, not_false_eq_true, not_true_eq_false, true_implies, false_implies, List.not_mem_nil,
    implies_true, and_true, true_and]
  constructor
  · rintro ⟨timestamp, input, output, reasoning, cacheRead, cacheWrite, cost, duration, status, hit,
      saved, calls, version, digest, segments⟩
    exact ⟨timestamp, ⟨input, output, reasoning, cacheRead, cacheWrite, duration, status, hit, calls⟩,
      segments, ⟨cost, saved⟩, version, digest⟩
  · rintro ⟨timestamp, ⟨input, output, reasoning, cacheRead, cacheWrite, duration, status, hit, calls⟩,
      segments, ⟨cost, saved⟩, version, digest⟩
    exact ⟨timestamp, input, output, reasoning, cacheRead, cacheWrite, cost, duration, status, hit,
      saved, calls, version, digest, segments⟩

end BurnLens.Cloud
