import BurnLens.Cloud.Sendable

/-! # What a sync discloses

Rows that agree on the synced columns and on the synced tags give the same request to the
backend, which rebuilds of it the synced tags.
-/

namespace BurnLens.Cloud

open Library Cost Storage Backend

def localTags (loads : Str → Option Json) (row : Fields) : Json :=
  match row.getD "tags" (.str "{}") with
  | .str text => (loads text).getD (.obj [])
  | value => value

/-- `tags.get(name)`. -/
def tagEntry (loads : Str → Option Json) (row : Fields) (name : Str) : Except PyError Json :=
  (fun tags => tags.getD name .null) <$> (localTags loads row).dict

/-- `stored_class or pricing_class_for(...)`. -/
def sentClass (pricing : PricingData) (today : Date) (row : Fields) : Except PyError Json :=
  let storedClass := row.getD "pricing_class" .null
  if storedClass.truthy then pure storedClass
  else
    let source := (row.getD "source" .null).orElse (.str "proxy")
    Json.str <$> pricing.pricingClassFor today (columnText (row.getD "provider" .null))
      ((row.getD "model" .null).orElse (.str [])) (columnText source)

/-- The body of the request for the rows of a batch. -/
def requestBody (services : Services Reply) (today : Date) (rows : List Fields) :
    Except PyError Json := do
  let payloads ← rows.mapM (rowToPayload services.pricing services.loads today)
  return .obj [("records", .arr (payloads.map fun payload => .obj (wireRecord services.hmac payload)))]

/-- The `tags` of a record that the backend validates. -/
def recordTags (data : Fields) : Json := (liftFlatTags data).getD "tags" (.obj [])

/-- Two rows with the same synced columns and tags, and the same fingerprint of the prompt. -/
structure SyncAgree (hmac : Json → Str) (loads : Str → Option Json) (row row' : Fields) : Prop where
  columns : ∀ name ∈ syncAllowedFields, name ≠ "system_prompt_hash" → row.get? name = row'.get? name
  fingerprint : pseudonymizePromptHash hmac (row.getD "system_prompt_hash" .null) =
    pseudonymizePromptHash hmac (row'.getD "system_prompt_hash" .null)
  tags : ∀ name ∈ cloudSyncedTags, tagEntry loads row name = tagEntry loads row' name

/-! ## The payload by its parts -/

section

variable {hmac : Json → Str} {row row' tags tags' : Fields} {cls : Json}

/-- The entries of a dictionary, where a row has them. -/
def filled (row defaults : Fields) : Fields :=
  defaults.map fun field => (field.1, row.getD field.1 field.2)

def blank : Fields := payload [] [] .null

def beforeHash : Fields := blank.take 11

def beforeClass : Fields := (blank.drop 12).take 10

def afterClass : Fields := (blank.drop 23).take 3

def afterHash (row tags : Fields) (cls : Json) : Fields :=
  filled row beforeClass ++ (("pricing_class" : Str), cls) :: (filled row afterClass ++
    (cloudSyncedTags.map fun name => (tagField name, tags.getD name .null)) ++
    promptSegmentFields.map fun name => (name, (row.getD name .null).orElse (.int 0)))

theorem payload_parts : payload row tags cls =
    filled row beforeHash ++ (("system_prompt_hash" : Str), row.getD "system_prompt_hash" .null) ::
      afterHash row tags cls := rfl

theorem wireRecord_parts : wireRecord hmac (payload row tags cls) =
    filled row beforeHash ++ (("system_prompt_hash" : Str),
        pseudonymizePromptHash hmac (row.getD "system_prompt_hash" .null)) ::
      afterHash row tags cls := by
  have distinct : ((payload row tags cls).map Prod.fst).Nodup := distinct_payload
  have hash : (payload row tags cls).getD "system_prompt_hash" .null =
      row.getD "system_prompt_hash" .null := by
    rw [Fields.getD, Fields.get?_of_getElem? (i := 11) distinct rfl, Option.getD_some]
  rw [wireRecord, sanitizeRecord_payload, hash]
  rw [payload_parts] at distinct ⊢
  exact Fields.set_append_cons distinct _

theorem filled_congr {defaults : Fields}
    (same : ∀ field ∈ defaults, row.get? field.1 = row'.get? field.1) :
    filled row defaults = filled row' defaults := by
  apply List.map_congr_left
  intro field member
  simp only [Fields.getD, same field member]

theorem wireRecord_congr
    (columns : ∀ name ∈ syncAllowedFields, name ≠ "system_prompt_hash" → row.get? name = row'.get? name)
    (fingerprint : pseudonymizePromptHash hmac (row.getD "system_prompt_hash" .null) =
      pseudonymizePromptHash hmac (row'.getD "system_prompt_hash" .null))
    (entries : ∀ name ∈ cloudSyncedTags, tags.getD name .null = tags'.getD name .null) :
    wireRecord hmac (payload row tags cls) = wireRecord hmac (payload row' tags' cls) := by
  have plain : ∀ field ∈ beforeHash ++ beforeClass ++ afterClass,
      field.1 ∈ syncAllowedFields ∧ field.1 ≠ "system_prompt_hash" := by
    have named : ∀ name ∈ (beforeHash ++ beforeClass ++ afterClass).map Prod.fst,
        name ∈ syncAllowedFields ∧ name ≠ "system_prompt_hash" := by
      decide +kernel
    exact fun field member => named field.1 (List.mem_map_of_mem member)
  have same : ∀ {defaults : Fields}, defaults ⊆ beforeHash ++ beforeClass ++ afterClass →
      filled row defaults = filled row' defaults := by
    intro defaults within
    apply filled_congr
    intro field member
    obtain ⟨allowed, other⟩ := plain field (within member)
    exact columns field.1 allowed other
  have flat : (cloudSyncedTags.map fun name => (tagField name, tags.getD name .null)) =
      cloudSyncedTags.map fun name => (tagField name, tags'.getD name .null) := by
    apply List.map_congr_left
    intro name member
    rw [entries name member]
  have segments : (promptSegmentFields.map fun name => (name, (row.getD name .null).orElse (.int 0))) =
      promptSegmentFields.map fun name => (name, (row'.getD name .null).orElse (.int 0)) := by
    have named : ∀ name ∈ promptSegmentFields,
        name ∈ syncAllowedFields ∧ name ≠ "system_prompt_hash" := by
      decide +kernel
    apply List.map_congr_left
    intro name member
    obtain ⟨allowed, other⟩ := named name member
    rw [Fields.getD, columns name allowed other, Fields.getD]
  have before : filled row beforeHash = filled row' beforeHash := same (by simp)
  have between : filled row beforeClass = filled row' beforeClass := same (by simp)
  have after : filled row afterClass = filled row' afterClass := same (by simp)
  rw [wireRecord_parts, wireRecord_parts, afterHash, afterHash, before, between, after, flat,
    segments, fingerprint]

theorem wire_tag {name : Str} (synced : name ∈ cloudSyncedTags) :
    (wireRecord hmac (payload row tags cls)).get? (tagField name) = some (tags.getD name .null) := by
  have other : ∀ name ∈ cloudSyncedTags, tagField name ≠ "system_prompt_hash" := by decide +kernel
  rw [wireRecord, sanitizeRecord_payload, Fields.get?_set_of_ne _ _ (other name synced)]
  apply Fields.get?_of_mem distinct_payload
  refine List.mem_append_left _ (List.mem_append_right _ ?_)
  exact List.mem_map_of_mem (f := fun name => (tagField name, tags.getD name .null)) synced

/-! ## The tags that the backend rebuilds -/

def notNull : Json → Option Json
  | .null => none
  | value => some value

theorem notNull_eq_some {value value' : Json} :
    notNull value = some value' ↔ value = value' ∧ value' ≠ .null := by
  cases value <;> simp [notNull] <;> rintro rfl <;> simp

/-- The synced tags of a row, where they have a value. -/
def syncedTags (tags : Fields) : Fields :=
  cloudSyncedTags.filterMap fun name => (notNull (tags.getD name .null)).map fun value => (name, value)

/-- Flat tags, of a dictionary without `tags`. -/
theorem recordTags_of_flat {data : Fields} (flat : data.get? "tags" = none) :
    recordTags data = .obj (Backend.cloudSyncedTags.filterMap fun name =>
      (notNull (data.getD ("tag_" ++ name) .null)).map fun value => (name, value)) := by
  have untagged : (data.getD "tags" .null).truthy = false := by
    rw [Fields.getD, flat]
    rfl
  have nested : ∀ lift : Str → Option (Str × Json),
      (if (Backend.cloudSyncedTags.filterMap lift).isEmpty then data
        else data.set "tags" (.obj (Backend.cloudSyncedTags.filterMap lift))).getD "tags" (.obj []) =
      .obj (Backend.cloudSyncedTags.filterMap lift) := by
    intro lift
    cases Backend.cloudSyncedTags.filterMap lift with
    | nil => rw [List.isEmpty_nil, if_pos rfl, Fields.getD, flat, Option.getD_none]
    | cons field fields =>
      rw [List.isEmpty_cons, if_neg Bool.false_ne_true, Fields.getD, Fields.get?_set,
        Option.getD_some]
  unfold recordTags liftFlatTags
  rw [untagged, if_neg Bool.false_ne_true]
  refine (nested _).trans (congrArg Json.obj (List.filterMap_congr ?_))
  intro name _
  cases data.getD ("tag_" ++ name) .null <;> rfl

theorem recordTags_wire :
    recordTags (wireRecord hmac (payload row tags cls)) = .obj (syncedTags tags) := by
  refine (recordTags_of_flat payload_flat).trans (congrArg Json.obj (List.filterMap_congr ?_))
  intro name synced
  have sent : (wireRecord hmac (payload row tags cls)).getD (tagField name) .null =
      tags.getD name .null := by
    rw [Fields.getD, wire_tag synced, Option.getD_some]
  exact congrArg (fun value => (notNull value).map fun value => (name, value)) sent

theorem syncedTags_get? {name : Str} {value : Json} :
    (syncedTags tags).get? name = some value ↔
      name ∈ cloudSyncedTags ∧ tags.get? name = some value ∧ value ≠ .null := by
  rw [syncedTags, Fields.get?_filterMap fun name => notNull (tags.getD name .null)]
  split
  · rename_i synced
    rw [notNull_eq_some, and_iff_right synced, Fields.getD]
    cases tags.get? name with
    | none =>
      refine iff_of_false ?_ (fun here => by cases here.1)
      rintro ⟨rfl, nonnull⟩
      exact nonnull rfl
    | some value' => rw [Option.getD_some, Option.some_inj]
  · rename_i other
    exact iff_of_false (fun here => by cases here) fun here => other here.1

/-! ## Batches -/

theorem rowToPayload_eq (pricing : PricingData) (loads : Str → Option Json) (today : Date)
    (row : Fields) : rowToPayload pricing loads today row = do
      let cls ← sentClass pricing today row
      let tags ← (localTags loads row).dict
      return payload row tags cls := by
  unfold rowToPayload sentClass
  dsimp only
  split
  · rfl
  · simp only [bind_map_left]
    rfl

theorem sentClass_congr {pricing : PricingData} {today : Date}
    (columns : ∀ name ∈ syncAllowedFields, name ≠ "system_prompt_hash" → row.get? name = row'.get? name) :
    sentClass pricing today row = sentClass pricing today row' := by
  have same : ∀ name ∈ (["pricing_class", "source", "provider", "model"] : List Str),
      row.getD name .null = row'.getD name .null := by
    have named : ∀ name ∈ (["pricing_class", "source", "provider", "model"] : List Str),
        name ∈ syncAllowedFields ∧ name ≠ "system_prompt_hash" := by
      decide +kernel
    intro name member
    obtain ⟨allowed, other⟩ := named name member
    rw [Fields.getD, columns name allowed other, Fields.getD]
  rw [sentClass, sentClass, same _ (.head _), same _ (.tail _ (.head _)),
    same _ (.tail _ (.tail _ (.head _))), same _ (.tail _ (.tail _ (.tail _ (.head _))))]

end

section

variable {hmac : Json → Str} {loads : Str → Option Json} {pricing : PricingData} {today : Date}
  {row row' : Fields} {rows rows' : List Fields}

/-- What is sent of a row, or the error that its conversion raises. -/
theorem wire_congr (agree : SyncAgree hmac loads row row') :
    wireRecord hmac <$> rowToPayload pricing loads today row =
      wireRecord hmac <$> rowToPayload pricing loads today row' := by
  rw [rowToPayload_eq, rowToPayload_eq, sentClass_congr agree.columns]
  cases sentClass pricing today row' with
  | error error => rfl
  | ok cls =>
    have entries := agree.tags
    simp only [tagEntry] at entries
    have feature : ("feature" : Str) ∈ cloudSyncedTags := .head _
    cases decoded : (localTags loads row).dict with
    | error error =>
      cases decoded' : (localTags loads row').dict with
      | error error' =>
        have same := entries _ feature
        rw [decoded, decoded'] at same
        cases same
        rfl
      | ok tags' =>
        have same := entries _ feature
        rw [decoded, decoded'] at same
        cases same
    | ok tags =>
      cases decoded' : (localTags loads row').dict with
      | error error' =>
        have same := entries _ feature
        rw [decoded, decoded'] at same
        cases same
      | ok tags' =>
        refine congrArg Except.ok (wireRecord_congr agree.columns agree.fingerprint ?_)
        intro name synced
        have same := entries name synced
        rw [decoded, decoded'] at same
        exact Except.ok.inj same

theorem map_mapM_rowToPayload (rows : List Fields) :
    List.map (wireRecord hmac) <$> rows.mapM (rowToPayload pricing loads today) =
      rows.mapM fun row => wireRecord hmac <$> rowToPayload pricing loads today row := by
  induction rows with
  | nil => rfl
  | cons row rows inductionHypothesis =>
    rw [List.mapM_cons, List.mapM_cons, ← inductionHypothesis]
    cases rowToPayload pricing loads today row with
    | error error => rfl
    | ok payload => cases rows.mapM (rowToPayload pricing loads today) <;> rfl

theorem wires_congr (agree : List.Forall₂ (SyncAgree hmac loads) rows rows') :
    List.map (wireRecord hmac) <$> rows.mapM (rowToPayload pricing loads today) =
      List.map (wireRecord hmac) <$> rows'.mapM (rowToPayload pricing loads today) := by
  rw [map_mapM_rowToPayload, map_mapM_rowToPayload]
  induction agree with
  | nil => rfl
  | cons first _ inductionHypothesis =>
    rw [List.mapM_cons, List.mapM_cons, wire_congr first, inductionHypothesis]

theorem requestBody_eq (services : Services Reply) (today : Date) (rows : List Fields) :
    requestBody services today rows =
      (fun wires => Json.obj [("records", .arr (wires.map Json.obj))]) <$>
        List.map (wireRecord services.hmac) <$>
          rows.mapM (rowToPayload services.pricing services.loads today) := by
  unfold requestBody
  cases rows.mapM (rowToPayload services.pricing services.loads today) with
  | error error => rfl
  | ok payloads =>
    have posted : (payloads.map fun payload => Json.obj (wireRecord services.hmac payload)) =
        (payloads.map (wireRecord services.hmac)).map Json.obj := List.map_map.symm
    exact congrArg (fun records => Except.ok (Json.obj [("records", Json.arr records)])) posted

end

/-- Privacy of the sync, and the round trip of the tags: batches whose rows agree on the synced
    columns and tags, and on the keyed digest of the prompt hash, give the same request; and the
    backend rebuilds of every row the synced tags that have a value. -/
theorem sync_private (services : Services Reply) (today : Date) :
    (∀ rows rows', List.Forall₂ (SyncAgree services.hmac services.loads) rows rows' →
      requestBody services today rows = requestBody services today rows') ∧
    ∀ row sent, rowToPayload services.pricing services.loads today row = .ok sent →
      ∃ tags rebuilt : Fields, localTags services.loads row = .obj tags ∧
        recordTags (wireRecord services.hmac sent) = .obj rebuilt ∧
        ∀ name value, rebuilt.get? name = some value ↔
          name ∈ cloudSyncedTags ∧ tags.get? name = some value ∧ value ≠ .null := by
  constructor
  · intro rows rows' agree
    rw [requestBody_eq, requestBody_eq, wires_congr agree]
  · intro row sent converted
    rw [rowToPayload_eq] at converted
    obtain ⟨cls, _, converted⟩ := bind_eq_ok.mp converted
    obtain ⟨tags, decoded, converted⟩ := bind_eq_ok.mp converted
    cases converted
    have object : localTags services.loads row = .obj tags := by
      cases kind : localTags services.loads row with
      | obj fields =>
        rw [kind] at decoded
        cases decoded
        rfl
      | _ =>
        rw [kind] at decoded
        cases decoded
    exact ⟨tags, syncedTags tags, object, recordTags_wire, fun _ _ => syncedTags_get?⟩

end BurnLens.Cloud
