import BurnLens.Library.JsonLoads
import BurnLens.Library.Named
import BurnLens.Storage.IsoFormat
import BurnLens.Storage.Wal

/-! # The records of the write-ahead log

A `RequestRecord` as the text of a line, and back: its attributes pass through JSON, and the constructor
runs over what is read.  A line may come from a version of the proxy with other fields.
-/

namespace BurnLens.Storage

open Library

/-! ## Records -/

inductive Attribute where
  | value (value : Json)
  | datetime (t : DateTime)

def Attribute.truthy : Attribute → Bool
  | .value json => json.truthy
  | .datetime _ => true

/-- The `__dict__` of a record. -/
abbrev Attributes := List (Str × Attribute)

inductive FieldDefault where
  | required
  | now
  | value (value : Json)

/-- `fields(RequestRecord)`. -/
def requestFields : List (Str × FieldDefault) :=
  [("provider".toList, .required), ("model".toList, .required), ("request_path".toList, .required),
   ("timestamp".toList, .now), ("input_tokens".toList, .value (.int 0)),
   ("output_tokens".toList, .value (.int 0)), ("reasoning_tokens".toList, .value (.int 0)),
   ("cache_read_tokens".toList, .value (.int 0)), ("cache_write_tokens".toList, .value (.int 0)),
   ("cost_usd".toList, .value (.float (.fin 0))), ("duration_ms".toList, .value (.float (.fin 0))),
   ("status_code".toList, .value (.int 200)), ("tags".toList, .value (.obj [])),
   ("system_prompt_hash".toList, .value .null), ("source".toList, .value (.str "proxy")),
   ("request_id".toList, .value .null), ("id".toList, .value .null),
   ("requested_model".toList, .value .null), ("routed_model".toList, .value .null),
   ("downgrade_reason".toList, .value .null), ("budget_remaining_usd".toList, .value .null),
   ("budget_remaining_pct".toList, .value .null), ("prompt_system_tokens".toList, .value (.int 0)),
   ("prompt_user_tokens".toList, .value (.int 0)), ("prompt_tools_tokens".toList, .value (.int 0)),
   ("prompt_rag_tokens".toList, .value (.int 0)), ("prompt_history_tokens".toList, .value (.int 0)),
   ("cache_hit".toList, .value (.int 0)), ("cache_saved_usd".toList, .value (.float (.fin 0))),
   ("tool_calls".toList, .value (.int 0)), ("event_id".toList, .value .null),
   ("trace_id".toList, .value .null), ("parent_span_id".toList, .value .null),
   ("workspace_id".toList, .value .null), ("org_id".toList, .value .null),
   ("team".toList, .value .null), ("feature".toList, .value .null),
   ("customer_hash".toList, .value .null), ("app_id".toList, .value .null),
   ("env".toList, .value .null), ("repo".toList, .value .null), ("branch".toList, .value .null),
   ("commit_sha".toList, .value .null), ("pricing_version".toList, .value .null),
   ("pricing_fingerprint".toList, .value .null), ("pricing_class".toList, .value .null),
   ("ttft_ms".toList, .value .null), ("agent_id".toList, .value .null),
   ("workflow_id".toList, .value .null), ("workflow_run_id".toList, .value .null),
   ("run_id".toList, .value .null), ("task_id".toList, .value .null),
   ("action_id".toList, .value .null), ("parent_run_id".toList, .value .null),
   ("parent_event_id".toList, .value .null), ("retry_of_event_id".toList, .value .null),
   ("fallback_of_event_id".toList, .value .null)]

def validFields : List Str := requestFields.map Prod.fst

def FieldDefault.isRequired : FieldDefault → Bool
  | .required => true
  | _ => false

def requiredFields : List Str := (requestFields.filter (·.2.isRequired)).map Prod.fst

/-- The fields that `__post_init__` fills from the tags. -/
def correlationFields : List Str :=
  ["agent_id".toList, "workflow_id".toList, "workflow_run_id".toList, "run_id".toList,
   "task_id".toList, "action_id".toList, "parent_run_id".toList]

/-- `if not self.name: self.name = self.tags.get("name")`, for each of these fields. -/
def fill (tags : Fields) (entry : Str × Attribute) : Str × Attribute :=
  if entry.1 ∈ correlationFields ∧ entry.2.truthy = false then
    (entry.1, .value (tags.getD entry.1 .null))
  else entry

def postInit (attributes : Attributes) : Except PyError Attributes :=
  match attributes.lookup "tags".toList with
  | some (.value (.obj tags)) =>
    .ok (if tags.isEmpty then attributes else attributes.map (fill tags))
  | some tags => if tags.truthy then .error .attributeError else .ok attributes
  | none => .ok attributes

/-- `RequestRecord(kwargs)`. -/
def construct (now : DateTime) (kwargs : Attributes) : Except PyError Attributes := do
  let attributes ← requestFields.mapM fun (name, default) =>
    match kwargs.lookup name, default with
    | some given, _ => .ok (name, given)
    | none, .required => .error .typeError
    | none, .now => .ok (name, .datetime now)
    | none, .value value => .ok (name, .value value)
  postInit attributes

/-! ## Lines -/

def recordToDict (attributes : Attributes) : Fields :=
  attributes.map fun (name, held) =>
    match held with
    | .datetime t => (name, .str t.isoformat)
    | .value value => (name, value)

def lineText (attributes : Attributes) : Str :=
  dumps floatText (.obj (recordToDict attributes)) ++ ['\n']

/-- `record.event_id or uuid7()`, for the attribute of this name. -/
def withEventId (uuid7 : Str) (entry : Str × Attribute) : Str × Attribute :=
  if entry.1 = "event_id".toList ∧ entry.2.truthy = false then
    (entry.1, .value (.str uuid7))
  else entry

/-- `append_event`: the record after it, and the line. -/
def appendEvent (uuid7 : Str) (attributes : Attributes) : Attributes × Str :=
  let record := attributes.map (withEventId uuid7)
  (record, lineText record)

/-- The time stamp of a line: a `Z` at its end stands for UTC. -/
def parseTimestampField : Json → Except PyError Attribute
  | .str text =>
    let tsStr := if text.getLast? = some 'Z' then text.dropLast ++ "+00:00".toList else text
    match readIsoformat tsStr with
    | some t => .ok (.datetime t)
    | none => .error .valueError
  | value => .ok (.value value)

def dictToRecord (now : DateTime) (data : Json) : Except PyError Attributes := do
  let data ← data.dict
  let filteredData := data.filter fun field => field.1 ∈ validFields
  let kwargs ← filteredData.mapM fun (name, value) =>
    if name = "timestamp".toList then return (name, ← parseTimestampField value)
    else return (name, .value value)
  construct now kwargs

/-- What `read_events` makes of a line that is not blank. -/
def parseLine (now : DateTime) (line : Str) : Line Attributes :=
  match loads line with
  | none => .corrupt
  | some data =>
    match dictToRecord now data with
    | .ok record => .record record
    | .error _ => .malformed

/-! ## What a record holds -/

/-- The attributes of a record, for a version of the proxy with these fields: `__post_init__` has run, and
of the fields that are known here the time stamp, and no other, is a datetime. -/
structure Recorded (names : List Str) (attributes : Attributes) : Prop where
  names : attributes.map Prod.fst = names
  initialized : postInit attributes = .ok attributes
  kinds : ∀ entry ∈ attributes, entry.1 ∈ validFields →
    (entry.1 = "timestamp".toList ↔ ∃ t, entry.2 = .datetime t)
  values : ∀ name value, (name, .value value) ∈ attributes → value.IsValue

section

variable {names : List Str} {attributes kwargs : Attributes} {now : DateTime}

theorem fill_key (tags : Fields) (entry : Str × Attribute) : (fill tags entry).1 = entry.1 := by
  unfold fill
  split <;> rfl

theorem lookup_fill (tags : Fields) (attributes : Attributes) (name : Str) :
    (attributes.map (fill tags)).lookup name =
      (attributes.lookup name).map fun held => (fill tags (name, held)).2 :=
  lookup_mapNamed (fill_key tags) attributes name

theorem tags_not_correlation : "tags".toList ∉ correlationFields := by decide

theorem lookup_tags_fill (tags : Fields) (attributes : Attributes) :
    (attributes.map (fill tags)).lookup "tags".toList = attributes.lookup "tags".toList := by
  apply lookup_mapNamed_kept (fill_key tags)
  intro held
  rw [fill, if_neg fun both => tags_not_correlation both.1]

theorem fill_fill (tags : Fields) (entry : Str × Attribute) :
    fill tags (fill tags entry) = fill tags entry := by
  by_cases filled : entry.1 ∈ correlationFields ∧ entry.2.truthy = false
  · have once : fill tags entry = (entry.1, .value (tags.getD entry.1 .null)) := if_pos filled
    rw [once, fill]
    split <;> rfl
  · have kept : fill tags entry = entry := if_neg filled
    rw [kept, kept]

theorem postInit_tags {tags : Fields}
    (found : attributes.lookup "tags".toList = some (.value (.obj tags))) :
    postInit attributes = .ok (if tags.isEmpty then attributes else attributes.map (fill tags)) := by
  rw [postInit, found]

theorem postInit_other
    (other : ∀ tags, attributes.lookup "tags".toList ≠ some (.value (.obj tags)))
    {initialized : Attributes} (ran : postInit attributes = .ok initialized) :
    initialized = attributes := by
  rw [postInit] at ran
  split at ran
  · next tags found => exact absurd found (other tags)
  · split at ran
    · cases ran
    · cases ran
      rfl
  · cases ran
    rfl

theorem postInit_no_dictionary {fresh : Attributes} {held : Attribute}
    (other : ¬ ∃ dict, held = .value (.obj dict)) (ran : postInit attributes = .ok attributes)
    (found : attributes.lookup "tags".toList = some held)
    (same : fresh.lookup "tags".toList = some held) : postInit fresh = .ok fresh := by
  rw [postInit, found] at ran
  rw [postInit, same]
  split at ran
  · next dict its => exact absurd ⟨dict, Option.some.inj its⟩ other
  · next its =>
    cases its
    split at ran
    · cases ran
    · next falsy => rw [if_neg falsy]
  · next its => cases its

/-- Running `__post_init__` again changes nothing. -/
theorem postInit_idem {initialized : Attributes} (ran : postInit attributes = .ok initialized) :
    postInit initialized = .ok initialized := by
  by_cases dictionary : ∃ tags, attributes.lookup "tags".toList = some (.value (.obj tags))
  · obtain ⟨tags, found⟩ := dictionary
    rw [postInit_tags found] at ran
    cases ran
    cases empty : tags.isEmpty with
    | true =>
      rw [if_pos rfl, postInit_tags found, empty, if_pos rfl]
    | false =>
      have again : (attributes.map (fill tags)).lookup "tags".toList = some (.value (.obj tags)) := by
        rw [lookup_tags_fill, found]
      rw [if_neg Bool.false_ne_true, postInit_tags again, empty, if_neg Bool.false_ne_true,
        List.map_map]
      congr 1
      exact List.map_congr_left fun entry _ => fill_fill tags entry
  · have same := postInit_other (not_exists.mp dictionary) ran
    rw [same] at ran ⊢
    exact ran

theorem Recorded.filled (recorded : Recorded names attributes) {tags : Fields}
    (found : attributes.lookup "tags".toList = some (.value (.obj tags)))
    (some : tags.isEmpty = false) : ∀ entry ∈ attributes, fill tags entry = entry := by
  have ran := recorded.initialized
  rw [postInit_tags found, some, if_neg Bool.false_ne_true] at ran
  intro entry member
  have same : attributes.map (fill tags) = attributes.map id := by
    rw [List.map_id]
    exact Except.ok.inj ran
  exact List.map_inj_left.mp same entry member

/-- The JSON value that stands for an attribute. -/
def Attribute.json : Attribute → Json
  | .datetime t => .str t.isoformat
  | .value json => json

theorem recordToDict_eq (attributes : Attributes) :
    recordToDict attributes = attributes.map fun entry => (entry.1, entry.2.json) := by
  refine List.map_congr_left fun entry _ => ?_
  obtain ⟨name, held⟩ := entry
  cases held <;> rfl

theorem Recorded.isValue (recorded : Recorded names attributes) (distinct : names.Nodup) :
    (Json.obj (recordToDict attributes)).IsValue := by
  rw [recordToDict_eq]
  refine ⟨?_, areFieldValues_iff.mpr ?_⟩
  · have keys : (attributes.map fun entry => (entry.1, entry.2.json)).map Prod.fst = names := by
      rw [List.map_map, ← recorded.names]
      rfl
    rwa [keys]
  · intro field member
    obtain ⟨⟨name, held⟩, present, rfl⟩ := List.mem_map.mp member
    cases held with
    | datetime t => trivial
    | value value => exact recorded.values name value present

theorem loads_lineText (recorded : Recorded names attributes) (distinct : names.Nodup) :
    loads (lineText attributes) = some (.obj (recordToDict attributes)) :=
  loads_dumps (recorded.isValue distinct) (by simp [isJsonSpace])

theorem isDigit_of_mem_numeral {width n : Nat} {c : Char} (member : c ∈ numeral width n) :
    c.isDigit = true := by
  induction width with
  | zero => cases member
  | succ width inductionHypothesis =>
    rw [numeral, List.mem_cons] at member
    cases member with
    | inl first =>
      have digits : ∀ m : Fin 10, (Nat.digitChar m).isDigit = true := by decide
      exact first ▸ digits ⟨n / 10 ^ width % 10, Nat.mod_lt _ (by decide)⟩
    | inr later => exact inductionHypothesis later

theorem zulu_not_mem (t : DateTime) : 'Z' ∉ t.isoformat := by
  have numerals : ∀ width n, 'Z' ∉ numeral width n := by
    intro width n member
    exact absurd (isDigit_of_mem_numeral member) (by decide)
  have offset : 'Z' ∉ formatOffset t.utcoffset := by
    simp only [formatOffset, List.mem_cons, List.mem_append, numerals, false_or, not_or]
    refine ⟨by split <;> decide, by decide, ?_⟩
    split
    · simp
    · split <;> simp [numerals]
  simp only [DateTime.isoformat, DateTime.suffix, List.mem_cons, List.mem_append, numerals, offset,
    false_or, or_false, not_or]
  refine ⟨by decide, by decide, by decide, by decide, by decide, ?_⟩
  split <;> simp [numerals]

theorem parseTimestampField_isoformat (t : DateTime) :
    parseTimestampField (.str t.isoformat) = .ok (.datetime t) := by
  have other : t.isoformat.getLast? ≠ some 'Z' :=
    fun last => zulu_not_mem t (List.mem_of_getLast? last)
  simp only [parseTimestampField, if_neg other, readIsoformat_isoformat]

/-! ## Rebuilding -/

theorem valid_tags : "tags".toList ∈ validFields := by decide

/-- The attributes whose names are fields here. -/
def known (attributes : Attributes) : Attributes :=
  attributes.filter fun entry => entry.1 ∈ validFields

theorem lookup_known {name : Str} (valid : name ∈ validFields) :
    (known attributes).lookup name = attributes.lookup name :=
  lookup_filterNamed (p := fun name => name ∈ validFields) (decide_eq_true valid) attributes

theorem parseFields_recordToDict (recorded : Recorded names attributes) :
    ((recordToDict attributes).filter fun field => field.1 ∈ validFields).mapM (fun field =>
      if field.1 = "timestamp".toList then
        (do return (field.1, ← parseTimestampField field.2) : Except PyError (Str × Attribute))
      else return (field.1, .value field.2)) =
      .ok (known attributes) := by
  rw [recordToDict_eq, List.filter_map, List.mapM_map]
  have each : ∀ entry ∈ known attributes,
      (if entry.1 = "timestamp".toList then
        (do return (entry.1, ← parseTimestampField entry.2.json) : Except PyError (Str × Attribute))
      else return (entry.1, .value entry.2.json)) = .ok (id entry) := by
    intro entry member
    obtain ⟨present, valid⟩ := List.mem_filter.mp member
    have kind := recorded.kinds entry present (of_decide_eq_true valid)
    obtain ⟨name, held⟩ := entry
    split
    · next timestamp =>
      obtain ⟨t, its⟩ := kind.mp timestamp
      simp only at its
      subst its
      simp only [Attribute.json, parseTimestampField_isoformat]
      rfl
    · next other =>
      cases held with
      | datetime t => exact absurd (kind.mpr ⟨t, rfl⟩) other
      | value json => rfl
  exact (mapM_ok each).trans (by rw [List.map_id])

/-- What the constructor assigns to a field before `__post_init__`; a required field is given. -/
def assigned (now : DateTime) (kwargs : Attributes) (name : Str) (default : FieldDefault) : Attribute :=
  (kwargs.lookup name).getD
    (match default with
    | .required => .value .null
    | .now => .datetime now
    | .value json => .value json)

/-- The record that the constructor initializes. -/
def assignFields (now : DateTime) (kwargs : Attributes) : Attributes :=
  requestFields.map fun field => (field.1, assigned now kwargs field.1 field.2)

theorem lookup_assignFields {name : Str} {default : FieldDefault}
    (declared : requestFields.lookup name = some default) :
    (assignFields now kwargs).lookup name = some (assigned now kwargs name default) := by
  have keeps : ∀ field : Str × FieldDefault,
      (field.1, assigned now kwargs field.1 field.2).1 = field.1 := fun _ => rfl
  rw [assignFields, lookup_mapNamed keeps requestFields name, declared]
  rfl

theorem construct_eq (required : ∀ name ∈ requiredFields, ∃ held, kwargs.lookup name = some held) :
    construct now kwargs = postInit (assignFields now kwargs) := by
  have each : ∀ field ∈ requestFields,
      (match kwargs.lookup field.1, field.2 with
      | some given, _ => .ok (field.1, given)
      | none, .required => .error .typeError
      | none, .now => .ok (field.1, .datetime now)
      | none, .value value => .ok (field.1, .value value) : Except PyError (Str × Attribute)) =
        .ok (field.1, assigned now kwargs field.1 field.2) := by
    intro field member
    obtain ⟨name, default⟩ := field
    cases given : kwargs.lookup name with
    | some held => simp [assigned, given]
    | none =>
      cases default with
      | required =>
        have among : name ∈ requiredFields :=
          List.mem_map.mpr ⟨_, List.mem_filter.mpr ⟨member, rfl⟩, rfl⟩
        obtain ⟨held, found⟩ := required name among
        rw [given] at found
        cases found
      | now => simp [assigned, given]
      | value json => simp [assigned, given]
  have assigns := mapM_ok each
  simp only [construct]
  rw [assigns]
  rfl

/-- Where the tags agree with those of an initialized record, and so do the fields that it has. -/
theorem postInit_agree (recorded : Recorded names attributes) {fresh : Attributes}
    (tags : ∀ held, attributes.lookup "tags".toList = some held →
      fresh.lookup "tags".toList = some held)
    (missing : attributes.lookup "tags".toList = none →
      fresh.lookup "tags".toList = some (.value (.obj [])))
    (agree : ∀ name ∈ validFields, ∀ held, attributes.lookup name = some held →
      fresh.lookup name = some held) :
    ∃ rebuilt, postInit fresh = .ok rebuilt ∧ rebuilt.map Prod.fst = fresh.map Prod.fst ∧
      ∀ name ∈ validFields, ∀ held, attributes.lookup name = some held →
        rebuilt.lookup name = some held := by
  by_cases dictionary : ∃ dict, attributes.lookup "tags".toList = some (.value (.obj dict))
  · obtain ⟨dict, found⟩ := dictionary
    rw [postInit_tags (tags _ found)]
    cases empty : dict.isEmpty with
    | true => exact ⟨fresh, rfl, rfl, agree⟩
    | false =>
      refine ⟨fresh.map (fill dict), rfl, ?_, ?_⟩
      · rw [List.map_map]
        exact List.map_congr_left fun entry _ => fill_key dict entry
      · intro name valid held its
        have kept := recorded.filled found empty _ (mem_of_lookup its)
        rw [lookup_fill, agree name valid held its, Option.map_some, kept]
  · cases found : attributes.lookup "tags".toList with
    | none =>
      refine ⟨fresh, ?_, rfl, agree⟩
      rw [postInit_tags (missing found)]
      rfl
    | some held =>
      have other : ¬ ∃ dict, held = .value (.obj dict) := by
        rintro ⟨dict, rfl⟩
        exact dictionary ⟨dict, found⟩
      have ran := postInit_no_dictionary other recorded.initialized found (tags held found)
      exact ⟨fresh, ran, rfl, agree⟩

theorem dictToRecord_common (recorded : Recorded names attributes)
    (required : ∀ name ∈ requiredFields, name ∈ names) (now : DateTime) :
    ∃ rebuilt, dictToRecord now (.obj (recordToDict attributes)) = .ok rebuilt ∧
      rebuilt.map Prod.fst = validFields ∧
      ∀ name ∈ validFields, ∀ held, attributes.lookup name = some held →
        rebuilt.lookup name = some held := by
  have given : ∀ name ∈ requiredFields, ∃ held, (known attributes).lookup name = some held := by
    intro name needed
    obtain ⟨field, member, rfl⟩ := List.mem_map.mp needed
    have valid : field.1 ∈ validFields := List.mem_map_of_mem (List.mem_filter.mp member).1
    rw [lookup_known valid]
    exact exists_lookup (recorded.names ▸ required _ needed)
  have agree : ∀ name ∈ validFields, ∀ held, attributes.lookup name = some held →
      (assignFields now (known attributes)).lookup name = some held := by
    intro name valid held its
    obtain ⟨default, declared⟩ := exists_lookup valid
    rw [lookup_assignFields declared]
    simp [assigned, lookup_known valid, its]
  have missing : attributes.lookup "tags".toList = none →
      (assignFields now (known attributes)).lookup "tags".toList = some (.value (.obj [])) := by
    intro none
    have declared : requestFields.lookup "tags".toList = some (.value (.obj [])) := rfl
    rw [lookup_assignFields declared]
    simp only [assigned, lookup_known valid_tags, none, Option.getD_none]
  obtain ⟨rebuilt, ran, fields, common⟩ :=
    postInit_agree recorded (agree _ valid_tags) missing agree
  refine ⟨rebuilt, ?_, ?_, common⟩
  · have parsed := parseFields_recordToDict recorded
    simp only [dictToRecord, Json.dict, bind, Except.bind] at parsed ⊢
    rw [parsed]
    simp only
    rw [construct_eq given, ran]
  · rw [fields, assignFields, List.map_map]
    rfl

/-! ## Where records come from -/

/-- An initialized record stays one where its tags do not change, and filled fields stay filled. -/
theorem initialized_of_agree {fresh : Attributes} (recorded : Recorded names attributes)
    (tags : fresh.lookup "tags".toList = attributes.lookup "tags".toList)
    (filled : ∀ dict, (∀ entry ∈ attributes, fill dict entry = entry) →
      ∀ entry ∈ fresh, fill dict entry = entry) : postInit fresh = .ok fresh := by
  cases found : attributes.lookup "tags".toList with
  | none =>
    rw [postInit, tags, found]
  | some held =>
    by_cases dictionary : ∃ dict, held = .value (.obj dict)
    · obtain ⟨dict, rfl⟩ := dictionary
      rw [postInit_tags (tags.trans found)]
      cases empty : dict.isEmpty with
      | true => rfl
      | false =>
        have each := filled dict (recorded.filled found empty)
        rw [if_neg Bool.false_ne_true, List.map_congr_left each, List.map_id']
    · exact postInit_no_dictionary dictionary recorded.initialized found (tags.trans found)

theorem withEventId_key (uuid7 : Str) (entry : Str × Attribute) :
    (withEventId uuid7 entry).1 = entry.1 := by
  unfold withEventId
  split <;> rfl

theorem lookup_tags_withEventId (uuid7 : Str) (attributes : Attributes) :
    (attributes.map (withEventId uuid7)).lookup "tags".toList = attributes.lookup "tags".toList := by
  apply lookup_mapNamed_kept (withEventId_key uuid7)
  intro held
  have other : "tags".toList ≠ "event_id".toList := by decide
  rw [withEventId, if_neg fun both => other both.1]

theorem Recorded.appendEvent (recorded : Recorded names attributes) (uuid7 : Str) :
    Recorded names (appendEvent uuid7 attributes).1 := by
  have outside : "event_id".toList ∉ correlationFields ∧ "event_id".toList ≠ "timestamp".toList := by
    decide
  refine ⟨?_, ?_, ?_, ?_⟩
  · rw [← recorded.names]
    exact (List.map_map ..).trans (List.map_congr_left fun entry _ => withEventId_key uuid7 entry)
  · refine initialized_of_agree recorded (lookup_tags_withEventId uuid7 attributes) ?_
    intro dict filled entry member
    obtain ⟨before, present, rfl⟩ := List.mem_map.mp member
    unfold withEventId
    split
    · next missing => rw [fill, if_neg fun both => outside.1 (missing.1 ▸ both.1)]
    · exact filled before present
  · intro entry member valid
    obtain ⟨before, present, rfl⟩ := List.mem_map.mp member
    rw [withEventId_key] at valid
    have kind := recorded.kinds before present valid
    unfold withEventId
    split
    · next missing =>
      rw [missing.1]
      simp
    · exact kind
  · intro name value member
    obtain ⟨before, present, same⟩ := List.mem_map.mp member
    unfold withEventId at same
    split at same
    · cases same
      trivial
    · exact recorded.values name value (same ▸ present)

/-- A default for the time stamp is the time, and any other a plain value. -/
def FieldDefault.fits (name : Str) : FieldDefault → Bool
  | .required => true
  | .now => name = "timestamp".toList
  | .value json => name ≠ "timestamp".toList &&
    match json with
    | .null | .int _ | .str _ | .obj [] => true
    | .float (.fin x) => x = 0
    | _ => false

theorem requestFields_fit : ∀ field ∈ requestFields, field.2.fits field.1 = true :=
  List.all_eq_true.mp (by decide +kernel)

theorem isValue_of_fits {name : Str} {json : Json} (fits : (FieldDefault.value json).fits name = true) :
    name ≠ "timestamp".toList ∧ json.IsValue := by
  simp only [FieldDefault.fits, Bool.and_eq_true, decide_eq_true_eq] at fits
  refine ⟨fits.1, ?_⟩
  have plain := fits.2
  split at plain
  · trivial
  · trivial
  · trivial
  · exact ⟨List.nodup_nil, trivial⟩
  · have zero := of_decide_eq_true plain
    subst zero
    exact ⟨⟨0, 0, by norm_num, by norm_num, by norm_num⟩, by norm_num⟩
  · cases plain

/-- An attribute that a record may have under a name. -/
def Admissible (entry : Str × Attribute) : Prop :=
  (entry.1 = "timestamp".toList ↔ ∃ t, entry.2 = .datetime t) ∧
    ∀ json, entry.2 = .value json → json.IsValue

theorem admissible_value {name : Str} {json : Json} (other : name ≠ "timestamp".toList)
    (is : json.IsValue) : Admissible (name, .value json) := by
  refine ⟨⟨fun same => absurd same other, ?_⟩, ?_⟩
  · rintro ⟨t, same⟩
    cases same
  · intro json' same
    cases same
    exact is

theorem admissible_assignFields (given : ∀ name ∈ requiredFields, ∃ held, kwargs.lookup name = some held)
    (admissible : ∀ name ∈ validFields, ∀ held, kwargs.lookup name = some held →
      Admissible (name, held)) : ∀ entry ∈ assignFields now kwargs, Admissible entry := by
  intro entry member
  obtain ⟨⟨name, default⟩, declared, rfl⟩ := List.mem_map.mp member
  have valid : name ∈ validFields := List.mem_map.mpr ⟨_, declared, rfl⟩
  have fits := requestFields_fit _ declared
  simp only [assigned]
  cases found : kwargs.lookup name with
  | some held => exact admissible name valid held found
  | none =>
    cases default with
    | required =>
      have among : name ∈ requiredFields :=
        List.mem_map.mpr ⟨_, List.mem_filter.mpr ⟨declared, rfl⟩, rfl⟩
      obtain ⟨held, missing⟩ := given name among
      rw [found] at missing
      cases missing
    | now =>
      refine ⟨⟨fun _ => ⟨now, rfl⟩, fun _ => of_decide_eq_true fits⟩, ?_⟩
      intro json same
      cases same
    | value json => exact admissible_value (isValue_of_fits fits).1 (isValue_of_fits fits).2

theorem admissible_fill {tags : Fields} (are : (Json.obj tags).IsValue) {entry : Str × Attribute}
    (admissible : Admissible entry) : Admissible (fill tags entry) := by
  unfold fill
  split
  · next missing =>
    have other : entry.1 ≠ "timestamp".toList := by
      intro same
      exact absurd (same ▸ missing.1) (by decide)
    refine admissible_value other ?_
    cases found : tags.lookup entry.1 with
    | none => simp [Fields.getD, Fields.get?, found, Json.IsValue]
    | some json =>
      have is := areFieldValues_iff.mp are.2 _ (mem_of_lookup found)
      simpa [Fields.getD, Fields.get?, found] using is
  · exact admissible

/-- The constructor returns a record, whatever it is called with. -/
theorem recorded_construct
    (given : ∀ name ∈ requiredFields, ∃ held, kwargs.lookup name = some held)
    (admissible : ∀ name ∈ validFields, ∀ held, kwargs.lookup name = some held →
      Admissible (name, held))
    (constructed : construct now kwargs = .ok attributes) : Recorded validFields attributes := by
  rw [construct_eq given] at constructed
  have fresh : ∀ entry ∈ assignFields now kwargs, Admissible entry :=
    admissible_assignFields given admissible
  have names : (assignFields now kwargs).map Prod.fst = validFields := List.map_map ..
  have all : attributes.map Prod.fst = validFields ∧ ∀ entry ∈ attributes, Admissible entry := by
    by_cases dictionary : ∃ tags,
        (assignFields now kwargs).lookup "tags".toList = some (.value (.obj tags))
    · obtain ⟨tags, found⟩ := dictionary
      rw [postInit_tags found] at constructed
      cases constructed
      split
      · exact ⟨names, fresh⟩
      · constructor
        · rw [List.map_map, ← names]
          exact List.map_congr_left fun entry _ => fill_key tags entry
        · intro entry member
          obtain ⟨before, present, rfl⟩ := List.mem_map.mp member
          exact admissible_fill ((fresh _ (mem_of_lookup found)).2 _ rfl) (fresh before present)
    · rw [postInit_other (not_exists.mp dictionary) constructed]
      exact ⟨names, fresh⟩
  refine ⟨all.1, postInit_idem constructed, fun entry member _ => (all.2 entry member).1, ?_⟩
  intro name json member
  exact (all.2 _ member).2 json rfl

theorem validFields_nodup : validFields.Nodup := by decide +kernel

theorem parseLine_lineText (recorded : Recorded names attributes) (distinct : names.Nodup)
    (required : ∀ name ∈ requiredFields, name ∈ names) (now : DateTime) :
    ∃ rebuilt, parseLine now (lineText attributes) = .record rebuilt ∧
      rebuilt.map Prod.fst = validFields ∧
      ∀ name ∈ validFields, ∀ held, attributes.lookup name = some held →
        rebuilt.lookup name = some held := by
  obtain ⟨rebuilt, built, fields, common⟩ := dictToRecord_common recorded required now
  refine ⟨rebuilt, ?_, fields, common⟩
  rw [parseLine, loads_lineText recorded distinct]
  simp only [built]

theorem requiredFields_valid : ∀ name ∈ requiredFields, name ∈ validFields := by
  intro name needed
  obtain ⟨field, member, rfl⟩ := List.mem_map.mp needed
  exact List.mem_map_of_mem (List.mem_filter.mp member).1

end

/-- A record survives the write-ahead log.  What `append_event` wrote is read back as the record
that it left, attribute by attribute; a line of a version with other optional fields gives a record
that agrees on the common ones. -/
theorem wal_round_trip :
    (∀ (now : DateTime) (uuid7 : Str) (record : Attributes), Recorded validFields record →
      parseLine now (appendEvent uuid7 record).2 = .record (appendEvent uuid7 record).1) ∧
    (∀ (now : DateTime) (names : List Str) (record : Attributes), names.Nodup →
      (∀ name ∈ requiredFields, name ∈ names) → Recorded names record →
      ∃ rebuilt, parseLine now (lineText record) = .record rebuilt ∧
        rebuilt.map Prod.fst = validFields ∧
        ∀ name ∈ validFields, ∀ held, record.lookup name = some held →
          rebuilt.lookup name = some held) := by
  constructor
  · intro now uuid7 record recorded
    have appended := recorded.appendEvent uuid7
    obtain ⟨rebuilt, parsed, fields, common⟩ :=
      parseLine_lineText appended validFields_nodup requiredFields_valid now
    have same : (appendEvent uuid7 record).1 = rebuilt := by
      refine eq_of_lookup (appended.names.trans fields.symm) (appended.names ▸ validFields_nodup) ?_
      intro name held found
      have valid : name ∈ validFields :=
        appended.names ▸ List.mem_map.mpr ⟨_, mem_of_lookup found, rfl⟩
      exact common name valid held found
    rw [same]
    exact parsed
  · intro now names record distinct required recorded
    exact parseLine_lineText recorded distinct required now

def noon : DateTime := (civil 2026 7 4 12 0 0 0 7200000000).get rfl

def taggedCall : Attributes :=
  [("provider".toList, .value (.str "openai")), ("model".toList, .value (.str "gpt-4o")),
   ("request_path".toList, .value (.str "/v1/chat")),
   ("tags".toList, .value (.obj [("agent_id".toList, .str "pläner")]))]

/-- The agent of a call is taken from its tags, and read back from the log. -/
theorem tagged_call_survives : ∃ record, construct noon taggedCall = .ok record ∧
    record.lookup "agent_id".toList = some (.value (.str "pläner")) ∧
    parseLine noon (appendEvent "event" record).2 = .record (appendEvent "event" record).1 := by
  obtain ⟨record, constructed, agent⟩ : ∃ record, construct noon taggedCall = .ok record ∧
      record.lookup "agent_id".toList = some (.value (.str "pläner")) := ⟨_, rfl, rfl⟩
  have given : ∀ name ∈ requiredFields, ∃ held, taggedCall.lookup name = some held := by
    have present : ∀ name ∈ requiredFields, (taggedCall.lookup name).isSome = true := by
      decide +kernel
    exact fun name needed => Option.isSome_iff_exists.mp (present name needed)
  have admissible : ∀ entry ∈ taggedCall, Admissible entry := by
    simp only [taggedCall, List.forall_mem_cons]
    refine ⟨admissible_value (by decide) trivial, admissible_value (by decide) trivial,
      admissible_value (by decide) trivial, admissible_value (by decide) ?_, List.forall_mem_nil _⟩
    exact ⟨by simp, trivial, trivial⟩
  have recorded := recorded_construct given
    (fun name _ held found => admissible _ (mem_of_lookup found)) constructed
  exact ⟨record, constructed, agent, wal_round_trip.1 noon "event" record recorded⟩

end BurnLens.Storage
