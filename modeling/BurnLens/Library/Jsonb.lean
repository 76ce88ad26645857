import BurnLens.Library.Json

/-! # JSON columns

Merging an object into a column and deleting keys of it, with what a deletion takes back of a
merge.
-/

namespace BurnLens.Library

namespace Fields

/-- The fields of both, the new values where a key is in both. -/
def merge (fields new : Fields) : Fields :=
  new.foldl (fun fields field => fields.set field.1 field.2) fields

def eraseKeys (fields : Fields) (keys : List Str) : Fields :=
  fields.filter fun field => !keys.contains field.1

theorem has_iff_mem {fields : Fields} {key : Str} :
    fields.has key = true ↔ key ∈ fields.map Prod.fst := by
  constructor
  · intro present
    by_contra absent
    rw [has, get?_of_not_mem absent] at present
    cases present
  · intro member
    rw [has, get?, Option.isSome_iff_ne_none, Ne, List.lookup_eq_none_iff]
    obtain ⟨field, here, rfl⟩ := List.mem_map.mp member
    intro absent
    exact absurd (beq_self_eq_true field.1) (by simpa using absent field here)

theorem eraseKeys_set (fields : Fields) {keys : List Str} {key : Str} (erased : key ∈ keys)
    (value : Json) : (fields.set key value).eraseKeys keys = fields.eraseKeys keys := by
  have replaced : ∀ fields : Fields, eraseKeys (fields.map fun field =>
      if field.1 = key then (key, value) else field) keys = fields.eraseKeys keys := by
    intro fields
    induction fields with
    | nil => rfl
    | cons field fields inductionHypothesis =>
      simp only [eraseKeys, List.map_cons, List.filter_cons] at inductionHypothesis ⊢
      by_cases same : field.1 = key
      · have gone : keys.contains field.1 = true := by rw [same]; exact List.contains_iff_mem.mpr erased
        have gone' : keys.contains key = true := List.contains_iff_mem.mpr erased
        rw [if_pos same, gone, gone', inductionHypothesis]
        rfl
      · rw [if_neg same, inductionHypothesis]
  rw [set]
  split
  · exact replaced fields
  · rw [eraseKeys, List.filter_append, List.filter_cons, List.contains_iff_mem.mpr erased]
    exact List.append_nil _

/-- A deletion takes back what a merge has added, and what it has replaced too. -/
theorem eraseKeys_merge {keys : List Str} {new : Fields} (erased : ∀ field ∈ new, field.1 ∈ keys)
    (fields : Fields) : (fields.merge new).eraseKeys keys = fields.eraseKeys keys := by
  induction new generalizing fields with
  | nil => rfl
  | cons field new inductionHypothesis =>
    have rest := inductionHypothesis (fun field here => erased field (.tail _ here))
      (fields.set field.1 field.2)
    rw [eraseKeys_set fields (erased field (.head _))] at rest
    exact rest

theorem eraseKeys_eq_self {fields : Fields} {keys : List Str} :
    fields.eraseKeys keys = fields ↔ ∀ key ∈ keys, fields.has key = false := by
  rw [eraseKeys, List.filter_eq_self]
  constructor
  · intro kept key erased
    rw [← Bool.not_eq_true, has_iff_mem]
    intro member
    obtain ⟨field, here, rfl⟩ := List.mem_map.mp member
    have outside := kept field here
    rw [List.contains_iff_mem.mpr erased] at outside
    cases outside
  · intro absent field here
    cases erased : keys.contains field.1 with
    | false => rfl
    | true =>
      have present := has_iff_mem.mpr (List.mem_map_of_mem here)
      rw [absent field.1 (List.contains_iff_mem.mp erased)] at present
      cases present

end Fields

namespace Json

/-- `value || object`: what is no object becomes an array with the object at its end. -/
def concat (new : Fields) : Json → Json
  | obj fields => obj (Fields.merge fields new)
  | arr items => arr (items ++ [obj new])
  | value => arr [value, obj new]

/-- `value - key`: of an array, the texts that are the key. -/
def deleteKey (key : Str) : Json → Except PyError Json
  | obj fields => .ok (obj (Fields.eraseKeys fields [key]))
  | arr items => .ok (arr (items.filter fun item => !item.isText key))
  | _ => .error .databaseError

def deleteKeys (keys : List Str) (value : Json) : Except PyError Json :=
  keys.foldlM (fun value key => value.deleteKey key) value

/-- Has a deletion of the key something to delete? -/
def mentions (key : Str) : Json → Bool
  | obj fields => Fields.has fields key
  | arr items => items.any fun item => item.isText key
  | _ => false

theorem deleteKeys_cons (key : Str) (keys : List Str) (value : Json) :
    deleteKeys (key :: keys) value = (value.deleteKey key >>= deleteKeys keys) :=
  List.foldlM_cons

theorem deleteKeys_obj (keys : List Str) (fields : Fields) :
    deleteKeys keys (obj fields) = .ok (obj (fields.eraseKeys keys)) := by
  induction keys generalizing fields with
  | nil =>
    have kept : fields.eraseKeys [] = fields :=
      Fields.eraseKeys_eq_self.mpr fun _ none => absurd none List.not_mem_nil
    rw [kept]
    rfl
  | cons key keys inductionHypothesis =>
    have both : (fields.eraseKeys [key]).eraseKeys keys = fields.eraseKeys (key :: keys) := by
      rw [Fields.eraseKeys, Fields.eraseKeys, List.filter_filter]
      refine List.filter_congr fun field _ => ?_
      simp [Bool.and_comm]
    rw [deleteKeys_cons, deleteKey]
    exact (inductionHypothesis _).trans (by rw [both])

theorem deleteKeys_arr (keys : List Str) (items : List Json) :
    deleteKeys keys (arr items) =
      .ok (arr (items.filter fun item => keys.all fun key => !item.isText key)) := by
  induction keys generalizing items with
  | nil =>
    have kept : (items.filter fun item => List.all [] fun key => !item.isText key) = items :=
      List.filter_eq_self.mpr fun _ _ => rfl
    rw [kept]
    rfl
  | cons key keys inductionHypothesis =>
    have both : ((items.filter fun item => !item.isText key).filter fun item =>
        keys.all fun key => !item.isText key) =
          items.filter fun item => (key :: keys).all fun key => !item.isText key := by
      simp [List.filter_filter, Bool.and_comm]
    rw [deleteKeys_cons, deleteKey]
    exact (inductionHypothesis _).trans (by rw [both])

theorem deleteKeys_self {keys : List Str} {value other : Json}
    (deleted : deleteKeys keys value = .ok other) :
    other = value ↔ ∀ key ∈ keys, value.mentions key = false := by
  cases value with
  | obj fields =>
    rw [deleteKeys_obj] at deleted
    cases deleted
    rw [obj.injEq]
    exact Fields.eraseKeys_eq_self
  | arr items =>
    rw [deleteKeys_arr] at deleted
    cases deleted
    rw [arr.injEq, List.filter_eq_self]
    simp only [mentions, List.any_eq_false, List.all_eq_true, Bool.not_eq_true']
    exact ⟨fun kept key erased item here => by rw [kept item here key erased]; exact Bool.false_ne_true,
      fun absent item here key erased => Bool.eq_false_of_not_eq_true (absent key erased item here)⟩
  | _ =>
    cases keys with
    | nil =>
      cases deleted
      simp
    | cons key keys => cases deleted

theorem mentions_of_error {keys : List Str} {value : Json} {error : PyError}
    (raised : deleteKeys keys value = .error error) (key : Str) : value.mentions key = false := by
  cases value with
  | obj fields =>
    rw [deleteKeys_obj] at raised
    cases raised
  | arr items =>
    rw [deleteKeys_arr] at raised
    cases raised
  | _ => rfl

/-- What a deletion of the merged keys leaves is the value before if and only if this was an object
    without them. -/
theorem deleteKeys_concat {keys : List Str} {new : Fields}
    (erased : ∀ field ∈ new, field.1 ∈ keys) (value : Json) :
    ∃ other, deleteKeys keys (value.concat new) = .ok other ∧
      (other = value ↔ (∃ fields, value = obj fields) ∧ ∀ key ∈ keys, value.mentions key = false) := by
  have noText : ∀ key, isText key (obj new) = false := fun _ => rfl
  cases value with
  | obj fields =>
    refine ⟨_, deleteKeys_obj _ _, ?_⟩
    rw [Fields.eraseKeys_merge erased, obj.injEq]
    exact ⟨fun kept => ⟨⟨fields, rfl⟩, Fields.eraseKeys_eq_self.mp kept⟩,
      fun ⟨_, absent⟩ => Fields.eraseKeys_eq_self.mpr absent⟩
  | arr items =>
    refine ⟨_, deleteKeys_arr _ _, ?_⟩
    constructor
    · intro same
      rw [arr.injEq] at same
      -- the object that was appended stays, and so do all the items
      have kept : (items.filter fun item => keys.all fun key => !item.isText key) = items := by
        refine List.filter_eq_self.mpr fun item here => ?_
        rw [← same] at here
        exact (List.mem_filter.mp here).2
      have long := congrArg List.length same
      simp [List.filter_append, kept, noText] at long
    · rintro ⟨⟨_, other⟩, -⟩
      cases other
  | _ =>
    refine ⟨_, deleteKeys_arr _ _, fun same => ?_, ?_⟩
    · cases same
    · rintro ⟨⟨_, other⟩, -⟩
      cases other

end Json

end BurnLens.Library
