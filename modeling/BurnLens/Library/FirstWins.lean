import Mathlib.Data.List.Induction
import Mathlib.Data.List.Nodup

/-! # Imports that keep the first

Entries with a key go into a store that ignores an entry whose key it has.  Where the entries of
one key are the same, the store has what was imported in whatever portions and however often; and
a sum over the entries is one over the store where the repeated ones count for nothing.
-/

namespace BurnLens.Library

variable {Entry Key : Type*} [DecidableEq Key] (key : Entry → Key)

def insertNew (rows : List Entry) (entry : Entry) : List Entry :=
  if rows.any fun row => key row = key entry then rows else rows ++ [entry]

def importAll (rows entries : List Entry) : List Entry := entries.foldl (insertNew key) rows

variable {key} {rows entries : List Entry} {entry x : Entry}

def SameByKey (key : Entry → Key) (entries : List Entry) : Prop :=
  ∀ a ∈ entries, ∀ b ∈ entries, key a = key b → a = b

theorem insertNew_of_known (known : ∃ row ∈ rows, key row = key entry) :
    insertNew key rows entry = rows := by
  rw [insertNew, if_pos]
  simpa using known

theorem insertNew_of_new (new : ∀ row ∈ rows, key row ≠ key entry) :
    insertNew key rows entry = rows ++ [entry] := by
  rw [insertNew, if_neg]
  simpa using new

theorem importAll_append (more : List Entry) :
    importAll key rows (entries ++ more) = importAll key (importAll key rows entries) more :=
  List.foldl_append

theorem mem_of_mem_insertNew (member : x ∈ insertNew key rows entry) : x ∈ rows ∨ x = entry := by
  rw [insertNew] at member
  split at member
  · exact Or.inl member
  · simpa using member

theorem mem_of_mem_importAll (member : x ∈ importAll key rows entries) : x ∈ rows ∨ x ∈ entries := by
  induction entries generalizing rows with
  | nil => exact Or.inl member
  | cons entry entries inductionHypothesis =>
    obtain stored | later := inductionHypothesis member
    · obtain old | rfl := mem_of_mem_insertNew stored
      · exact Or.inl old
      · exact Or.inr List.mem_cons_self
    · exact Or.inr (List.mem_cons_of_mem _ later)

theorem subset_importAll : rows ⊆ importAll key rows entries := by
  induction entries generalizing rows with
  | nil => exact fun _ member => member
  | cons entry entries inductionHypothesis =>
    intro row member
    apply inductionHypothesis
    rw [insertNew]
    split
    · exact member
    · exact List.mem_append_left _ member

theorem key_mem_importAll (member : entry ∈ entries) :
    ∃ row ∈ importAll key rows entries, key row = key entry := by
  induction entries generalizing rows with
  | nil => cases member
  | cons first entries inductionHypothesis =>
    obtain rfl | later := List.mem_cons.mp member
    · by_cases known : ∃ row ∈ rows, key row = key entry
      · obtain ⟨row, stored, same⟩ := known
        exact ⟨row, subset_importAll stored, same⟩
      · have new : insertNew key rows entry = rows ++ [entry] :=
          insertNew_of_new fun row stored same => known ⟨row, stored, same⟩
        have stored : entry ∈ insertNew key rows entry := by
          rw [new]
          exact List.mem_append_right _ List.mem_cons_self
        have kept : entry ∈ importAll key (insertNew key rows entry) entries :=
          subset_importAll stored
        exact ⟨entry, kept, rfl⟩
    · exact inductionHypothesis later

theorem nodup_importAll (distinct : (rows.map key).Nodup) :
    ((importAll key rows entries).map key).Nodup := by
  induction entries generalizing rows with
  | nil => exact distinct
  | cons entry entries inductionHypothesis =>
    apply inductionHypothesis
    rw [insertNew]
    split
    · exact distinct
    · next new =>
      rw [List.map_append, List.map_singleton]
      apply distinct.append (List.nodup_singleton _)
      simpa using new

theorem filter_key (distinct : (rows.map key).Nodup) (stored : x ∈ rows) :
    rows.filter (fun row => key row = key x) = [x] := by
  induction rows with
  | nil => cases stored
  | cons row rows inductionHypothesis =>
    obtain ⟨apart, distinct⟩ := List.nodup_cons.mp distinct
    obtain rfl | later := List.mem_cons.mp stored
    · rw [List.filter_cons_of_pos (by simp), List.filter_eq_nil_iff.mpr]
      intro other member
      simpa using fun same : key other = key x => apart (same ▸ List.mem_map_of_mem member)
    · have other : key row ≠ key x := fun same => apart (same ▸ List.mem_map_of_mem later)
      rw [List.filter_cons_of_neg (by simpa using other)]
      exact inductionHypothesis distinct later

/-- What an import leaves, where the entries of one key are the same. -/
theorem mem_importAll {pool : List Entry} (same : SameByKey key pool) (stored : rows ⊆ pool)
    (imported : entries ⊆ pool) : x ∈ importAll key rows entries ↔ x ∈ rows ∨ x ∈ entries := by
  constructor
  · exact mem_of_mem_importAll
  · rintro (old | new)
    · exact subset_importAll old
    · have found : ∃ row ∈ importAll key rows entries, key row = key x := key_mem_importAll new
      obtain ⟨row, member, keyed⟩ := found
      have its : row ∈ pool := by
        obtain old | later := mem_of_mem_importAll member
        · exact stored old
        · exact imported later
      rwa [← same row its x (imported new) keyed]

/-- A sum over the entries is one over the store, where a repeated entry counts for nothing. -/
theorem foldl_importAll {Amount : Type*} (add : Amount → Entry → Amount) (start : Amount)
    (repeated : entries.Pairwise fun a b => key a = key b → ∀ sum, add sum b = sum) :
    (importAll key [] entries).foldl add start = entries.foldl add start := by
  induction entries using List.reverseRecOn with
  | nil => rfl
  | append_singleton entries entry inductionHypothesis =>
    obtain ⟨earlier, -, last⟩ := List.pairwise_append.mp repeated
    rw [importAll_append, List.foldl_append, ← inductionHypothesis earlier]
    change (insertNew key _ entry).foldl add start = _
    by_cases known : ∃ row ∈ importAll key [] entries, key row = key entry
    · rw [insertNew_of_known known]
      obtain ⟨row, stored, same⟩ := known
      obtain ⟨⟨⟩⟩ | before := mem_of_mem_importAll stored
      exact (last row before entry List.mem_cons_self same _).symm
    · rw [insertNew_of_new fun row stored same => known ⟨row, stored, same⟩, List.foldl_append]

end BurnLens.Library
