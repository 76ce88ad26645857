import Mathlib.Data.List.Basic
import Mathlib.Data.Set.Basic

/-! # Entries that belong to someone

A store of entries, each with a key, an owner, and the keys that it refers to.  It is isolated
where no entry refers to what only others have registered; and an insert, which may remove
entries under the key of the new one, keeps it so and leaves the entries of others exactly where
it removes nothing of theirs, refers to nothing of theirs, and nothing of theirs refers to it.
-/

namespace BurnLens.Library

/-! ## Confinement to a view

A result is confined to a view of the state where it is that of the view alone.  Where this is so
exactly under a condition, two states with one view have one result exactly where, of the two,
the second meets the condition if the first does.
-/

section

variable {State Result : Type*} {view : State → State} {result : State → Result}
  {condition : State → Prop} {s s' : State}

/-- The result is that of the view exactly under the condition. -/
def ConfinedUnder (view : State → State) (result : State → Result) (condition : State → Prop) :
    Prop :=
  ∀ s, result s = result (view s) ↔ condition s

theorem ConfinedUnder.same_iff (confined : ConfinedUnder view result condition)
    (agree : view s = view s') (meets : condition s') : result s = result s' ↔ condition s := by
  rw [← confined s, (confined s').mpr meets, agree]

/-- A selection that is as long without the others has none of them. -/
theorem length_filter_eq_iff {Row : Type*} {own : Row → Bool} {rows : List Row} :
    rows.length = (rows.filter own).length ↔ ∀ row ∈ rows, own row = true := by
  rw [eq_comm, List.length_filter_eq_length_iff]

end

structure Entry (Key Owner : Type*) where
  key : Key
  owner : Owner
  references : List Key

variable {Key Owner : Type*} {store store' : Set (Entry Key Owner)} {new : Entry Key Owner}
  {removes : Entry Key Owner → Prop}

def Registered (store : Set (Entry Key Owner)) (key : Key) : Prop := ∃ entry ∈ store, entry.key = key

/-- The owner has an entry of its own under the key. -/
def Owns (store : Set (Entry Key Owner)) (owner : Owner) (key : Key) : Prop :=
  ∃ entry ∈ store, entry.key = key ∧ entry.owner = owner

def Isolated (store : Set (Entry Key Owner)) : Prop :=
  ∀ entry ∈ store, ∀ key ∈ entry.references, Registered store key → Owns store entry.owner key

/-- Under each of these keys all entries have one owner. -/
def Single (exclusive : Key → Prop) (store : Set (Entry Key Owner)) : Prop :=
  ∀ entry ∈ store, ∀ other ∈ store, exclusive entry.key → entry.key = other.key →
    entry.owner = other.owner

/-- What an insert leaves: the new entry, and what it does not remove. -/
structure Inserted (new : Entry Key Owner) (removes : Entry Key Owner → Prop)
    (store store' : Set (Entry Key Owner)) : Prop where
  mem : ∀ entry, entry ∈ store' ↔ entry = new ∨ entry ∈ store ∧ ¬ removes entry
  same : ∀ entry, removes entry → entry.key = new.key

/-- The insert has nothing to do with the entries of others. -/
structure Apart (new : Entry Key Owner) (removes : Entry Key Owner → Prop)
    (store : Set (Entry Key Owner)) : Prop where
  removed : ∀ entry ∈ store, removes entry → entry.owner = new.owner
  refers : ∀ key ∈ new.references, key ≠ new.key → Registered store key →
    Owns store new.owner key
  referred : ∀ entry ∈ store, entry.owner ≠ new.owner → new.key ∈ entry.references →
    Owns store entry.owner new.key

theorem Inserted.new_mem (inserted : Inserted new removes store store') : new ∈ store' :=
  (inserted.mem new).mpr (Or.inl rfl)

/-- What an owner had, it has after an insert that removes nothing of others. -/
theorem Inserted.owns (inserted : Inserted new removes store store')
    (removed : ∀ entry ∈ store, removes entry → entry.owner = new.owner) {owner : Owner} {key : Key}
    (owns : Owns store owner key) : Owns store' owner key := by
  obtain ⟨own, stored, rfl, rfl⟩ := owns
  by_cases gone : removes own
  · exact ⟨new, inserted.new_mem, (inserted.same own gone).symm, (removed own stored gone).symm⟩
  · exact ⟨own, (inserted.mem own).mpr (Or.inr ⟨stored, gone⟩), rfl, rfl⟩

theorem Isolated.insert (isolated : Isolated store) (inserted : Inserted new removes store store')
    (apart : Apart new removes store) : Isolated store' := by
  intro entry member key refers registered
  have own : Owns store' new.owner new.key := ⟨new, inserted.new_mem, rfl, rfl⟩
  obtain rfl | ⟨stored, _⟩ := (inserted.mem entry).mp member
  · by_cases self : key = entry.key
    · rw [self]
      exact own
    · obtain ⟨other, member', rfl⟩ := registered
      obtain rfl | ⟨stored', _⟩ := (inserted.mem other).mp member'
      · exact own
      · exact inserted.owns apart.removed (apart.refers _ refers self ⟨other, stored', rfl⟩)
  · obtain ⟨other, member', rfl⟩ := registered
    obtain rfl | ⟨stored', _⟩ := (inserted.mem other).mp member'
    · by_cases its : entry.owner = other.owner
      · rw [its]
        exact own
      · exact inserted.owns apart.removed (apart.referred entry stored its refers)
    · exact inserted.owns apart.removed (isolated entry stored _ refers ⟨other, stored', rfl⟩)

/-- When an insert keeps a store isolated and the entries of others. -/
theorem isolated_insert_iff (isolated : Isolated store)
    (inserted : Inserted new removes store store') :
    (Isolated store' ∧ ∀ entry ∈ store, entry.owner ≠ new.owner → entry ∈ store') ↔
      Apart new removes store := by
  constructor
  · rintro ⟨isolated', kept⟩
    refine ⟨fun entry stored gone => ?_, fun key refers other registered => ?_,
      fun entry stored foreign refers => ?_⟩
    · by_contra foreign
      obtain rfl | ⟨_, stays⟩ := (inserted.mem entry).mp (kept entry stored foreign)
      · exact foreign rfl
      · exact stays gone
    · obtain ⟨entry, stored, rfl⟩ := registered
      by_cases its : entry.owner = new.owner
      · exact ⟨entry, stored, rfl, its⟩
      · obtain ⟨own, member, same, owner⟩ := isolated' new inserted.new_mem _ refers
          ⟨entry, kept entry stored its, rfl⟩
        obtain rfl | ⟨stored', _⟩ := (inserted.mem own).mp member
        · exact absurd same.symm other
        · exact ⟨own, stored', same, owner⟩
    · obtain ⟨own, member, same, owner⟩ := isolated' entry (kept entry stored foreign) _ refers
        ⟨new, inserted.new_mem, rfl⟩
      obtain rfl | ⟨stored', _⟩ := (inserted.mem own).mp member
      · exact absurd owner.symm foreign
      · exact ⟨own, stored', same, owner⟩
  · intro apart
    refine ⟨isolated.insert inserted apart, fun entry stored foreign => ?_⟩
    exact (inserted.mem entry).mpr (Or.inr ⟨stored, fun gone =>
      foreign (apart.removed entry stored gone)⟩)

theorem Single.insert {exclusive : Key → Prop} (single : Single exclusive store)
    (inserted : Inserted new removes store store')
    (sole : exclusive new.key → ∀ entry ∈ store, entry.key = new.key → ¬ removes entry →
      entry.owner = new.owner) : Single exclusive store' := by
  intro entry member other member' exclusively same
  obtain rfl | ⟨stored, stays⟩ := (inserted.mem entry).mp member
  · obtain rfl | ⟨stored', stays'⟩ := (inserted.mem other).mp member'
    · rfl
    · exact (sole exclusively other stored' same.symm stays').symm
  · obtain rfl | ⟨stored', _⟩ := (inserted.mem other).mp member'
    · exact sole (same ▸ exclusively) entry stored same stays
    · exact single entry stored other stored' exclusively same

end BurnLens.Library
