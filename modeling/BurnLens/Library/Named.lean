import Mathlib.Data.List.Basic

/-! # Named values

Lists of values with names, as the attributes of an object are: what is found under a name when values are
changed or names left out, and that distinct names determine the list.
-/

namespace BurnLens.Library

variable {Name α β : Type*} [BEq Name] [LawfulBEq Name]

theorem lookup_mapNamed {change : Name × α → Name × β} (keeps : ∀ item, (change item).1 = item.1)
    (items : List (Name × α)) (name : Name) :
    (items.map change).lookup name = (items.lookup name).map fun a => (change (name, a)).2 := by
  induction items with
  | nil => rfl
  | cons item items inductionHypothesis =>
    obtain ⟨name', a⟩ := item
    have changed : change (name', a) = (name', (change (name', a)).2) := Prod.ext (keeps _) rfl
    rw [List.map_cons, changed, List.lookup_cons, List.lookup_cons]
    cases same : name == name' with
    | true => simp [eq_of_beq same]
    | false => exact inductionHypothesis

/-- What the change leaves alone under a name is found there as before. -/
theorem lookup_mapNamed_kept {change : Name × α → Name × α} (keeps : ∀ item, (change item).1 = item.1)
    {name : Name} (kept : ∀ a, change (name, a) = (name, a)) (items : List (Name × α)) :
    (items.map change).lookup name = items.lookup name := by
  rw [lookup_mapNamed keeps]
  simp only [kept]
  exact Option.map_id'

theorem lookup_filterNamed {p : Name → Bool} {name : Name} (kept : p name = true)
    (items : List (Name × α)) :
    (items.filter fun item => p item.1).lookup name = items.lookup name := by
  induction items with
  | nil => rfl
  | cons item items inductionHypothesis =>
    obtain ⟨name', a⟩ := item
    rw [List.filter_cons, List.lookup_cons]
    cases same : name == name' with
    | true =>
      have here : p name' = true := eq_of_beq same ▸ kept
      rw [if_pos here, List.lookup_cons, same]
    | false =>
      split
      · rw [List.lookup_cons, same]
        exact inductionHypothesis
      · exact inductionHypothesis

theorem mem_of_lookup {items : List (Name × α)} {name : Name} {a : α}
    (found : items.lookup name = some a) : (name, a) ∈ items := by
  induction items with
  | nil => cases found
  | cons item items inductionHypothesis =>
    obtain ⟨name', b⟩ := item
    rw [List.lookup_cons] at found
    cases same : name == name' with
    | true =>
      rw [same] at found
      cases found
      rw [eq_of_beq same]
      exact List.mem_cons_self
    | false =>
      rw [same] at found
      exact List.mem_cons_of_mem _ (inductionHypothesis found)

theorem exists_lookup {items : List (Name × α)} {name : Name}
    (member : name ∈ items.map Prod.fst) : ∃ a, items.lookup name = some a := by
  induction items with
  | nil => cases member
  | cons item items inductionHypothesis =>
    obtain ⟨name', b⟩ := item
    rw [List.lookup_cons]
    cases same : name == name' with
    | true => exact ⟨b, rfl⟩
    | false =>
      rw [List.map_cons, List.mem_cons] at member
      exact inductionHypothesis (member.resolve_left (beq_eq_false_iff_ne.mp same))

/-- Values with distinct names are known by what is found under each name. -/
theorem eq_of_lookup {items items' : List (Name × α)}
    (names : items.map Prod.fst = items'.map Prod.fst) (distinct : (items.map Prod.fst).Nodup)
    (agree : ∀ name a, items.lookup name = some a → items'.lookup name = some a) :
    items = items' := by
  induction items generalizing items' with
  | nil => exact (List.map_eq_nil_iff.mp names.symm).symm
  | cons item items inductionHypothesis =>
    cases items' with
    | nil => cases names
    | cons item' items' =>
      obtain ⟨name, a⟩ := item
      obtain ⟨name', a'⟩ := item'
      obtain ⟨same, rest⟩ := List.cons.inj names
      simp only at same
      subst same
      rw [List.map_cons, List.nodup_cons] at distinct
      have first := agree name a (by rw [List.lookup_cons, beq_self_eq_true])
      rw [List.lookup_cons, beq_self_eq_true] at first
      have others : items = items' := by
        refine inductionHypothesis rest distinct.2 ?_
        intro other b found
        have apart : (other == name) = false := by
          rw [beq_eq_false_iff_ne]
          intro same
          have present : other ∈ items.map Prod.fst :=
            List.mem_map.mpr ⟨(other, b), mem_of_lookup found, rfl⟩
          exact distinct.1 (same ▸ present)
        have later := agree other b (by rw [List.lookup_cons, apart]; exact found)
        rwa [List.lookup_cons, apart] at later
      rw [Option.some.inj first, others]

end BurnLens.Library
