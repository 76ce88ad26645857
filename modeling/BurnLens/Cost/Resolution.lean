import BurnLens.Cost.Pricing
import BurnLens.Library.BestSoFar
import Mathlib.Data.List.Nodup

/-! # Which rates apply

The three scans of the pricing lookup keep the best entry so far: the longest name that begins
the model's name, the latest price change in effect, the highest threshold that is exceeded.
What they find does not depend on the order in which a pricing file lists them.
-/

namespace BurnLens.Cost

open Library Providers

/-! ## The scans -/

theorem longestPrefix_eq (model : Str) (models : List (Str × PricingRow))
    (best : Option (Str × PricingRow)) : longestPrefix model models best =
      bestSoFar (fun entry => startsWith entry.1 model)
        (fun entry best => best.1.length < entry.1.length) models best := by
  induction models generalizing best with
  | nil => rfl
  | cons entry models inductionHypothesis =>
    cases best with
    | none => simp [longestPrefix, bestSoFar, inductionHypothesis]
    | some best => simp [longestPrefix, bestSoFar, inductionHypothesis]

theorem activeScheduled_eq (today : Date) (tiers : List ScheduledTier)
    (active : Option ScheduledTier) : activeScheduled today tiers active =
      bestSoFar (fun tier => tier.effective ≤ today)
        (fun tier active => active.effective ≤ tier.effective) tiers active := by
  induction tiers generalizing active with
  | nil => rfl
  | cons tier tiers inductionHypothesis =>
    cases active with
    | none => simp [activeScheduled, bestSoFar, inductionHypothesis]
    | some active => simp [activeScheduled, bestSoFar, inductionHypothesis]

theorem activeTier_eq (inputTokens : Number) (tiers : List Tier) (active : Option Tier) :
    activeTier inputTokens tiers active =
      bestSoFar (fun tier => inputTokens.exceeds tier.overTokens)
        (fun tier active => active.overTokens < tier.overTokens) tiers active := by
  induction tiers generalizing active with
  | nil => rfl
  | cons tier tiers inductionHypothesis =>
    cases active with
    | none => simp [activeTier, bestSoFar, Tier.above, inductionHypothesis]
    | some active => simp [activeTier, bestSoFar, Tier.above, inductionHypothesis]

theorem longestPrefix_isBest (model : Str) (models : List (Str × PricingRow)) :
    IsBest (fun entry => startsWith entry.1 model) (fun entry => entry.1.length) models
      (longestPrefix model models none) := by
  rw [longestPrefix_eq]
  exact bestSoFar_isBest (replaces_lt fun entry : Str × PricingRow => entry.1.length) models

theorem activeScheduled_isBest (today : Date) (tiers : List ScheduledTier) :
    IsBest (fun tier => decide (tier.effective ≤ today)) ScheduledTier.effective tiers
      (activeScheduled today tiers none) := by
  rw [activeScheduled_eq]
  exact bestSoFar_isBest (replaces_le ScheduledTier.effective) tiers

theorem activeTier_isBest (inputTokens : Number) (tiers : List Tier) :
    IsBest (fun tier => inputTokens.exceeds tier.overTokens) Tier.overTokens tiers
      (activeTier inputTokens tiers none) := by
  rw [activeTier_eq]
  exact bestSoFar_isBest (replaces_lt Tier.overTokens) tiers

/-! ## The entry of a model -/

/-- Which entry of a table is the base of a model's rates. -/
inductive Resolves (models : List (Str × PricingRow)) (model : Str) : Option PricingRow → Prop where
  | exact (row : PricingRow) (member : (model, row) ∈ models) : Resolves models model (some row)
  | longest (known : Str) (row : PricingRow) (new : ∀ row, (model, row) ∉ models)
      (member : (known, row) ∈ models) (filled : known ≠ []) (starts : startsWith known model = true)
      (most : ∀ other ∈ models, startsWith other.1 model = true → other.1.length ≤ known.length) :
      Resolves models model (some row)
  | unpriced (new : ∀ row, (model, row) ∉ models)
      (nothing : ∀ entry ∈ models, startsWith entry.1 model = true → entry.1 = []) :
      Resolves models model none

/-- `models.get(model)`, and the prefix where there is none. -/
def baseRow (models : List (Str × PricingRow)) (model : Str) : Option PricingRow :=
  match models.lookup model with
  | some row => some row
  | none =>
    match longestPrefix model models none with
    | some (known, row) => if known.isEmpty then none else some row
    | none => none

theorem getModelPricing_eq (tables : PricingTables) (today : Date) (provider model : Str) :
    getModelPricing tables today provider (.str model) =
      .ok ((baseRow (tables (resolvePricingKey provider)) model).map fun row =>
        applyScheduled row today) := by
  rw [getModelPricing]
  cases tables (resolvePricingKey provider) with
  | nil => rfl
  | cons entry models => rfl

theorem baseRow_resolves (models : List (Str × PricingRow)) (model : Str) :
    Resolves models model (baseRow models model) := by
  rw [baseRow]
  cases found : models.lookup model with
  | some row =>
    obtain ⟨front, back, same, -⟩ := List.lookup_eq_some_iff.mp found
    exact .exact row (by simp [same])
  | none =>
    have new : ∀ row, (model, row) ∉ models := by
      intro row member
      have := List.lookup_eq_none_iff.mp found (model, row) member
      simp at this
    have best := longestPrefix_isBest model models
    cases prefixed : longestPrefix model models none with
    | none =>
      rw [prefixed] at best
      refine .unpriced new ?_
      intro entry member starts
      simp [best entry member] at starts
    | some entry =>
      obtain ⟨known, row⟩ := entry
      rw [prefixed] at best
      obtain ⟨member, starts, most⟩ := best
      simp only
      split
      · next empty =>
        refine .unpriced new ?_
        intro entry other startsOther
        have short : entry.1.length ≤ known.length := most entry other startsOther
        rw [List.isEmpty_iff.mp empty, List.length_nil, Nat.le_zero] at short
        exact List.length_eq_zero_iff.mp short
      · next filled =>
        exact .longest known row new member (by simpa using filled) starts most

theorem applyScheduled_latest (row : PricingRow) (today : Date) :
    (applyScheduled row today).rates = row.rates ∧ (∀ tier ∈ row.scheduled, today < tier.effective) ∨
      ∃ tier ∈ row.scheduled, tier.effective ≤ today ∧
        (∀ other ∈ row.scheduled, other.effective ≤ today → other.effective ≤ tier.effective) ∧
        (applyScheduled row today).rates = row.rates.update tier.rates := by
  have best := activeScheduled_isBest today row.scheduled
  rw [applyScheduled]
  cases active : activeScheduled today row.scheduled none with
  | none =>
    rw [active] at best
    left
    exact ⟨rfl, fun tier member => not_le.mp (of_decide_eq_false (best tier member))⟩
  | some tier =>
    rw [active] at best
    obtain ⟨member, begun, latest⟩ := best
    right
    exact ⟨tier, member, of_decide_eq_true begun,
      fun other listed begunOther => latest other listed (decide_eq_true begunOther), rfl⟩

theorem applyTiered_highest {row : PricingRow} {inputTokens : Json} {tokens : Number}
    (counted : inputTokens.number = .ok tokens) :
    applyTiered row inputTokens = .ok row.rates ∧
        (∀ tier ∈ row.tiered, tokens.exceeds tier.overTokens = false) ∨
      ∃ tier ∈ row.tiered, tokens.exceeds tier.overTokens = true ∧
        (∀ other ∈ row.tiered, tokens.exceeds other.overTokens = true →
          other.overTokens ≤ tier.overTokens) ∧
        applyTiered row inputTokens = .ok (row.rates.update tier.rates) := by
  have best := activeTier_isBest tokens row.tiered
  rw [applyTiered]
  split
  · next none =>
    left
    rw [List.isEmpty_iff.mp none]
    exact ⟨rfl, by simp⟩
  · simp only [counted, bind, Except.bind, pure, Except.pure]
    cases active : activeTier tokens row.tiered Option.none with
    | none =>
      rw [active] at best
      exact .inl ⟨rfl, best⟩
    | some tier =>
      rw [active] at best
      obtain ⟨member, exceeded, highest⟩ := best
      exact .inr ⟨tier, member, exceeded, highest, rfl⟩

/-! ## Other orders -/

/-- The same row, with its tiers in another order. -/
structure PricingRow.Reordered (row row' : PricingRow) : Prop where
  rates : row.rates = row'.rates
  scheduled : row.scheduled.Perm row'.scheduled
  tiered : row.tiered.Perm row'.tiered

/-- No two price changes on one date, and no two tiers over one threshold. -/
structure PricingRow.Distinct (row : PricingRow) : Prop where
  dates : (row.scheduled.map ScheduledTier.effective).Nodup
  thresholds : (row.tiered.map Tier.overTokens).Nodup

/-- The same names in another order, with reordered rows. -/
structure Reordered (models models' : List (Str × PricingRow)) : Prop where
  names : (models.map Prod.fst).Perm (models'.map Prod.fst)
  rows : ∀ name row row', (name, row) ∈ models → (name, row') ∈ models' → row.Reordered row'

section

variable {models models' : List (Str × PricingRow)} {model : Str}

theorem mem_names {name : Str} {row : PricingRow} (member : (name, row) ∈ models) :
    name ∈ models.map Prod.fst := List.mem_map_of_mem member

theorem row_of_name {name : Str} (member : name ∈ models.map Prod.fst) :
    ∃ row, (name, row) ∈ models := by
  obtain ⟨⟨key, row⟩, its, rfl⟩ := List.mem_map.mp member
  exact ⟨row, its⟩

theorem row_unique (distinct : (models.map Prod.fst).Nodup) {name : Str} {row row' : PricingRow}
    (member : (name, row) ∈ models) (member' : (name, row') ∈ models) : row = row' := by
  have same := List.inj_on_of_nodup_map distinct member member' rfl
  exact congrArg Prod.snd same

theorem prefix_eq {known known' : Str} (starts : startsWith known model = true)
    (starts' : startsWith known' model = true) (length : known.length = known'.length) :
    known = known' := by
  obtain ⟨rest, same⟩ := startsWith_iff.mp starts
  obtain ⟨rest', same'⟩ := startsWith_iff.mp starts'
  exact (List.append_inj (same.symm.trans same') length).1

theorem Resolves.unique (distinct : (models.map Prod.fst).Nodup) {base base' : Option PricingRow}
    (resolved : Resolves models model base) (resolved' : Resolves models model base') :
    base = base' := by
  cases resolved with
  | exact row member =>
    cases resolved' with
    | exact row' member' => rw [row_unique distinct member member']
    | longest known' row' new' => exact absurd member (new' row)
    | unpriced new' => exact absurd member (new' row)
  | longest known row new member filled starts most =>
    cases resolved' with
    | exact row' member' => exact absurd member' (new row')
    | longest known' row' new' member' filled' starts' most' =>
      have length := le_antisymm (most' _ member starts) (most _ member' starts')
      cases prefix_eq starts starts' length
      rw [row_unique distinct member member']
    | unpriced new' nothing => exact absurd (nothing _ member starts) filled
  | unpriced new nothing =>
    cases resolved' with
    | exact row' member' => exact absurd member' (new row')
    | longest known' row' new' member' filled' starts' => exact absurd (nothing _ member' starts') filled'
    | unpriced => rfl

theorem Resolves.reordered (order : Reordered models models') {base : Option PricingRow}
    (resolved : Resolves models model base) : ∃ base', Resolves models' model base' ∧
      Option.Rel PricingRow.Reordered base base' := by
  have across : ∀ name row, (name, row) ∈ models → ∃ row', (name, row') ∈ models' ∧
      row.Reordered row' := by
    intro name row member
    obtain ⟨row', member'⟩ := row_of_name (order.names.mem_iff.mp (mem_names member))
    exact ⟨row', member', order.rows name row row' member member'⟩
  have back : ∀ entry ∈ models', ∃ row, (entry.1, row) ∈ models :=
    fun entry member => row_of_name (order.names.mem_iff.mpr (mem_names member))
  cases resolved with
  | exact row member =>
    obtain ⟨row', member', same⟩ := across _ _ member
    exact ⟨_, .exact row' member', .some same⟩
  | longest known row new member filled starts most =>
    obtain ⟨row', member', same⟩ := across _ _ member
    refine ⟨_, .longest known row' ?_ member' filled starts ?_, .some same⟩
    · intro other its
      obtain ⟨old, its⟩ := back _ its
      exact new old its
    · intro other its startsOther
      obtain ⟨old, its⟩ := back _ its
      exact most (other.1, old) its startsOther
  | unpriced new nothing =>
    refine ⟨_, .unpriced ?_ ?_, .none⟩
    · intro other its
      obtain ⟨old, its⟩ := back _ its
      exact new old its
    · intro entry its startsEntry
      obtain ⟨old, its⟩ := back _ its
      exact nothing (entry.1, old) its startsEntry

end

section

variable {row row' : PricingRow}

theorem applyScheduled_reordered (order : row.Reordered row') (distinct : row.Distinct) (today : Date) :
    (applyScheduled row today).Reordered (applyScheduled row' today) := by
  have same : activeScheduled today row.scheduled none = activeScheduled today row'.scheduled none := by
    rw [activeScheduled_eq, activeScheduled_eq]
    exact bestSoFar_perm (replaces_le ScheduledTier.effective) order.scheduled
      fun a member b member' _ _ => List.inj_on_of_nodup_map distinct.dates member member'
  rw [applyScheduled, applyScheduled, same]
  cases activeScheduled today row'.scheduled none with
  | none => exact ⟨order.rates, .refl _, order.tiered⟩
  | some tier => exact ⟨congrArg (Rates.update · tier.rates) order.rates, .refl _, order.tiered⟩

theorem applyTiered_reordered (order : row.Reordered row')
    (distinct : (row.tiered.map Tier.overTokens).Nodup) (inputTokens : Json) :
    applyTiered row inputTokens = applyTiered row' inputTokens := by
  have same : ∀ tokens, activeTier tokens row.tiered none = activeTier tokens row'.tiered none := by
    intro tokens
    rw [activeTier_eq, activeTier_eq]
    exact bestSoFar_perm (replaces_lt Tier.overTokens) order.tiered
      fun a member b member' _ _ => List.inj_on_of_nodup_map distinct member member'
  have empty : row.tiered.isEmpty = row'.tiered.isEmpty := by
    rw [Bool.eq_iff_iff, List.isEmpty_iff, List.isEmpty_iff]
    exact ⟨fun none => (none ▸ order.tiered).nil_eq.symm, fun none => (none ▸ order.tiered).eq_nil⟩
  simp only [applyTiered, same, empty, order.rates]

end

/-- The rates of a request: those of its model's row on a date, for this many input tokens. -/
def mergedRates (tables : PricingTables) (today : Date) (provider : Str) (model inputTokens : Json) :
    Except PyError (Option Rates) := do
  match ← getModelPricing tables today provider model with
  | none => return none
  | some row => return some (← applyTiered row inputTokens)

/-- A pricing file: no name occurs twice, and the tiers of a row are distinct. -/
structure DistinctTable (models : List (Str × PricingRow)) : Prop where
  names : (models.map Prod.fst).Nodup
  rows : ∀ entry ∈ models, entry.2.Distinct

theorem Resolves.distinct {models : List (Str × PricingRow)} {model : Str} {row : PricingRow}
    (table : DistinctTable models) (resolved : Resolves models model (some row)) : row.Distinct := by
  cases resolved with
  | exact _ member => exact table.rows _ member
  | longest known _ new member => exact table.rows _ member

theorem mergedRates_reordered {tables tables' : PricingTables}
    (order : ∀ key, Reordered (tables key) (tables' key)) (distinct : ∀ key, DistinctTable (tables key))
    (today : Date) (provider model : Str) (inputTokens : Json) :
    mergedRates tables today provider (.str model) inputTokens =
      mergedRates tables' today provider (.str model) inputTokens := by
  have table := distinct (resolvePricingKey provider)
  have other := order (resolvePricingKey provider)
  have resolved := baseRow_resolves (tables (resolvePricingKey provider)) model
  obtain ⟨base', resolved', same⟩ := resolved.reordered other
  have unique : base' = baseRow (tables' (resolvePricingKey provider)) model :=
    resolved'.unique (other.names.nodup_iff.mp table.names) (baseRow_resolves _ model)
  rw [mergedRates, mergedRates, getModelPricing_eq, getModelPricing_eq, ← unique]
  generalize baseRow (tables (resolvePricingKey provider)) model = base at resolved same
  cases same with
  | none => rfl
  | some rows =>
    have its := resolved.distinct table
    have scheduled := applyScheduled_reordered rows its today
    have thresholds : ∀ row : PricingRow, (applyScheduled row today).tiered = row.tiered := by
      intro row
      rw [applyScheduled]
      split
      · rfl
      · rfl
    have tiered := applyTiered_reordered scheduled (by rw [thresholds]; exact its.thresholds) inputTokens
    simp only [Option.map_some, bind, Except.bind, tiered]

/-- The rates of a request: its model's entry, the latest price change in effect, the highest
    threshold that is exceeded, and the same rates from reordered tables. -/
structure RatesApply (tables tables' : PricingTables) (today : Date) (provider model : Str)
    (inputTokens : Json) : Prop where
  base : ∃ base, Resolves (tables (resolvePricingKey provider)) model base ∧
    getModelPricing tables today provider (.str model) =
      .ok (base.map fun row => applyScheduled row today)
  scheduled : ∀ row, (applyScheduled row today).rates = row.rates ∧
      (∀ tier ∈ row.scheduled, today < tier.effective) ∨
    ∃ tier ∈ row.scheduled, tier.effective ≤ today ∧
      (∀ other ∈ row.scheduled, other.effective ≤ today → other.effective ≤ tier.effective) ∧
      (applyScheduled row today).rates = row.rates.update tier.rates
  tiered : ∀ row tokens, inputTokens.number = .ok tokens →
    applyTiered row inputTokens = .ok row.rates ∧
        (∀ tier ∈ row.tiered, tokens.exceeds tier.overTokens = false) ∨
      ∃ tier ∈ row.tiered, tokens.exceeds tier.overTokens = true ∧
        (∀ other ∈ row.tiered, tokens.exceeds other.overTokens = true →
          other.overTokens ≤ tier.overTokens) ∧
        applyTiered row inputTokens = .ok (row.rates.update tier.rates)
  reordered : mergedRates tables today provider (.str model) inputTokens =
    mergedRates tables' today provider (.str model) inputTokens

/-- Which rates apply does not depend on the order of a pricing file. -/
theorem pricing_order_independent {tables tables' : PricingTables}
    (order : ∀ key, Reordered (tables key) (tables' key)) (distinct : ∀ key, DistinctTable (tables key))
    (today : Date) (provider model : Str) (inputTokens : Json) :
    RatesApply tables tables' today provider model inputTokens where
  base := ⟨_, baseRow_resolves _ model, getModelPricing_eq tables today provider model⟩
  scheduled row := applyScheduled_latest row today
  tiered _ _ counted := applyTiered_highest counted
  reordered := mergedRates_reordered order distinct today provider model inputTokens

def flatRate (rate : ℚ) : Rates := { inputPerMillion := some rate }

/-- A name without a letter begins every model's name, and prices none. -/
theorem empty_name_prices_nothing : startsWith [] ("gpt-4o" : Str) = true ∧
    getModelPricing (fun _ => [([], { rates := flatRate 1 })]) 0 "openai" (.str "gpt-4o") = .ok none :=
  ⟨rfl, rfl⟩

/-- A row with two price changes and two thresholds. -/
def tieredRow : PricingRow where
  rates := flatRate 1
  scheduled := [⟨10, flatRate 2⟩, ⟨20, flatRate 3⟩]
  tiered := [⟨1000, flatRate 4⟩, ⟨2000, flatRate 5⟩]

def reversedRow : PricingRow where
  rates := flatRate 1
  scheduled := [⟨20, flatRate 3⟩, ⟨10, flatRate 2⟩]
  tiered := [⟨2000, flatRate 5⟩, ⟨1000, flatRate 4⟩]

theorem reversedRow_reordered : tieredRow.Reordered reversedRow where
  rates := rfl
  scheduled := .swap _ _ _
  tiered := .swap _ _ _

theorem tieredRow_distinct : tieredRow.Distinct where
  dates := by simp [tieredRow]
  thresholds := by simp [tieredRow]

def listedTables : PricingTables := fun _ => [("gpt-4", tieredRow), ("gpt-4o", tieredRow)]

def reversedTables : PricingTables := fun _ => [("gpt-4o", reversedRow), ("gpt-4", reversedRow)]

theorem reversedTables_reordered (key : Str) : Reordered (listedTables key) (reversedTables key) where
  names := .swap _ _ _
  rows := by
    intro name row row' member member'
    simp only [listedTables, reversedTables, List.mem_cons, Prod.mk.injEq, List.not_mem_nil,
      or_false] at member member'
    have its : row = tieredRow := by
      cases member with
      | inl first => exact first.2
      | inr second => exact second.2
    have other : row' = reversedRow := by
      cases member' with
      | inl first => exact first.2
      | inr second => exact second.2
    rw [its, other]
    exact reversedRow_reordered

theorem listedTables_distinct (key : Str) : DistinctTable (listedTables key) where
  names := by
    simp [listedTables]
  rows := by
    intro entry member
    simp only [listedTables, List.mem_cons, List.not_mem_nil, or_false] at member
    cases member with
    | inl first => exact first ▸ tieredRow_distinct
    | inr second => exact second ▸ tieredRow_distinct

theorem versioned_model_priced :
    RatesApply listedTables reversedTables 15 "openai" "gpt-4o-2024-11-20" (.int 1500) :=
  pricing_order_independent reversedTables_reordered listedTables_distinct 15 "openai"
    "gpt-4o-2024-11-20" (.int 1500)

end BurnLens.Cost
