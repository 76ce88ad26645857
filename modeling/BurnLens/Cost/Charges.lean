import BurnLens.Cost.Counts
import Mathlib.Algebra.Order.Field.Rat
import Mathlib.Algebra.Order.BigOperators.Group.List
import Mathlib.Tactic.Ring

/-! # What is charged for

Every token of a prompt or an answer is charged in one class, and more tokens never cost less: a
count that grows, or a part of a prompt or an answer that grows with it.  A part that grows alone
moves tokens from one rate to another.
-/

namespace BurnLens.Cost

open Library Providers

/-! ## Records -/

/-- A record of the tables: it has rates for input and output, what it gives is positive, and a
    longer prompt is not charged less for. -/
structure PricingRow.Lawful (pricing : PricingRow) : Prop where
  input : pricing.rates.inputPerMillion.isSome
  output : pricing.rates.outputPerMillion.isSome
  positive : ∀ k, ∀ rate ∈ pricing.rates.given k, 0 < rate
  tierPositive : ∀ tier ∈ pricing.tiered, ∀ k, ∀ rate ∈ tier.rates.given k, 0 < rate
  rising : ∀ tier ∈ pricing.tiered, ∀ k,
    pricing.rates.of k ≤ (pricing.rates.update tier.rates).of k
  risingTiers : ∀ lower ∈ pricing.tiered, ∀ higher ∈ pricing.tiered,
    lower.overTokens < higher.overTokens → ∀ k,
      (pricing.rates.update lower.rates).of k ≤ (pricing.rates.update higher.rates).of k

namespace TokenCounts

variable (inclusive : Bool) (c : TokenCounts)

/-- The parts of the prompt are no more than the prompt. -/
def Within : Prop := c.cachedInPrompt inclusive + c.audioInput ≤ c.input

instance : Decidable (c.Within inclusive) := inferInstanceAs (Decidable (_ ≤ _))

/-- The record gives a rate for the kinds of cached tokens that there are. -/
def CachePriced (pricing : PricingRow) : Prop :=
  (0 < c.cacheRead → pricing.rates.cacheReadPerMillion.isSome) ∧
    (0 < c.cacheWrite → pricing.rates.cacheWritePerMillion.isSome)

/-- One count is larger, or a part together with its whole. -/
inductive Grown : TokenCounts → Prop
  | input (n : Nat) : Grown { c with input := c.input + n }
  | output (n : Nat) : Grown { c with output := c.output + n }
  | reasoning (n : Nat) : Grown { c with reasoning := c.reasoning + n }
  | cacheWrite (n : Nat) : Grown { c with cacheWrite := c.cacheWrite + n }
  | cacheRead (n : Nat) : inclusive = false → Grown { c with cacheRead := c.cacheRead + n }
  | cachedPrompt (n : Nat) :
      Grown { c with cacheRead := c.cacheRead + n, input := c.input + n }
  | audioPrompt (n : Nat) :
      Grown { c with audioInput := c.audioInput + n, input := c.input + n }
  | audioAnswer (n : Nat) :
      Grown { c with audioOutput := c.audioOutput + n, output := c.output + n }

end TokenCounts

/-- What a cost of counts charges for, at the rates of a record. -/
structure Charges (inclusive : Bool) (pricing : PricingRow) (cost : TokenCounts → Except PyError Flt) :
    Prop where
  sums : ∀ c : TokenCounts, cost c = if c.Fits inclusive then
    .ok (.fin (c.cost inclusive (pricing.ratesAt c.input))) else .error .overflowError
  prompt : ∀ c : TokenCounts, c.Within inclusive →
    c.charged inclusive .textInput + c.cachedInPrompt inclusive + c.charged inclusive .audioInput =
      c.input
  answer : ∀ c : TokenCounts, c.charged inclusive .textOutput + c.charged inclusive .audioOutput =
    max c.output c.audioOutput
  positive : ∀ c : TokenCounts, c.CachePriced pricing → ∀ k, 0 < c.charged inclusive k →
    0 < (pricing.ratesAt c.input).of k
  grows : ∀ c c' : TokenCounts, c.Within inclusive → c.Grown inclusive c' →
    ∀ x x', cost c = .ok (.fin x) → cost c' = .ok (.fin x') → x ≤ x'
  cachedAlone : inclusive = true → ∀ (c : TokenCounts) (n : Nat), { c with cacheRead := c.cacheRead + n }.Within inclusive →
    ∀ x x', cost c = .ok (.fin x) → cost { c with cacheRead := c.cacheRead + n } = .ok (.fin x') →
      x' = x + n * ((pricing.ratesAt c.input).of .cacheRead -
        (pricing.ratesAt c.input).of .textInput) / 1000000
  audioAlone : ∀ (c : TokenCounts) (n : Nat), { c with audioInput := c.audioInput + n }.Within inclusive →
    ∀ x x', cost c = .ok (.fin x) → cost { c with audioInput := c.audioInput + n } = .ok (.fin x') →
      x' = x + n * ((pricing.ratesAt c.input).of .audioInput -
        (pricing.ratesAt c.input).of .textInput) / 1000000
  audioAnswerAlone : ∀ (c : TokenCounts) (n : Nat), c.audioOutput + n ≤ c.output →
    ∀ x x', cost c = .ok (.fin x) → cost { c with audioOutput := c.audioOutput + n } = .ok (.fin x') →
      x' = x + n * ((pricing.ratesAt c.input).of .audioOutput -
        (pricing.ratesAt c.input).of .textOutput) / 1000000

/-! ## Tiers -/

section

variable {pricing : PricingRow} {tier lower higher : Tier} {tiers : List Tier}
  {active active' : Option Tier} {n m : Nat} {k : TokenClass}

/-- The tier of a longer prompt is that of the shorter one, or one that begins beyond that. -/
theorem activeTier_later (tiers : List Tier) (longer : n ≤ m)
    (within : ∀ t ∈ active, t.overTokens < n)
    (related : active = active' ∨ ∃ t ∈ active', (n : Int) ≤ t.overTokens) :
    (∀ t ∈ activeTier (.int n) tiers active, t.overTokens < n) ∧
      (activeTier (.int n) tiers active = activeTier (.int m) tiers active' ∨
        ∃ t ∈ activeTier (.int m) tiers active', (n : Int) ≤ t.overTokens) := by
  induction tiers generalizing active active' with
  | nil => exact ⟨within, related⟩
  | cons tier tiers inductionHypothesis =>
    have seen : ∀ tokens : Nat, (Number.int tokens).exceeds tier.overTokens = true ↔
        tier.overTokens < tokens := fun tokens => decide_eq_true_iff
    simp only [activeTier, seen]
    apply inductionHypothesis
    · split
      · next taken =>
        intro t its
        exact Option.some.inj its ▸ taken.1
      · exact within
    · obtain rfl | ⟨t, rfl, beyond⟩ := related
      · by_cases above : tier.above active = true
        · by_cases short : tier.overTokens < n
          · left
            rw [if_pos ⟨short, above⟩, if_pos ⟨by omega, above⟩]
          · by_cases long : tier.overTokens < m
            · right
              exact ⟨tier, by rw [if_pos ⟨long, above⟩]; rfl, by omega⟩
            · left
              rw [if_neg fun taken => short taken.1, if_neg fun taken => long taken.1]
        · left
          rw [if_neg fun taken => above taken.2, if_neg fun taken => above taken.2]
      · right
        by_cases taken : tier.overTokens < m ∧ tier.above (some t) = true
        · have higher : t.overTokens < tier.overTokens := of_decide_eq_true taken.2
          exact ⟨tier, by rw [if_pos taken]; rfl, by omega⟩
        · exact ⟨t, by rw [if_neg taken]; rfl, beyond⟩

theorem PricingRow.Lawful.ratesAt_le (lawful : pricing.Lawful) (longer : n ≤ m) (k : TokenClass) :
    (pricing.ratesAt n).of k ≤ (pricing.ratesAt m).of k := by
  have noneOver : ∀ t ∈ (none : Option Tier), t.overTokens < n := by simp
  obtain ⟨within, same | ⟨t, later, beyond⟩⟩ := activeTier_later pricing.tiered longer noneOver (Or.inl rfl)
  · rw [ratesAt, ratesAt, same]
  · have member : t ∈ pricing.tiered := (activeTier_mem later).resolve_right (by simp)
    rw [Option.mem_def] at later
    rw [ratesAt, ratesAt, later]
    cases first : activeTier (.int n) pricing.tiered none with
    | none => exact lawful.rising t member k
    | some s =>
      have below := within s first
      exact lawful.risingTiers s ((activeTier_mem first).resolve_right (by simp)) t member
        (by omega) k

theorem given_update (base changes : Rates) (k : TokenClass) :
    (base.update changes).given k = ((changes.given k).or (base.given k)) := by
  have either : ∀ a b : Option ℚ, (a <|> b) = a.or b := fun a b => by cases a <;> rfl
  cases k <;> exact either _ _

theorem given_ratesAt (pricing : PricingRow) (n : Nat) (k : TokenClass) :
    (pricing.ratesAt n).given k = pricing.rates.given k ∨
      ∃ tier ∈ pricing.tiered, (pricing.ratesAt n).given k =
        (tier.rates.given k).or (pricing.rates.given k) := by
  rw [PricingRow.ratesAt]
  cases active : activeTier (.int n) pricing.tiered none with
  | none => exact Or.inl rfl
  | some tier =>
    exact Or.inr ⟨tier, (activeTier_mem active).resolve_right (by simp), given_update _ _ k⟩

theorem given_ratesAt_isSome (given : (pricing.rates.given k).isSome) :
    ((pricing.ratesAt n).given k).isSome := by
  obtain same | ⟨tier, _, same⟩ := given_ratesAt pricing n k
  · rwa [same]
  · rw [same, Option.isSome_or, given, Bool.or_true]

theorem PricingRow.Lawful.given_pos (lawful : pricing.Lawful) {rate : ℚ}
    (given : rate ∈ (pricing.ratesAt n).given k) : 0 < rate := by
  obtain same | ⟨tier, member, same⟩ := given_ratesAt pricing n k
  · exact lawful.positive k rate (same ▸ given)
  · rw [same, Option.mem_def, Option.or_eq_some_iff] at given
    obtain changed | ⟨_, kept⟩ := given
    · exact lawful.tierPositive tier member k rate changed
    · exact lawful.positive k rate kept

theorem PricingRow.Lawful.of_nonneg (lawful : pricing.Lawful) : 0 ≤ (pricing.ratesAt n).of k := by
  rw [Rates.of]
  cases own : (pricing.ratesAt n).given k with
  | some rate => exact (lawful.given_pos own).le
  | none =>
    cases k.fallback with
    | none => exact le_refl 0
    | some other =>
      cases its : (pricing.ratesAt n).given other with
      | some rate =>
        rw [Option.none_or, Option.bind_some, its]
        exact (lawful.given_pos its).le
      | none =>
        rw [Option.none_or, Option.bind_some, its]
        exact le_refl 0

theorem PricingRow.Lawful.of_pos (lawful : pricing.Lawful)
    (given : ((pricing.ratesAt n).given k).isSome ∨
      ∃ other ∈ k.fallback, ((pricing.ratesAt n).given other).isSome) :
    0 < (pricing.ratesAt n).of k := by
  rw [Rates.of]
  cases own : (pricing.ratesAt n).given k with
  | some rate => exact lawful.given_pos own
  | none =>
    rw [own] at given
    obtain ⟨other, falls, some_⟩ := given.resolve_left Bool.false_ne_true
    obtain ⟨rate, its⟩ := Option.isSome_iff_exists.mp some_
    rw [Option.none_or, falls, Option.bind_some, its]
    exact lawful.given_pos its

/-! ## Charges -/

variable {inclusive : Bool} {c c' : TokenCounts} {rates rates' : Rates}

theorem TokenCounts.cost_le (more : ∀ k, c.charged inclusive k ≤ c'.charged inclusive k)
    (dearer : ∀ k, rates.of k ≤ rates'.of k) (nonneg : ∀ k, 0 ≤ rates.of k) :
    c.cost inclusive rates ≤ c'.cost inclusive rates' := by
  apply List.sum_le_sum
  intro k _
  have counted : (c.charged inclusive k : ℚ) ≤ c'.charged inclusive k := Nat.cast_le.mpr (more k)
  have product : (c.charged inclusive k : ℚ) * rates.of k ≤ c'.charged inclusive k * rates'.of k :=
    mul_le_mul counted (dearer k) (nonneg k) (Nat.cast_nonneg _)
  exact div_le_div_of_nonneg_right product (by norm_num)

/-- Where one count grows, or a part with its whole, no class gets smaller. -/
theorem TokenCounts.Grown.charged_le (grown : c.Grown inclusive c') (k : TokenClass) :
    c.charged inclusive k ≤ c'.charged inclusive k := by
  cases grown with
  | cacheRead n disjoint =>
    subst disjoint
    cases k <;> simp [TokenCounts.charged, TokenCounts.cachedInPrompt]
  | cachedPrompt n =>
    cases inclusive <;> cases k <;>
      simp only [TokenCounts.charged, TokenCounts.cachedInPrompt, if_true, Bool.false_eq_true, if_false] <;>
      omega
  | _ => cases k <;> simp only [TokenCounts.charged, TokenCounts.cachedInPrompt] <;> omega

theorem TokenCounts.Grown.input_le (grown : c.Grown inclusive c') : c.input ≤ c'.input := by
  cases grown <;> simp

theorem TokenCounts.cost_moved {n : Nat} (source target : TokenClass)
    (left : c'.charged inclusive source + n = c.charged inclusive source)
    (arrived : c'.charged inclusive target = c.charged inclusive target + n)
    (others : ∀ k, k ≠ source → k ≠ target → c'.charged inclusive k = c.charged inclusive k)
    (apart : source ≠ target) :
    c'.cost inclusive rates =
      c.cost inclusive rates + n * (rates.of target - rates.of source) / 1000000 := by
  have single : ∀ (t : TokenClass) (x : ℚ),
      (TokenClass.all.map fun k => if k = t then x else 0).sum = x := by
    intro t x
    cases t <;> simp [TokenClass.all]
  have term : ∀ k, (c'.charged inclusive k : ℚ) * rates.of k / 1000000 =
      c.charged inclusive k * rates.of k / 1000000 +
        ((if k = target then n * rates.of target / 1000000 else 0) +
          if k = source then -(n * rates.of source / 1000000) else 0) := by
    intro k
    by_cases isTarget : k = target
    · subst isTarget
      rw [if_pos rfl, if_neg (Ne.symm apart), arrived]
      push_cast
      ring
    · rw [if_neg isTarget]
      by_cases isSource : k = source
      · subst isSource
        rw [if_pos rfl, ← left]
        push_cast
        ring
      · rw [if_neg isSource, others k isSource isTarget]
        ring
  rw [TokenCounts.cost, funext term, List.sum_map_add, List.sum_map_add, single, single, TokenCounts.cost]
  ring

/-- `calculate_cost` at a lawful record. -/
theorem charges_of_sums {cost : TokenCounts → Except PyError Flt} (lawful : pricing.Lawful)
    (sums : ∀ c, cost c = if c.Fits inclusive then
      .ok (.fin (c.cost inclusive (pricing.ratesAt c.input))) else .error .overflowError) :
    Charges inclusive pricing cost := by
  have costs : ∀ {c x}, cost c = .ok (.fin x) →
      x = c.cost inclusive (pricing.ratesAt c.input) := by
    intro c x its
    rw [sums] at its
    split at its
    · cases its
      rfl
    · cases its
  constructor
  · exact sums
  · intro c within
    simp only [TokenCounts.charged, TokenCounts.Within] at within ⊢
    omega
  · intro c
    simp only [TokenCounts.charged]
    omega
  · intro c priced k some_
    apply lawful.of_pos
    cases k with
    | textInput => exact Or.inl (given_ratesAt_isSome lawful.input)
    | textOutput => exact Or.inl (given_ratesAt_isSome lawful.output)
    | reasoning => exact Or.inr ⟨_, rfl, given_ratesAt_isSome lawful.output⟩
    | audioInput => exact Or.inr ⟨_, rfl, given_ratesAt_isSome lawful.input⟩
    | audioOutput => exact Or.inr ⟨_, rfl, given_ratesAt_isSome lawful.output⟩
    | cacheRead => exact Or.inl (given_ratesAt_isSome (priced.1 some_))
    | cacheWrite => exact Or.inl (given_ratesAt_isSome (priced.2 some_))
  · intro c c' _ grown x x' before after
    rw [costs before, costs after]
    exact TokenCounts.cost_le grown.charged_le (lawful.ratesAt_le grown.input_le)
      fun k => lawful.of_nonneg
  · rintro rfl c n within x x' before after
    rw [costs before, costs after]
    apply TokenCounts.cost_moved .textInput .cacheRead
    · simp only [TokenCounts.charged, TokenCounts.Within, TokenCounts.cachedInPrompt, if_true] at within ⊢
      omega
    · rfl
    · intro k notSource notTarget
      cases k <;> first | rfl | exact absurd rfl notSource | exact absurd rfl notTarget
    · decide
  · intro c n within x x' before after
    rw [costs before, costs after]
    apply TokenCounts.cost_moved .textInput .audioInput
    · simp only [TokenCounts.charged, TokenCounts.Within, TokenCounts.cachedInPrompt] at within ⊢
      omega
    · rfl
    · intro k notSource notTarget
      cases k <;> first | rfl | exact absurd rfl notSource | exact absurd rfl notTarget
    · decide
  · intro c n within x x' before after
    rw [costs before, costs after]
    apply TokenCounts.cost_moved .textOutput .audioOutput
    · simp only [TokenCounts.charged]
      omega
    · rfl
    · intro k notSource notTarget
      cases k <;> first | rfl | exact absurd rfl notSource | exact absurd rfl notTarget
    · decide

end

/-- Every token is charged, and more tokens never cost less: at a record of the tables, for
    prompt counts with the cached tokens and without, the classes of a prompt and of an answer sum
    up, each has a positive rate unless the record has none for cached tokens, and the cost does
    not fall where a count grows, or a part together with its whole.  A part that grows alone
    changes the rate of the tokens. -/
theorem pricing_charges (tables : PricingTables) (today : Date) (provider model : Str)
    (pricing : PricingRow)
    (resolved : resolvePricing tables today provider (.str model) = .ok (some pricing))
    (lawful : pricing.Lawful) :
    Charges (includesCache provider) pricing fun c =>
      calculateCost tables today provider (.str model) c.usage :=
  charges_of_sums lawful fun _ => calculateCost_usage resolved

/-! ## A cached prompt -/

/-- A row with a rate for cached tokens, and with higher rates for long prompts. -/
def longContextRow : PricingRow where
  rates := {
    inputPerMillion := some (5 / 2)
    outputPerMillion := some 15
    cacheReadPerMillion := some (1 / 4) }
  tiered := [⟨272000, {
    inputPerMillion := some 5
    outputPerMillion := some (45 / 2)
    cacheReadPerMillion := some (1 / 2) }⟩]

def longContextTables : PricingTables := fun key =>
  if key = "openai" then [("gpt-5.4", longContextRow)] else []

theorem longContextRow_resolved :
    resolvePricing longContextTables 0 "openai" (.str "gpt-5.4") = .ok (some longContextRow) := rfl

theorem longContextRow_lawful : longContextRow.Lawful where
  input := rfl
  output := rfl
  positive k rate given := by
    cases k <;> cases given <;> decide +kernel
  tierPositive tier member k rate given := by
    obtain rfl := List.mem_singleton.mp member
    cases k <;> cases given <;> decide +kernel
  rising tier member k := by
    obtain rfl := List.mem_singleton.mp member
    cases k <;> decide +kernel
  risingTiers lower member higher there := by
    obtain rfl := List.mem_singleton.mp member
    obtain rfl := List.mem_singleton.mp there
    exact fun less => absurd less (Int.lt_irrefl _)

theorem pricing_charges_longContext : Charges (includesCache "openai") longContextRow fun c =>
    calculateCost longContextTables 0 "openai" (.str "gpt-5.4") c.usage :=
  pricing_charges longContextTables 0 "openai" "gpt-5.4" longContextRow longContextRow_resolved
    longContextRow_lawful

/-- A prompt of which more is cached costs less: a thousand tokens, none cached or all. -/
theorem cached_prompt_costs_less :
    ¬ ∀ (tables : PricingTables) (today : Date) (provider model : Str) (pricing : PricingRow),
      resolvePricing tables today provider (.str model) = .ok (some pricing) → pricing.Lawful →
      ∀ (c : TokenCounts) (n : Nat), { c with cacheRead := c.cacheRead + n }.Within (includesCache provider) →
      ∀ x x', calculateCost tables today provider (.str model) c.usage = .ok (.fin x) →
        calculateCost tables today provider (.str model)
          { c with cacheRead := c.cacheRead + n }.usage = .ok (.fin x') → x ≤ x' := by
  intro claim
  have less := claim longContextTables 0 "openai" "gpt-5.4" longContextRow longContextRow_resolved
    longContextRow_lawful { input := 1000 } 1000 (by decide +kernel) (1 / 400) (1 / 4000)
    (by decide +kernel) (by decide +kernel)
  exact absurd less (by decide +kernel)

end BurnLens.Cost
