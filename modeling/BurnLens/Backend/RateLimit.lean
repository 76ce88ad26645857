import BurnLens.Library.Text
import BurnLens.Library.Window
import Mathlib.Algebra.Order.Ring.Rat

/-! # The rate limiter

`RateLimitMiddleware` serves requests on one event loop, where nothing interrupts `check`, at the times
of a clock that never goes back.  The limiter keeps of a client what still counts, and decides as
one that kept every request would.
-/

namespace BurnLens.Backend

open Library

/-! ## The limiter -/

/-- A path prefix and the address of a client. -/
abbrev BucketKey := Str × Str

structure SlidingWindowLimiter where
  buckets : BucketKey → List ℚ := fun _ => []

def SlidingWindowLimiter.check (limiter : SlidingWindowLimiter) (key : BucketKey)
    (maxRequests windowSeconds : Int) (now : ℚ) : Bool × SlidingWindowLimiter :=
  let cutoff := now - windowSeconds
  let bucket := (limiter.buckets key).dropWhile fun t => decide (t < cutoff)
  if maxRequests ≤ bucket.length then (false, ⟨Function.update limiter.buckets key bucket⟩)
  else (true, ⟨Function.update limiter.buckets key (bucket ++ [now])⟩)

structure WebRequest where
  path : Str
  -- `x-forwarded-for`, empty where the header is absent
  forwardedFor : Str := []
  -- `request.client.host`
  host : Option Str := none

/-- `_client_ip`: the last hop of the header. -/
def clientIp (request : WebRequest) : Str :=
  if request.forwardedFor = [] then request.host.getD "unknown"
  else strip ((request.forwardedFor.splitOn ',').getLastD [])

structure RateRule where
  pathPrefix : Str
  maxRequests : Int
  windowSeconds : Int

def defaultRules : List RateRule :=
  [⟨"/auth/login", 10, 60⟩, ⟨"/auth/signup", 5, 60⟩, ⟨"/auth/invite", 20, 60⟩,
   ⟨"/auth/reset-password", 3, 900⟩, ⟨"/auth/resend-verification", 3, 900⟩, ⟨"/v1/ingest", 600, 60⟩]

def matching (rules : List RateRule) (path : Str) : Option RateRule :=
  rules.find? fun rule => startsWith rule.pathPrefix path

inductive RateAnswer where
  -- `call_next`
  | passed
  -- 429 with `Retry-After`
  | limited (retryAfter : Int)
deriving DecidableEq

def dispatch (rules : List RateRule) (limiter : SlidingWindowLimiter) (request : WebRequest) (now : ℚ) :
    RateAnswer × SlidingWindowLimiter :=
  match matching rules request.path with
  | none => (.passed, limiter)
  | some rule =>
    match limiter.check (rule.pathPrefix, clientIp request) rule.maxRequests rule.windowSeconds now with
    | (true, limiter) => (.passed, limiter)
    | (false, limiter) => (.limited rule.windowSeconds, limiter)

structure Served where
  request : WebRequest
  now : ℚ
  answer : RateAnswer

/-- A run of requests with the times at which the limiter reads its clock. -/
def serve (rules : List RateRule) : SlidingWindowLimiter → List (WebRequest × ℚ) → List Served
  | _, [] => []
  | limiter, (request, now) :: arrivals =>
    let dispatched := dispatch rules limiter request now
    ⟨request, now, dispatched.1⟩ :: serve rules dispatched.2 arrivals

section

variable (rules : List RateRule)

def bucketKey (request : WebRequest) : Option BucketKey :=
  (matching rules request.path).map fun rule => (rule.pathPrefix, clientIp request)

/-- The times at which the requests of a bucket passed. -/
def admitted (log : List Served) (key : BucketKey) : List ℚ :=
  (log.filter fun s => s.answer = .passed ∧ bucketKey rules s.request = some key).map Served.now

/-- A request passes where fewer than the allowed number passed within the window. -/
def answerOf (log : List Served) (request : WebRequest) (now : ℚ) : RateAnswer :=
  match matching rules request.path with
  | none => .passed
  | some rule =>
    if rule.maxRequests ≤ (admitted rules log (rule.pathPrefix, clientIp request)).countP
        fun t => decide (now - rule.windowSeconds ≤ t) then .limited rule.windowSeconds
    else .passed

/-- Every answer is the one that the whole log in front of it gives. -/
def Exact (log : List Served) : Prop :=
  ∀ (before : List Served) (s : Served) (after : List Served), log = before ++ s :: after →
    s.answer = answerOf rules before s.request s.now

end

/-! ## What the buckets keep -/

section

variable {rules : List RateRule} {limiter : SlidingWindowLimiter} {log : List Served} {now : ℚ}

/-- The rule of a request is the first with its prefix, so a bucket has one rule. -/
theorem matching_unique {path path' : Str} {rule rule' : RateRule} (found : matching rules path = some rule)
    (found' : matching rules path' = some rule') (same : rule.pathPrefix = rule'.pathPrefix) :
    rule = rule' := by
  have first : ∀ {path : Str} {rule : RateRule}, matching rules path = some rule →
      rules.find? (fun other => other.pathPrefix = rule.pathPrefix) = some rule := by
    intro path rule found
    obtain ⟨starts, before, after, split, earlier⟩ := List.find?_eq_some_iff_append.mp found
    refine List.find?_eq_some_iff_append.mpr ⟨by simp, before, after, split, ?_⟩
    intro other member
    have differs : other.pathPrefix ≠ rule.pathPrefix := by
      intro same
      have skipped := earlier other member
      rw [same, starts] at skipped
      cases skipped
    simpa using differs
  have one := first found
  rw [same, first found'] at one
  exact (Option.some.inj one).symm

/-- A bucket holds the admitted requests that can still count, in order. -/
structure Keeps (rules : List RateRule) (limiter : SlidingWindowLimiter) (log : List Served) (now : ℚ) :
    Prop where
  ascending : ∀ key, (limiter.buckets key).Pairwise (· ≤ ·)
  past : ∀ key, ∀ t ∈ limiter.buckets key, t ≤ now
  recent : ∀ path rule, matching rules path = some rule → ∀ ip cutoff, now - rule.windowSeconds ≤ cutoff →
    (limiter.buckets (rule.pathPrefix, ip)).filter (fun t => decide (cutoff ≤ t)) =
      (admitted rules log (rule.pathPrefix, ip)).filter fun t => decide (cutoff ≤ t)

theorem Keeps.start (now : ℚ) : Keeps rules {} [] now where
  ascending _ := .nil
  past _ _ member := absurd member List.not_mem_nil
  recent _ _ _ _ _ _ := rfl

theorem Keeps.later {now' : ℚ} (keeps : Keeps rules limiter log now) (order : now ≤ now') :
    Keeps rules limiter log now' where
  ascending := keeps.ascending
  past key t member := (keeps.past key t member).trans order
  recent path rule found ip cutoff near :=
    keeps.recent path rule found ip cutoff ((sub_le_sub_right order _).trans near)

theorem admitted_concat (log : List Served) (s : Served) (key : BucketKey) :
    admitted rules (log ++ [s]) key = admitted rules log key ++
      if s.answer = .passed ∧ bucketKey rules s.request = some key then [s.now] else [] := by
  rw [admitted, List.filter_append, List.map_append]
  split <;> simp [admitted, *]

/-- What `check` leaves of a bucket is what counts, and a request that passes. -/
theorem Keeps.update {path : Str} {rule : RateRule} {ip : Str} {s : Served} {more : List ℚ}
    (keeps : Keeps rules limiter log now) (found : matching rules path = some rule)
    (about : bucketKey rules s.request = some (rule.pathPrefix, ip))
    (added : more = if s.answer = .passed then [now] else []) (time : s.now = now) :
    Keeps rules ⟨Function.update limiter.buckets (rule.pathPrefix, ip)
      ((limiter.buckets (rule.pathPrefix, ip)).filter
        (fun t => decide (now - rule.windowSeconds ≤ t)) ++ more)⟩ (log ++ [s]) now := by
  have present : ∀ t ∈ more, t = now := by
    intro t member
    rw [added] at member
    split at member
    · exact List.mem_singleton.mp member
    · cases member
  constructor <;> dsimp only
  · intro key
    by_cases same : key = (rule.pathPrefix, ip)
    · subst same
      rw [Function.update_self, List.pairwise_append]
      refine ⟨(keeps.ascending _).filter _, ?_, ?_⟩
      · rw [added]
        split
        · exact List.pairwise_singleton _ _
        · exact .nil
      · intro t member t' member'
        rw [present t' member']
        exact keeps.past _ t (List.mem_of_mem_filter member)
    · rw [Function.update_of_ne same]
      exact keeps.ascending key
  · intro key t member
    by_cases same : key = (rule.pathPrefix, ip)
    · subst same
      rw [Function.update_self, List.mem_append] at member
      cases member with
      | inl kept => exact keeps.past _ t (List.mem_of_mem_filter kept)
      | inr new => exact (present t new).le
    · rw [Function.update_of_ne same] at member
      exact keeps.past key t member
  · intro path' rule' found' ip' cutoff near
    have before := keeps.recent path' rule' found' ip' cutoff near
    rw [admitted_concat, List.filter_append, ← before]
    by_cases same : (rule'.pathPrefix, ip') = (rule.pathPrefix, ip)
    · have one : rule' = rule := matching_unique found' found (congrArg Prod.fst same)
      subst one
      have narrower : ∀ t, (decide (cutoff ≤ t) && decide (now - rule'.windowSeconds ≤ t)) =
          decide (cutoff ≤ t) := by
        intro t
        rw [Bool.and_eq_left_iff_imp]
        intro fresh
        exact decide_eq_true (near.trans (of_decide_eq_true fresh))
      rw [same, Function.update_self, List.filter_append, List.filter_filter, about, added, time]
      simp only [narrower, and_true]
    · have other : bucketKey rules s.request ≠ some (rule'.pathPrefix, ip') := by
        rw [about]
        exact fun same' => same (Option.some.inj same').symm
      rw [Function.update_of_ne same, if_neg fun both => other both.2, List.filter_nil, List.append_nil]

/-- One request: the answer of the whole log, and the buckets keep what counts. -/
theorem Keeps.dispatch (keeps : Keeps rules limiter log now) (request : WebRequest) :
    (dispatch rules limiter request now).1 = answerOf rules log request now ∧
      Keeps rules (dispatch rules limiter request now).2
        (log ++ [⟨request, now, answerOf rules log request now⟩]) now := by
  rw [Backend.dispatch, answerOf]
  cases found : matching rules request.path with
  | none =>
    refine ⟨rfl, keeps.ascending, keeps.past, ?_⟩
    intro path rule found' ip cutoff near
    have outside : bucketKey rules request = none := by rw [bucketKey, found, Option.map_none]
    rw [admitted_concat, keeps.recent path rule found' ip cutoff near]
    simp [outside]
  | some rule =>
    have about : bucketKey rules request = some (rule.pathPrefix, clientIp request) := by
      rw [bucketKey, found, Option.map_some]
    have counting := keeps.recent _ rule found (clientIp request) _ le_rfl
    simp only [SlidingWindowLimiter.check, dropWhile_eq_filter _ (keeps.ascending _)]
    rw [List.countP_eq_length_filter, ← counting]
    by_cases full : rule.maxRequests ≤ ((limiter.buckets (rule.pathPrefix, clientIp request)).filter
        fun t => decide (now - rule.windowSeconds ≤ t)).length
    · have kept := @Keeps.update rules limiter log now _ rule (clientIp request)
        ⟨request, now, .limited rule.windowSeconds⟩ [] keeps found about rfl rfl
      rw [List.append_nil] at kept
      simp only [full, if_true]
      exact ⟨trivial, kept⟩
    · simp only [full, if_false]
      exact ⟨trivial, keeps.update found about rfl rfl⟩

/-! ## Runs -/

theorem Exact.concat {s : Served} (exact_ : Exact rules log)
    (last : s.answer = answerOf rules log s.request s.now) : Exact rules (log ++ [s]) := by
  intro before s' after split
  obtain rfl | ⟨after, s'', rfl⟩ := List.eq_nil_or_concat after
  · obtain ⟨rfl, same⟩ := List.append_inj' split rfl
    cases same
    exact last
  · rw [List.concat_eq_append, ← List.cons_append, ← List.append_assoc] at split
    exact exact_ before s' after (List.append_inj' split rfl).1

theorem serve_exact {arrivals : List (WebRequest × ℚ)} (keeps : Keeps rules limiter log now)
    (exact_ : Exact rules log) (clock : (arrivals.map Prod.snd).Pairwise (· ≤ ·))
    (later : ∀ arrival ∈ arrivals, now ≤ arrival.2) :
    Exact rules (log ++ serve rules limiter arrivals) := by
  induction arrivals generalizing limiter log now with
  | nil => rwa [serve, List.append_nil]
  | cons arrival arrivals inductionHypothesis =>
    obtain ⟨request, time⟩ := arrival
    obtain ⟨first, rest⟩ := List.pairwise_cons.mp clock
    have reached : Keeps rules limiter log time := keeps.later (later (request, time) List.mem_cons_self)
    obtain ⟨answered, kept⟩ := reached.dispatch request
    rw [← answered] at kept
    rw [serve, ← List.singleton_append, ← List.append_assoc]
    apply inductionHypothesis kept (exact_.concat answered) rest
    intro arrival member
    exact first arrival.2 (List.mem_map_of_mem member)

/-- Where the answers are exact, an admitted request finds fewer than the allowed number. -/
theorem Exact.few {path : Str} {rule : RateRule} (exact_ : Exact rules log)
    (found : matching rules path = some rule) (ip : Str) (before : List ℚ) (t : ℚ) (after : List ℚ)
    (split : admitted rules log (rule.pathPrefix, ip) = before ++ t :: after) :
    before.countP (fun u => decide (t - rule.windowSeconds ≤ u)) < rule.maxRequests.toNat := by
  obtain ⟨front, back, filtered, earlier, here⟩ := List.map_eq_append_iff.mp split
  obtain ⟨s, back', rfl, time, -⟩ := List.map_eq_cons_iff.mp here
  obtain ⟨log₁, log₂, rfl, same, filtered'⟩ := List.filter_eq_append_iff.mp filtered
  obtain ⟨skipped, rest, rfl, none, passes, -⟩ := List.filter_eq_cons_iff.mp filtered'
  have its : admitted rules (log₁ ++ skipped) (rule.pathPrefix, ip) = before := by
    rw [admitted, List.filter_append, same, List.filter_eq_nil_iff.mpr none, List.append_nil, earlier]
  obtain ⟨passed, about⟩ := of_decide_eq_true passes
  obtain ⟨rule', found', key⟩ := Option.map_eq_some_iff.mp about
  have one : rule' = rule := matching_unique found' found (congrArg Prod.fst key)
  have address : clientIp s.request = ip := congrArg Prod.snd key
  subst one
  have answered := exact_ (log₁ ++ skipped) s rest (List.append_assoc ..).symm
  rw [passed, answerOf, found'] at answered
  simp only [address, its] at answered
  split at answered
  · cases answered
  · next fewer =>
    rw [← time]
    omega

end

/-- The limiter admits no more than its rule allows, and refuses nothing else.  In any run each request is
answered as the whole log in front of it says; no interval of the length of a rule's window has more
admitted requests of one client than the rule allows; and what a client writes in front of the last hop of
the header does not change the bucket it is in. -/
theorem limiter_exact (rules : List RateRule) (arrivals : List (WebRequest × ℚ))
    (clock : (arrivals.map Prod.snd).Pairwise (· ≤ ·)) :
    Exact rules (serve rules {} arrivals) ∧
    (∀ path rule, matching rules path = some rule → ∀ ip (start : ℚ),
      (admitted rules (serve rules {} arrivals) (rule.pathPrefix, ip)).countP
        (fun t => decide (start ≤ t ∧ t ≤ start + rule.windowSeconds)) ≤ rule.maxRequests.toNat) ∧
    ∀ path forged hop host, ',' ∉ hop → clientIp ⟨path, forged ++ ',' :: hop, host⟩ = strip hop := by
  have exact_ : Exact rules (serve rules {} arrivals) := by
    cases arrivals with
    | nil =>
      intro before s after split
      rw [serve] at split
      cases before <;> cases split
    | cons arrival arrivals =>
      have start : Exact rules [] := by
        intro before s after split
        cases before <;> cases split
      apply serve_exact (Keeps.start arrival.2) start clock
      intro other member
      cases member with
      | head => exact le_rfl
      | tail _ member => exact (List.pairwise_cons.mp clock).1 other.2 (List.mem_map_of_mem member)
  refine ⟨exact_, ?_, ?_⟩
  · intro path rule found ip start
    exact countP_interval_le (exact_.few found ip) start
  · intro path forged hop host absent
    have hops : (forged ++ ',' :: hop).splitOn ',' = forged.splitOn ',' ++ [hop] := by
      rw [List.splitOn_append_cons_self, List.splitOn_eq_singleton absent]
    have filled : forged ++ ',' :: hop ≠ [] := by simp
    rw [clientIp, if_neg filled, hops, List.getLastD_concat]

/-- Four resets from one address, behind other forged hops. -/
def fourResets : List (WebRequest × ℚ) :=
  [(⟨"/auth/reset-password", "1, 9", none⟩, 0), (⟨"/auth/reset-password", "2, 9", none⟩, 1),
   (⟨"/auth/reset-password", "9", none⟩, 2), (⟨"/auth/reset-password/confirm", "4, 9", none⟩, 3)]

theorem fourth_reset_limited :
    (admitted defaultRules (serve defaultRules {} fourResets) ("/auth/reset-password", "9")).countP
      (fun t => decide ((0 : ℚ) ≤ t ∧ t ≤ 0 + (900 : Int))) ≤ 3 := by
  have clock : (fourResets.map Prod.snd).Pairwise (· ≤ ·) := by
    simp only [fourResets, List.map_cons, List.map_nil]
    decide +kernel
  have rule : matching defaultRules "/auth/reset-password" =
      some ⟨"/auth/reset-password", 3, 900⟩ := by rfl
  exact (limiter_exact defaultRules fourResets clock).2.1 "/auth/reset-password" _ rule "9" 0

end BurnLens.Backend
