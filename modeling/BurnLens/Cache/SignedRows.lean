import BurnLens.Cache.LookupPaths

/-! # Signed rows

What a lookup serves of a table that anyone may write.  A row that has a signature is served only with a
body that was saved under the key: for whichever prompt, customer and query, as the body is all that is
signed.  A row without a signature is served as it is.
-/

namespace BurnLens.Cache

open Library

inductive TableEvent where
  | save (saved : PendingSave) (embedding : Str) (now : Time) (ttlSeconds : Int)
  -- whoever else writes the table makes it what they like
  | write (rows : List EmbeddedRow)

section Tables

variable (digests : Digests) (secretKey : Option Str)

def TableEvent.apply (rows : List EmbeddedRow) : TableEvent → List EmbeddedRow
  | .save saved embedding now ttlSeconds =>
    let row : EmbeddedRow := { saved.row digests now ttlSeconds secretKey with embedding }
    rows.filter (fun other => other.id ≠ row.id) ++ [row]
  | .write rows => rows

def tableAfter (events : List TableEvent) : List EmbeddedRow :=
  events.foldl (TableEvent.apply digests secretKey) []

def TableEvent.saved : TableEvent → Option PendingSave
  | .save saved .. => some saved
  | .write _ => none

def savedBodies (events : List TableEvent) : List (List UInt8) :=
  (events.filterMap TableEvent.saved).map PendingSave.responseBody

end Tables

/-- Nobody who writes the table has the signature of a body that was not saved before. -/
def Unforgeable (digests : Digests) (secret : Str) (events : List TableEvent) : Prop :=
  ∀ earlier rows later, events = earlier ++ .write rows :: later → ∀ row ∈ rows, ∀ body,
    row.signature = some (digests.hmac secret body) → body ∈ savedBodies earlier

/-! ## The row that is served -/

def exactRow (digests : Digests) (secretKey : Option Str) (limit : LimitOne) (rows : List CacheRow)
    (key : CacheKey) (now : Time) : Option CacheRow :=
  (limit.pick (rows.filter fun row => row.selected key now)).filter fun row =>
    row.verifies digests secretKey

theorem lookupExact_eq (digests : Digests) (secretKey : Option Str) (limit : LimitOne)
    (rows : List CacheRow) (key : CacheKey) (now : Time) :
    lookupExact digests secretKey limit rows key now =
      (exactRow digests secretKey limit rows key now).map CacheRow.answer := by
  rw [lookupExact, exactRow]
  cases limit.pick (rows.filter fun row => row.selected key now) with
  | none => rfl
  | some row =>
    rw [Option.bind_some, Option.filter_some]
    split <;> rfl

section Semantic

variable {K : Type} [Field K] [LinearOrder K]

/-- With numpy, or without it. -/
inductive ComparePath (K : Type) [Field K] [LinearOrder K] where
  | vectorised (numpy : Numpy K)
  | plain

def ComparePath.compare (loads : Str → Option Json) :
    ComparePath K → List K → List EmbeddedRow → Option (K × Option EmbeddedRow)
  | .vectorised numpy => compareNumpy numpy loads
  | .plain => comparePlain loads

def SemanticCall.served (call : SemanticCall K) (path : ComparePath K) (rows : List EmbeddedRow) :
    Option EmbeddedRow :=
  if call.query = [] then none
  else (path.compare call.loads call.query (call.scope rows)).bind fun best =>
    best.2.filter fun row =>
      decide (call.similarityThreshold ≤ best.1) && row.verifies call.digests call.secretKey

theorem lookup_eq (call : SemanticCall K) (path : ComparePath K) (rows : List EmbeddedRow) :
    call.lookup rows (path.compare call.loads) =
      (call.served path rows).map fun row => row.toCacheRow.answer := by
  rw [SemanticCall.served]
  split
  · next unasked => exact if_pos unasked
  · next asked =>
    rw [SemanticCall.lookup_of_query asked]
    cases path.compare call.loads call.query (call.scope rows) with
    | none => rfl
    | some best =>
      obtain ⟨sim, row⟩ := best
      cases row with
      | none => rfl
      | some row =>
        apply Option.ext
        intro answer
        rw [SemanticCall.serve_some]
        by_cases near : call.similarityThreshold ≤ sim
        · cases good : row.verifies call.digests call.secretKey <;> simp [Option.filter, good, near]
        · simp [Option.filter, near]

theorem compare_mem (path : ComparePath K) {loads : Str → Option Json} {query : List K}
    {rows : List EmbeddedRow} {sim : K} {row : EmbeddedRow}
    (best : path.compare loads query rows = some (sim, some row)) : row ∈ rows := by
  cases path with
  | vectorised numpy =>
    simp only [ComparePath.compare, compareNumpy] at best
    split at best
    · cases best
    · simp only [Option.bind_eq_bind, Option.bind_eq_some_iff, Option.pure_def, Option.some.injEq,
        Prod.mk.injEq] at best
      obtain ⟨⟨i, _⟩, -, potential, found, -, rfl⟩ := best
      obtain ⟨stored, among, its⟩ := List.mem_filterMap.mp (List.mem_of_getElem? found)
      obtain ⟨embedding, -, rfl⟩ := Option.map_eq_some_iff.mp its
      exact among
  | plain =>
    have scanned : ∀ (rows : List EmbeddedRow) (start : K × Option EmbeddedRow) row,
        (rows.foldl (compareStep loads query) start).2 = some row → start.2 = some row ∨ row ∈ rows := by
      intro rows
      induction rows with
      | nil => exact fun _ _ kept => Or.inl kept
      | cons head rows inductionHypothesis =>
        intro start row kept
        obtain stepped | later := inductionHypothesis _ _ kept
        · rw [compareStep] at stepped
          split at stepped
          · exact Or.inl stepped
          · split at stepped
            · exact Or.inr (List.mem_cons.mpr (Or.inl (Option.some.inj stepped).symm))
            · exact Or.inl stepped
        · exact Or.inr (List.mem_cons_of_mem _ later)
    obtain started | among := scanned rows (-1, none) row (congrArg Prod.snd (Option.some.inj best))
    · cases started
    · exact among

end Semantic

/-! ## Signatures -/

section Signed

variable {digests : Digests} {secret : Str} {events : List TableEvent}

/-- `if stored_sig`. -/
def CacheRow.hasSignature (row : CacheRow) : Bool := row.signature.any fun signature => signature ≠ []

theorem signature_of_verifies {row : CacheRow} (given : secret ≠ [])
    (good : row.verifies digests (some secret) = true) (signed : row.hasSignature = true) :
    row.signature = some (digests.hmac secret row.responseBody) := by
  obtain ⟨signature, stored, nonempty⟩ := (Option.any_eq_true _ _).mp signed
  cases secret with
  | nil => exact absurd rfl given
  | cons c secret =>
    cases signature with
    | nil => exact absurd nonempty (by decide)
    | cons s signature =>
      simp only [CacheRow.verifies, stored, Bool.and_eq_true, decide_eq_true_eq] at good
      rw [stored, good.2]

theorem savedBodies_append (earlier later : List TableEvent) :
    savedBodies (earlier ++ later) = savedBodies earlier ++ savedBodies later := by
  rw [savedBodies, List.filterMap_append, List.map_append]
  rfl

/-- The signature of a row's own body is of a body that was saved. -/
theorem saved_of_signature (unforgeable : Unforgeable digests secret events) {row : EmbeddedRow}
    (stored : row ∈ tableAfter digests (some secret) events)
    (signed : row.signature = some (digests.hmac secret row.responseBody)) :
    row.responseBody ∈ savedBodies events := by
  induction events using List.reverseRecOn with
  | nil => cases stored
  | append_singleton events event inductionHypothesis =>
    have earlier : Unforgeable digests secret events := by
      intro before rows after split
      apply unforgeable before rows (after ++ [event])
      rw [split, List.append_assoc]
      rfl
    rw [tableAfter, List.foldl_append] at stored
    rw [savedBodies_append, List.mem_append]
    cases event with
    | save saved embedding now ttlSeconds =>
      obtain kept | added := List.mem_append.mp stored
      · exact Or.inl (inductionHypothesis earlier (List.mem_of_mem_filter kept))
      · right
        rw [List.mem_singleton.mp added]
        exact List.mem_singleton_self _
    | write rows => exact Or.inl (unforgeable events rows [] rfl row stored _ signed)

/-- The table that a call reads, after the events. -/
def SemanticCall.table {K : Type} (call : SemanticCall K) (events : List TableEvent) : List EmbeddedRow :=
  tableAfter call.digests call.secretKey events

def SemanticCall.storedRows {K : Type} (call : SemanticCall K) (events : List TableEvent) :
    List CacheRow :=
  (call.table events).map EmbeddedRow.toCacheRow

def SemanticCall.exactRow {K : Type} (call : SemanticCall K) (limit : LimitOne)
    (events : List TableEvent) : Option CacheRow :=
  Cache.exactRow call.digests call.secretKey limit (call.storedRows events) call.key call.now

/-- The row is of the prompt and the customer, and if it is signed its body was saved. -/
structure CacheRow.Authentic (row : CacheRow) (events : List TableEvent) (key : CacheKey) (now : Time) :
    Prop where
  inScope : row.inScope key now = true
  saved : row.hasSignature = true → row.responseBody ∈ savedBodies events

end Signed

/-- A signed row is served only with a body that was saved under the key, for the prompt and the
customer that its columns say. -/
theorem signed_rows_saved {K : Type} [Field K] [LinearOrder K] (call : SemanticCall K) (secret : Str)
    (keyed : call.secretKey = some secret) (given : secret ≠ []) (events : List TableEvent)
    (unforgeable : Unforgeable call.digests secret events) :
    (∀ limit, lookupExact call.digests call.secretKey limit (call.storedRows events) call.key call.now =
        (call.exactRow limit events).map CacheRow.answer ∧
      ∀ row, call.exactRow limit events = some row →
        row.key.Found call.key ∧ row.Authentic events call.key call.now) ∧
    ∀ path, call.lookup (call.table events) (path.compare call.loads) =
        (call.served path (call.table events)).map (fun row => row.toCacheRow.answer) ∧
      ∀ row, call.served path (call.table events) = some row →
        row.Authentic events call.key call.now := by
  have saved : ∀ row ∈ call.table events,
      row.verifies call.digests call.secretKey = true → row.hasSignature = true →
        row.responseBody ∈ savedBodies events := by
    intro row stored good signed
    rw [SemanticCall.table, keyed] at stored
    rw [keyed] at good
    exact saved_of_signature unforgeable stored (signature_of_verifies given good signed)
  constructor
  · refine fun limit => ⟨lookupExact_eq .., fun row served => ?_⟩
    obtain ⟨picked, good⟩ := Option.filter_eq_some_iff.mp served
    obtain ⟨member, selects⟩ := List.mem_filter.mp (limit.mem picked)
    obtain ⟨stored, among, rfl⟩ := List.mem_map.mp member
    have selected := selects
    simp only [CacheRow.selected, Bool.and_eq_true] at selected
    refine ⟨found_of_selected selects, ?_, saved stored among good⟩
    simp only [CacheRow.inScope, Bool.and_eq_true]
    exact ⟨⟨selected.1.1.1, selected.1.2⟩, selected.2⟩
  · refine fun path => ⟨lookup_eq .., fun row served => ?_⟩
    rw [SemanticCall.served] at served
    split at served
    · cases served
    · obtain ⟨⟨sim, best⟩, compared, filtered⟩ := Option.bind_eq_some_iff.mp served
      obtain ⟨found, good⟩ := Option.filter_eq_some_iff.mp filtered
      obtain rfl : best = some row := found
      obtain ⟨stored, within⟩ := List.mem_filter.mp (compare_mem path compared)
      rw [Bool.and_eq_true] at good
      exact ⟨within, saved row stored good.2⟩

/-! ## Forged rows -/

theorem unforgeable_write {digests : Digests} {secret : Str} {saves : List TableEvent}
    {rows : List EmbeddedRow} (silent : ∀ event ∈ saves, event.saved ≠ none)
    (honest : ∀ row ∈ rows, ∀ body, row.signature = some (digests.hmac secret body) →
      body ∈ savedBodies saves) : Unforgeable digests secret (saves ++ [.write rows]) := by
  intro earlier written later split
  obtain ⟨as, rfl, rest⟩ | ⟨bs, rfl, rest⟩ := List.append_eq_append_iff.mp split
  · cases as with
    | nil =>
      obtain rfl := TableEvent.write.inj (List.cons.inj rest).1
      rwa [List.append_nil]
    | cons event as => exact absurd (List.cons.inj rest).2 (by simp)
  · cases bs with
    | nil =>
      obtain rfl := TableEvent.write.inj (List.cons.inj rest).1
      rwa [List.append_nil] at honest
    | cons event bs =>
      obtain ⟨rfl, -⟩ := List.cons.inj rest
      exact absurd rfl (silent _ (List.mem_append_right _ List.mem_cons_self))

def macDigests : Digests :=
  { plainDigests with hmac := fun _ body => if body = [123, 125] then "mac" else "other" }

def signedCall (queryText : Str) : SemanticCall ℚ :=
  { askedHello with digests := macDigests, secretKey := some "key", key := question queryText }

def signedRow : EmbeddedRow :=
  { (answered "Hello").row macDigests 0 0 (some "key") with embedding := "[1.0, 0.0]" }

/-- Saves under the key, and then the table is written. -/
def rewritten (saves : List PendingSave) (row : EmbeddedRow) : List TableEvent :=
  saves.map (fun saved => .save saved "[1.0, 0.0]" 0 0) ++ [.write [row]]

theorem rewritten_unforgeable {row : EmbeddedRow} (signature : row.signature = signedRow.signature) :
    Unforgeable macDigests "key" (rewritten [answered "Hello"] row) := by
  apply unforgeable_write
  · intro event member
    rw [List.mem_singleton.mp member]
    exact Option.some_ne_none _
  · intro written member body signed
    rw [List.mem_singleton.mp member, signature] at signed
    by_cases its : body = [123, 125]
    · rw [its]
      exact List.mem_singleton_self _
    · have other : macDigests.hmac "key" body = "other" := if_neg its
      rw [other] at signed
      exact absurd signed (by decide +kernel)

theorem signed_row_served :
    ([123, 125] : List UInt8) ∈ savedBodies (rewritten [answered "Hello"] signedRow) := by
  have served : (signedCall "Hello").exactRow .first (rewritten [answered "Hello"] signedRow) =
      some signedRow.toCacheRow := by
    rfl
  exact (((signed_rows_saved (signedCall "Hello") "key" rfl (by decide) _
    (rewritten_unforgeable rfl)).1 .first).2 _ served).2.saved (by decide +kernel)

/-- A row with another key is the signed one; one without a signature is nobody's. -/
def transplantedRow : EmbeddedRow := { signedRow with key := question "Goodbye" }

def unsignedRow : EmbeddedRow := { signedRow with signature := none }

theorem forged_rows_served :
    (Unforgeable macDigests "key" (rewritten [answered "Hello"] transplantedRow) ∧
      lookupExact macDigests (some "key") .first
        ((signedCall "Goodbye").storedRows (rewritten [answered "Hello"] transplantedRow))
          (question "Goodbye") 0 = some (answered "Hello").answer ∧
      ¬ (question "Hello").Found (question "Goodbye")) ∧
    Unforgeable macDigests "key" (rewritten [] unsignedRow) ∧
      lookupExact macDigests (some "key") .first
        ((signedCall "Hello").storedRows (rewritten [] unsignedRow)) (question "Hello") 0 =
          some (answered "Hello").answer ∧
      savedBodies (rewritten [] unsignedRow) = [] := by
  refine ⟨⟨rewritten_unforgeable rfl, by rfl, by decide +kernel⟩, ?_, by rfl, rfl⟩
  show Unforgeable macDigests "key" ([] ++ [.write [unsignedRow]])
  apply unforgeable_write
  · intro event member
    cases member
  · intro written member body signed
    rw [List.mem_singleton.mp member] at signed
    cases signed

end BurnLens.Cache
