import BurnLens.Cache.SemanticLookup

/-! # The two paths of a semantic lookup

With numpy and without it a lookup has the same answer where every embedding that is JSON is a vector of
the query's dimension, unless the best product is not above the -1 that the loop starts with.  A vector of
another dimension makes numpy raise, so that the lookup misses whatever else the table holds, and the loop
compares it over the common length.
-/

namespace BurnLens.Cache

open Library

variable {K : Type} [Field K] [LinearOrder K]

/-! ## Candidates -/

/-- The rows whose embedding is a vector, with it. -/
def candidates (loads : Str → Option Json) (rows : List EmbeddedRow) : List (EmbeddedRow × List ℚ) :=
  rows.filterMap fun row => ((loads row.embedding).bind vectorOf).map fun v => (row, v)

/-- The row can be compared with the query. -/
def EmbeddedRow.usable (row : EmbeddedRow) (loads : Str → Option Json) (query : List K) : Bool :=
  ((loads row.embedding).bind vectorOf).any fun v => v.length = query.length

def AllVectors (loads : Str → Option Json) (rows : List EmbeddedRow) : Prop :=
  ∀ row ∈ rows, ∀ embedding, loads row.embedding = some embedding → (vectorOf embedding).isSome = true

/-- The first candidate of the greatest product. -/
def bestCandidate (query : List K) (found : List (EmbeddedRow × List ℚ)) :
    Option (Nat × (EmbeddedRow × List ℚ)) :=
  greatest (fun c => product query c.2) found

section Candidates

variable {loads : Str → Option Json} {query : List K} {rows : List EmbeddedRow}

omit [Field K] [LinearOrder K] in
theorem candidates_usable : candidates loads (rows.filter fun row => row.usable loads query) =
    (candidates loads rows).filter fun c => c.2.length = query.length := by
  rw [candidates, candidates, List.filterMap_filter, List.filter_filterMap]
  apply List.filterMap_congr
  intro row _
  rw [EmbeddedRow.usable]
  cases (loads row.embedding).bind vectorOf with
  | none => rfl
  | some v =>
    by_cases aligned : v.length = query.length <;> simp [Option.filter, aligned]

theorem AllVectors.filter (vectors : AllVectors loads rows) (such : EmbeddedRow → Bool) :
    AllVectors loads (rows.filter such) :=
  fun row member => vectors row (List.mem_of_mem_filter member)

theorem AllVectors.potentialRows (vectors : AllVectors loads rows) :
    (potentialRows loads rows).map (fun p => (p.1, vectorOf p.2)) =
      (candidates loads rows).map fun c => (c.1, some c.2) := by
  rw [Cache.potentialRows, candidates, List.map_filterMap, List.map_filterMap]
  apply List.filterMap_congr
  intro row member
  cases read : loads row.embedding with
  | none => rfl
  | some embedding =>
    obtain ⟨v, its⟩ := Option.isSome_iff_exists.mp (vectors row member embedding read)
    simp [its]

omit [LinearOrder K] in
theorem dotItems_of_vector {items : List Json} {v : List ℚ} (its : items.mapM realNumber = some v)
    (query : List K) : dotItems query items = some (product query v) := by
  induction items generalizing v query with
  | nil =>
    rw [List.mapM_nil] at its
    cases its
    cases query <;> rfl
  | cons c items inductionHypothesis =>
    rw [List.mapM_cons] at its
    simp only [Option.bind_eq_bind, Option.bind_eq_some_iff, Option.pure_def, Option.some.injEq] at its
    obtain ⟨x, number, rest, numbers, rfl⟩ := its
    cases query with
    | nil => rfl
    | cons q query =>
      rw [dotItems, number]
      simp only [inductionHypothesis numbers, Option.map_some, product, List.zipWith_cons_cons,
        List.sum_cons]

omit [LinearOrder K] in
theorem similarity_of_vectors (vectors : AllVectors loads rows) {row : EmbeddedRow} (member : row ∈ rows) :
    similarity loads query row = ((loads row.embedding).bind vectorOf).map (product query) := by
  rw [similarity]
  cases read : loads row.embedding with
  | none => rfl
  | some embedding =>
    obtain ⟨v, its⟩ := Option.isSome_iff_exists.mp (vectors row member embedding read)
    rw [Option.bind_some, Option.bind_some, its, Option.map_some]
    cases embedding with
    | arr items => exact dotItems_of_vector its query
    | _ => cases its

theorem comparePlain_eq (vectors : AllVectors loads rows) : comparePlain loads query rows =
    some ((bestCandidate query (candidates loads rows)).elim (-1, none) fun found =>
      if -1 < product query found.2.2 then (product query found.2.2, some found.2.1) else (-1, none)) := by
  have scan : ∀ rows, AllVectors loads rows → ∀ start : K × Option (EmbeddedRow × List ℚ),
      rows.foldl (compareStep loads query) (start.1, start.2.map Prod.fst) =
        (((candidates loads rows).foldl (improve fun c => product query c.2) start).1,
          ((candidates loads rows).foldl (improve fun c => product query c.2) start).2.map Prod.fst) := by
    intro rows vectors
    induction rows with
    | nil => exact fun _ => rfl
    | cons row rows inductionHypothesis =>
      intro start
      have rest := inductionHypothesis fun other member => vectors other (List.mem_cons_of_mem _ member)
      have sim : similarity loads query row =
          ((loads row.embedding).bind vectorOf).map (product query) :=
        similarity_of_vectors vectors List.mem_cons_self
      rw [List.foldl_cons, compareStep, sim, candidates, List.filterMap_cons]
      cases (loads row.embedding).bind vectorOf with
      | none => exact rest start
      | some v =>
        rw [Option.map_some, Option.map_some, List.foldl_cons, ← candidates, ← rest]
        congr 1
        simp only [improve]
        split <;> rfl
  have scanned := scan rows vectors (-1, none)
  rw [foldl_improve] at scanned
  rw [comparePlain, bestCandidate]
  refine congrArg some (scanned.trans ?_)
  cases greatest (fun c : EmbeddedRow × List ℚ => product query c.2) (candidates loads rows) with
  | none => rfl
  | some found =>
    simp only [Option.elim_some, improve]
    split <;> rfl

theorem AllVectors.embeddings (vectors : AllVectors loads rows) :
    ((Cache.potentialRows loads rows).map Prod.snd).map vectorOf =
      ((candidates loads rows).map Prod.snd).map some := by
  have pairs := congrArg (List.map Prod.snd) vectors.potentialRows
  rw [List.map_map, List.map_map] at pairs
  rw [List.map_map, List.map_map]
  exact pairs

theorem AllVectors.potential_nil (vectors : AllVectors loads rows) :
    Cache.potentialRows loads rows = [] ↔ candidates loads rows = [] := by
  have pairs := congrArg List.length vectors.potentialRows
  rw [List.length_map, List.length_map] at pairs
  rw [← List.length_eq_zero_iff, ← List.length_eq_zero_iff, pairs]

theorem compareNumpy_of_aligned (numpy : Numpy K) (vectors : AllVectors loads rows)
    (aligned : ∀ c ∈ candidates loads rows, c.2.length = query.length) :
    compareNumpy numpy loads query rows =
      some ((bestCandidate query (candidates loads rows)).elim (-1, none) fun found =>
        (product query found.2.2, some found.2.1)) := by
  have best : numpy.best ((Cache.potentialRows loads rows).map Prod.snd) query =
      (bestCandidate query (candidates loads rows)).map fun found =>
        (found.1, product query found.2.2) := by
    rw [numpy.aligned vectors.embeddings fun v member => by
      obtain ⟨c, among, rfl⟩ := List.mem_map.mp member
      exact aligned c among]
    rw [List.map_map, greatest_map]
    rfl
  rw [compareNumpy]
  split
  · next empty =>
    rw [vectors.potential_nil.mp empty]
    rfl
  · next potential =>
    rw [best]
    cases found : bestCandidate query (candidates loads rows) with
    | none => exact absurd (vectors.potential_nil.mpr (greatest_eq_none.mp found)) potential
    | some first =>
      obtain ⟨i, c⟩ := first
      have there := congrArg (Option.map Prod.fst ∘ fun pairs : List _ => pairs[i]?) vectors.potentialRows
      simp only [Function.comp_apply, List.getElem?_map, getElem?_of_greatest found, Option.map_map,
        Option.map_some] at there
      obtain ⟨p, picked, its⟩ := Option.map_eq_some_iff.mp there
      have same : p.1 = c.1 := its
      simp only [Option.map_some, Option.elim_some, Option.bind_eq_bind, Option.bind_some, picked,
        Option.pure_def, same]

theorem compareNumpy_of_misaligned (numpy : Numpy K) (vectors : AllVectors loads rows)
    (misaligned : ∃ c ∈ candidates loads rows, c.2.length ≠ query.length) :
    compareNumpy numpy loads query rows = none := by
  obtain ⟨c, among, other⟩ := misaligned
  have raises : numpy.best ((Cache.potentialRows loads rows).map Prod.snd) query = none :=
    numpy.misaligned vectors.embeddings ⟨c.2, List.mem_map_of_mem among, other⟩
  rw [compareNumpy]
  split
  · next empty =>
    rw [vectors.potential_nil.mp empty] at among
    cases among
  · rw [raises]
    rfl

end Candidates

/-! ## Agreement -/

/-- A call of `lookup_semantic`, with what it reads besides the table. -/
structure SemanticCall (K : Type) where
  loads : Str → Option Json
  digests : Digests
  secretKey : Option Str
  sqrt : K → K
  key : CacheKey
  queryEmbedding : List K
  similarityThreshold : K
  now : Time

namespace SemanticCall

variable (call : SemanticCall K) (numpy : Numpy K) (rows : List EmbeddedRow)

def lookup (compare : List K → List EmbeddedRow → Option (K × Option EmbeddedRow)) : Option Answer :=
  lookupSemantic compare call.digests call.secretKey call.sqrt rows call.key call.queryEmbedding
    call.similarityThreshold call.now

def withNumpy : Option Answer := call.lookup rows (compareNumpy numpy call.loads)

def plain : Option Answer := call.lookup rows (comparePlain call.loads)

def query : List K := normalizeVector call.sqrt call.queryEmbedding

def scope : List EmbeddedRow := rows.filter fun row => row.inScope call.key call.now

/-- The rows that can be compared with the query. -/
def usable : List EmbeddedRow := rows.filter fun row => row.usable call.loads call.query

/-- The candidate is served if it is the best. -/
def Matches (c : EmbeddedRow × List ℚ) : Prop :=
  c.1.verifies call.digests call.secretKey = true ∧ call.similarityThreshold ≤ product call.query c.2

/-- The paths have one answer, and one that is found among the usable rows is found among all. -/
structure PathsAgree : Prop where
  same : call.withNumpy numpy rows = call.plain rows
  unhidden : ∀ answer, call.withNumpy numpy (call.usable rows) = some answer →
    call.withNumpy numpy rows = some answer
  unhiddenPlain : ∀ answer, call.plain (call.usable rows) = some answer → call.plain rows = some answer

/-- Where all vectors have the query's dimension, a match is above -1; else nothing fits. -/
structure Comparable : Prop where
  aligned : (∀ c ∈ candidates call.loads (call.scope rows), c.2.length = call.query.length) →
    ∀ found, bestCandidate call.query (candidates call.loads (call.scope rows)) = some found →
      call.Matches found.2 → -1 < product call.query found.2.2
  misaligned : (∃ c ∈ candidates call.loads (call.scope rows), c.2.length ≠ call.query.length) →
    ∀ found, bestCandidate call.query (candidates call.loads (call.scope rows)) = some found →
      -1 < product call.query found.2.2 → ¬ call.Matches found.2
  noneUsable : (∃ c ∈ candidates call.loads (call.scope rows), c.2.length ≠ call.query.length) →
    ∀ found, bestCandidate call.query (candidates call.loads (call.scope (call.usable rows))) = some found →
      ¬ call.Matches found.2

variable {call numpy rows} {answer : Answer}

theorem scope_usable : call.scope (call.usable rows) =
    (call.scope rows).filter fun row => row.usable call.loads call.query := by
  rw [scope, usable, scope, List.filter_comm]

theorem candidates_scope_usable : candidates call.loads (call.scope (call.usable rows)) =
    (candidates call.loads (call.scope rows)).filter fun c => c.2.length = call.query.length := by
  rw [scope_usable, candidates_usable]

theorem lookup_of_query (asked : call.query ≠ [])
    (compare : List K → List EmbeddedRow → Option (K × Option EmbeddedRow)) :
    call.lookup rows compare = serve call.digests call.secretKey call.similarityThreshold
      (compare call.query (call.scope rows)) :=
  if_neg asked

omit [Field K] in
theorem serve_some {sim : K} {row : EmbeddedRow} :
    serve call.digests call.secretKey call.similarityThreshold (some (sim, some row)) = some answer ↔
      (row.verifies call.digests call.secretKey = true ∧ call.similarityThreshold ≤ sim) ∧
        row.answer = answer := by
  rw [serve]
  split
  · next near => simp [near.1, near.2]
  · next far =>
    constructor
    · intro missed
      cases missed
    · rintro ⟨⟨good, near⟩, -⟩
      exact absurd ⟨near, good⟩ far

theorem withNumpy_iff (asked : call.query ≠ []) (vectors : AllVectors call.loads (call.scope rows))
    (aligned : ∀ c ∈ candidates call.loads (call.scope rows), c.2.length = call.query.length) :
    call.withNumpy numpy rows = some answer ↔
      ∃ found, bestCandidate call.query (candidates call.loads (call.scope rows)) = some found ∧
        call.Matches found.2 ∧ found.2.1.answer = answer := by
  rw [withNumpy, lookup_of_query asked, compareNumpy_of_aligned numpy vectors aligned]
  cases bestCandidate call.query (candidates call.loads (call.scope rows)) with
  | none => simp [serve]
  | some found =>
    rw [Option.elim_some, serve_some]
    simp [Matches]

theorem plain_iff (asked : call.query ≠ []) (vectors : AllVectors call.loads (call.scope rows)) :
    call.plain rows = some answer ↔
      ∃ found, bestCandidate call.query (candidates call.loads (call.scope rows)) = some found ∧
        -1 < product call.query found.2.2 ∧ call.Matches found.2 ∧ found.2.1.answer = answer := by
  rw [plain, lookup_of_query asked, comparePlain_eq vectors]
  cases bestCandidate call.query (candidates call.loads (call.scope rows)) with
  | none => simp [serve]
  | some found =>
    rw [Option.elim_some]
    by_cases above : -1 < product call.query found.2.2
    · rw [if_pos above, serve_some]
      simp [Matches, above]
    · rw [if_neg above]
      simp [serve, above]

theorem withNumpy_of_misaligned (vectors : AllVectors call.loads (call.scope rows))
    (misaligned : ∃ c ∈ candidates call.loads (call.scope rows), c.2.length ≠ call.query.length) :
    call.withNumpy numpy rows = none := by
  by_cases asked : call.query = []
  · exact if_pos asked
  · rw [withNumpy, lookup_of_query asked, compareNumpy_of_misaligned numpy vectors misaligned]
    rfl

theorem usable_vectors (vectors : AllVectors call.loads (call.scope rows)) :
    AllVectors call.loads (call.scope (call.usable rows)) := by
  rw [scope_usable]
  exact vectors.filter _

theorem usable_aligned : ∀ c ∈ candidates call.loads (call.scope (call.usable rows)),
    c.2.length = call.query.length := by
  intro c member
  rw [candidates_scope_usable] at member
  exact of_decide_eq_true (List.mem_filter.mp member).2

/-- Where all vectors have the query's dimension, the paths differ in a match of -1 or less only. -/
theorem pathsAgree_of_aligned (asked : call.query ≠ []) (vectors : AllVectors call.loads (call.scope rows))
    (aligned : ∀ c ∈ candidates call.loads (call.scope rows), c.2.length = call.query.length) :
    call.PathsAgree numpy rows ↔
      ∀ found, bestCandidate call.query (candidates call.loads (call.scope rows)) = some found →
        call.Matches found.2 → -1 < product call.query found.2.2 := by
  have all : candidates call.loads (call.scope (call.usable rows)) =
      candidates call.loads (call.scope rows) := by
    rw [candidates_scope_usable, List.filter_eq_self]
    exact fun c member => decide_eq_true (aligned c member)
  constructor
  · intro agree found best fits
    have served : call.withNumpy numpy rows = some found.2.1.answer :=
      (withNumpy_iff asked vectors aligned).mpr ⟨found, best, fits, rfl⟩
    rw [agree.same] at served
    obtain ⟨other, best', above, -⟩ := (plain_iff asked vectors).mp served
    obtain rfl := Option.some.inj (best.symm.trans best')
    exact above
  · intro above
    refine ⟨Option.ext fun answer => ?_, fun answer served => ?_, fun answer served => ?_⟩
    · rw [withNumpy_iff asked vectors aligned, plain_iff asked vectors]
      apply exists_congr
      intro found
      apply and_congr_right
      intro best
      exact ⟨fun ⟨fits, its⟩ => ⟨above found best fits, fits, its⟩, fun ⟨_, matched⟩ => matched⟩
    · rw [withNumpy_iff asked (usable_vectors vectors) usable_aligned, all] at served
      exact (withNumpy_iff asked vectors aligned).mpr served
    · rw [plain_iff asked (usable_vectors vectors), all] at served
      exact (plain_iff asked vectors).mpr served

/-- Where a vector has another dimension, the paths agree on a miss only. -/
theorem pathsAgree_of_misaligned (asked : call.query ≠ [])
    (vectors : AllVectors call.loads (call.scope rows))
    (misaligned : ∃ c ∈ candidates call.loads (call.scope rows), c.2.length ≠ call.query.length) :
    call.PathsAgree numpy rows ↔
      (∀ found, bestCandidate call.query (candidates call.loads (call.scope rows)) = some found →
        -1 < product call.query found.2.2 → ¬ call.Matches found.2) ∧
      ∀ found, bestCandidate call.query (candidates call.loads (call.scope (call.usable rows))) =
        some found → ¬ call.Matches found.2 := by
  have missed : call.withNumpy numpy rows = none := withNumpy_of_misaligned vectors misaligned
  constructor
  · intro agree
    constructor
    · intro found best above fits
      have served := (plain_iff asked vectors).mpr ⟨found, best, above, fits, rfl⟩
      rw [← agree.same, missed] at served
      cases served
    · intro found best fits
      have served : call.withNumpy numpy (call.usable rows) = some found.2.1.answer :=
        (withNumpy_iff asked (usable_vectors vectors) usable_aligned).mpr ⟨found, best, fits, rfl⟩
      have hidden := agree.unhidden _ served
      rw [missed] at hidden
      cases hidden
  · rintro ⟨nothing, noneUsable⟩
    refine ⟨?_, fun answer served => ?_, fun answer served => ?_⟩
    · rw [missed]
      cases answered : call.plain rows with
      | none => rfl
      | some answer =>
        obtain ⟨found, best, above, fits, -⟩ := (plain_iff asked vectors).mp answered
        exact absurd fits (nothing found best above)
    · obtain ⟨found, best, fits, -⟩ :=
        (withNumpy_iff asked (usable_vectors vectors) usable_aligned).mp served
      exact absurd fits (noneUsable found best)
    · obtain ⟨found, best, -, fits, -⟩ := (plain_iff asked (usable_vectors vectors)).mp served
      exact absurd fits (noneUsable found best)

theorem pathsAgree_iff (asked : call.query ≠ []) (vectors : AllVectors call.loads (call.scope rows)) :
    call.PathsAgree numpy rows ↔ call.Comparable rows := by
  by_cases aligned : ∀ c ∈ candidates call.loads (call.scope rows), c.2.length = call.query.length
  · rw [pathsAgree_of_aligned asked vectors aligned]
    have none : ¬ ∃ c ∈ candidates call.loads (call.scope rows), c.2.length ≠ call.query.length :=
      fun ⟨c, among, other⟩ => other (aligned c among)
    exact ⟨fun above => ⟨fun _ => above, fun misaligned => absurd misaligned none,
      fun misaligned => absurd misaligned none⟩, fun comparable => comparable.aligned aligned⟩
  · have misaligned : ∃ c ∈ candidates call.loads (call.scope rows), c.2.length ≠ call.query.length := by
      simpa using aligned
    rw [pathsAgree_of_misaligned asked vectors misaligned]
    exact ⟨fun ⟨nothing, noneUsable⟩ =>
        ⟨fun all => absurd all aligned, fun _ => nothing, fun _ => noneUsable⟩,
      fun comparable => ⟨comparable.misaligned misaligned, comparable.noneUsable misaligned⟩⟩

theorem pathsAgree_of_unasked (unasked : call.query = []) : call.PathsAgree numpy rows := by
  have missed : ∀ compare rows, call.lookup rows compare = none := fun _ _ => if_pos unasked
  refine ⟨(missed _ _).trans (missed _ _).symm, fun answer served => ?_, fun answer served => ?_⟩
  · cases (missed _ _).symm.trans served
  · cases (missed _ _).symm.trans served

end SemanticCall

/-- Numpy changes no answer and no row hides another where the embeddings that are JSON are vectors
that are comparable with the query; of tables of vectors these are all. -/
theorem paths_agree (numpy : Numpy K) (call : SemanticCall K) (rows : List EmbeddedRow) :
    ((call.query = [] ∨ AllVectors call.loads (call.scope rows) ∧ call.Comparable rows) →
      call.PathsAgree numpy rows) ∧
    (AllVectors call.loads (call.scope rows) → call.PathsAgree numpy rows →
      call.query = [] ∨ call.Comparable rows) := by
  constructor
  · intro sound
    by_cases asked : call.query = []
    · exact SemanticCall.pathsAgree_of_unasked asked
    · obtain ⟨vectors, comparable⟩ := sound.resolve_left asked
      exact (SemanticCall.pathsAgree_iff asked vectors).mpr comparable
  · intro vectors agree
    by_cases asked : call.query = []
    · exact Or.inl asked
    · exact Or.inr ((SemanticCall.pathsAgree_iff asked vectors).mp agree)

/-! ## Two dimensions -/

/-- A numpy that raises for whatever is no vector. -/
def Numpy.ofVectors (K : Type) [Field K] [LinearOrder K] : Numpy K where
  best embeddings query :=
    if embeddings.all fun e => (vectorOf e).any fun v => v.length = query.length then
      greatest (fun sim => sim) ((embeddings.filterMap vectorOf).map (product query))
    else none
  aligned := by
    intro embeddings vectors query matrix aligned
    have all : (embeddings.all fun e => (vectorOf e).any fun v => v.length = query.length) = true := by
      have read : ((embeddings.map vectorOf).all fun v => v.any fun v => v.length = query.length) = true := by
        rw [matrix, List.all_map, List.all_eq_true]
        exact fun v member => decide_eq_true (aligned v member)
      rwa [List.all_map] at read
    have rows : embeddings.filterMap vectorOf = vectors := by
      have read := congrArg (List.filterMap id) matrix
      rwa [List.filterMap_map, List.filterMap_map, Function.id_comp, Function.id_comp,
        List.filterMap_some] at read
    rw [if_pos all, rows]
  misaligned := by
    intro embeddings vectors query matrix ⟨v, member, other⟩
    apply if_neg
    intro all
    have read : ((embeddings.map vectorOf).all fun v => v.any fun v => v.length = query.length) = true := by
      rwa [List.all_map]
    rw [matrix, List.all_map, List.all_eq_true] at read
    exact other (of_decide_eq_true (read v member))

def twoTexts (text : Str) : Option Json :=
  if text = "[1.0, 0.0]" then some (.arr [.float (.fin 1), .float (.fin 0)])
  else if text = "[1.0, 0.0, 0.0]" then some (.arr [.float (.fin 1), .float (.fin 0), .float (.fin 0)])
  else none

def embedded (saved : PendingSave) (embedding : Str) : EmbeddedRow :=
  { saved.row plainDigests 0 0 none with embedding }

def twoDimensions : List EmbeddedRow :=
  [embedded (answered "Hello") "[1.0, 0.0]", embedded (answered "Goodbye") "[1.0, 0.0, 0.0]"]

/-- Asked with the first of the embeddings. -/
def askedHello : SemanticCall ℚ where
  loads := twoTexts
  digests := plainDigests
  secretKey := none
  sqrt x := x
  key := question "Hello there"
  queryEmbedding := [1, 0]
  similarityThreshold := 24 / 25
  now := 0

theorem numpy_raises : ¬ askedHello.PathsAgree (Numpy.ofVectors ℚ) twoDimensions := by
  intro agree
  have apart : (askedHello.withNumpy (Numpy.ofVectors ℚ) twoDimensions).isSome ≠
      (askedHello.plain twoDimensions).isSome := by
    decide +kernel
  exact apart (congrArg Option.isSome agree.same)

end BurnLens.Cache
