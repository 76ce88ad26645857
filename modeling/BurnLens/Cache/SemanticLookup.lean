import BurnLens.Cache.SaveLookup
import BurnLens.Library.BestSoFar
import Mathlib.Algebra.Field.Basic
import Mathlib.Data.Rat.Cast.Defs

/-! # Semantic lookups

`lookup_semantic` over exact numbers.  Without numpy it goes through the rows one by one and passes over
a row that it cannot compare; with numpy it makes a matrix of all the embeddings that are JSON.
-/

namespace BurnLens.Cache

open Library

/-! ## Rows and vectors -/

/-- A row with the text of its embedding. -/
structure EmbeddedRow extends CacheRow where
  embedding : Str

/-- The `WHERE` clause of `lookup_semantic`. -/
def CacheRow.inScope (row : CacheRow) (key : CacheKey) (now : Time) : Bool :=
  row.key.systemPromptHash = key.systemPromptHash && row.key.customerHash = key.customerHash &&
    match row.expiresAt with
    | none => true
    | some expiresAt => decide (now / 1000000 < expiresAt / 1000000)

/-- A number of JSON, but for `NaN` and the infinities, which are not real. -/
def realNumber : Json → Option ℚ
  | .int n => some n
  | .float (.fin x) => some x
  | .bool b => some b.toNat
  | _ => none

/-- The vector that a JSON list of numbers is. -/
def vectorOf : Json → Option (List ℚ)
  | .arr items => items.mapM realNumber
  | _ => none

section Compare

variable {K : Type} [Field K] [LinearOrder K]

def normalizeVector (sqrt : K → K) (v : List K) : List K :=
  let norm := sqrt ((v.map fun x => x * x).sum)
  if norm = 0 then v else v.map fun x => x / norm

/-- `sum(q * c for q, c in zip(query_norm, cached_emb))`, of the items of an embedding. -/
def dotItems : List K → List Json → Option K
  | q :: query, c :: items =>
    match realNumber c with
    | none => none
    | some x => (dotItems query items).map fun sum => q * (x : K) + sum
  | _, _ => some 0

/-- The product of two vectors over their common length. -/
def product (query : List K) (v : List ℚ) : K :=
  (List.zipWith (fun (q : K) (x : ℚ) => q * (x : K)) query v).sum

/-- What the loop makes of a row, nothing where it passes over it. -/
def similarity (loads : Str → Option Json) (query : List K) (row : EmbeddedRow) : Option K :=
  ((loads row.embedding).bind iterate).bind (dotItems query)

def compareStep (loads : Str → Option Json) (query : List K) (best : K × Option EmbeddedRow)
    (row : EmbeddedRow) : K × Option EmbeddedRow :=
  match similarity loads query row with
  | none => best
  | some sim => if best.1 < sim then (sim, some row) else best

def comparePlain (loads : Str → Option Json) (query : List K) (rows : List EmbeddedRow) :
    Option (K × Option EmbeddedRow) :=
  some (rows.foldl (compareStep loads query) (-1, none))

/-- `np.argmax(np.dot(np.array(embeddings), query))` and the value at it, nothing where one of them
raises.  What is made of a list that has anything but lists of numbers is left open. -/
structure Numpy (K : Type) [Field K] [LinearOrder K] where
  best : List Json → List K → Option (Nat × K)
  -- the first of the greatest products
  aligned : ∀ {embeddings : List Json} {vectors : List (List ℚ)} {query : List K},
    embeddings.map vectorOf = vectors.map some → (∀ v ∈ vectors, v.length = query.length) →
      best embeddings query = greatest (fun sim => sim) (vectors.map (product query))
  -- no matrix, or one that is not aligned with the query
  misaligned : ∀ {embeddings : List Json} {vectors : List (List ℚ)} {query : List K},
    embeddings.map vectorOf = vectors.map some → (∃ v ∈ vectors, v.length ≠ query.length) →
      best embeddings query = none

/-- The rows whose embedding is JSON, with it. -/
def potentialRows (loads : Str → Option Json) (rows : List EmbeddedRow) : List (EmbeddedRow × Json) :=
  rows.filterMap fun row => (loads row.embedding).map fun embedding => (row, embedding)

def compareNumpy (numpy : Numpy K) (loads : Str → Option Json) (query : List K)
    (rows : List EmbeddedRow) : Option (K × Option EmbeddedRow) :=
  let potential := potentialRows loads rows
  if potential = [] then some (-1, none)
  else do
    let (bestIdx, bestSim) ← numpy.best (potential.map Prod.snd) query
    let row ← potential[bestIdx]?
    return (bestSim, some row.1)

/-- The answer of the best row, if it is near enough. -/
def serve (digests : Digests) (secretKey : Option Str) (similarityThreshold : K) :
    Option (K × Option EmbeddedRow) → Option Answer
  | some (bestSim, some row) =>
    if similarityThreshold ≤ bestSim ∧ row.verifies digests secretKey = true then some row.answer else none
  | _ => none

/-- `lookup_semantic`; every exception makes it a miss. -/
def lookupSemantic (compare : List K → List EmbeddedRow → Option (K × Option EmbeddedRow))
    (digests : Digests) (secretKey : Option Str) (sqrt : K → K) (rows : List EmbeddedRow)
    (key : CacheKey) (queryEmbedding : List K) (similarityThreshold : K) (now : Time) : Option Answer :=
  let query := normalizeVector sqrt queryEmbedding
  if query = [] then none
  else serve digests secretKey similarityThreshold
    (compare query (rows.filter fun row => row.inScope key now))

end Compare

end BurnLens.Cache
