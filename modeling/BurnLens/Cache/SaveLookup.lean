import BurnLens.Cache.ExactHits
import BurnLens.Library.Table

/-! # Saves and exact lookups

Runs of `save` and `lookup_exact` without expiry.  A row is stored under an id that folds the case of
all letters, and it is looked up by a text in which the case of the ASCII letters is folded.  A lookup is
answered with the last save of its key unless that save was in another case, or another key has the same
id and was saved after it.
-/

namespace BurnLens.Cache

open Library

/-! ## Calls -/

inductive CacheCall where
  | save (saved : PendingSave) (now : Time)
  | lookup (key : CacheKey) (now : Time)

def CacheCall.saves : CacheCall → Option PendingSave
  | .save saved _ => some saved
  | .lookup .. => none

/-- `LIMIT 1`: one of the rows, where there are any. -/
structure LimitOne where
  pick : List CacheRow → Option CacheRow
  mem : ∀ {rows row}, pick rows = some row → row ∈ rows
  found : ∀ {rows}, pick rows = none → rows = []

abbrev Answer := List UInt8 × Str × Json

def CacheRow.answer (row : CacheRow) : Answer := (row.responseBody, row.provider, row.model)

def PendingSave.answer (saved : PendingSave) : Answer := (saved.responseBody, saved.provider, saved.model)

section Calls

variable (digests : Digests) (secretKey : Option Str)

def lookupExact (limit : LimitOne) (rows : List CacheRow) (key : CacheKey) (now : Time) :
    Option Answer :=
  (limit.pick (rows.filter fun row => row.selected key now)).bind fun row =>
    if row.verifies digests secretKey then some row.answer else none

def CacheCall.apply (rows : List CacheRow) : CacheCall → List CacheRow
  | .save saved now => insertOrReplace rows (saved.row digests now 0 secretKey)
  | .lookup .. => rows

def rowsAfter (calls : List CacheCall) : List CacheRow :=
  calls.foldl (CacheCall.apply digests secretKey) []

/-- The same prompt and customer, and the same text up to the case of its letters. -/
def CacheKey.UpToCase (a b : CacheKey) : Prop :=
  a.systemPromptHash = b.systemPromptHash ∧ a.customerHash = b.customerHash ∧
    digests.lower a.queryText = digests.lower b.queryText

instance (a b : CacheKey) : Decidable (a.UpToCase digests b) :=
  inferInstanceAs (Decidable (_ ∧ _ ∧ _))

/-- What `save` makes the id of. -/
def CacheKey.idText (key : CacheKey) : Str :=
  key.systemPromptHash ++ ':' :: key.customerHash.getD [] ++ ':' :: digests.lower key.queryText

end Calls

def lastSave (calls : List CacheCall) (such : CacheKey → Bool) : Option PendingSave :=
  (calls.filterMap CacheCall.saves).reverse.find? fun saved => such saved.key

structure SaveThenLookup (digests : Digests) (secretKey : Option Str) (calls : List CacheCall) : Prop where
  lookups : ∀ earlier key now later, calls = earlier ++ .lookup key now :: later → ∀ limit,
    lookupExact digests secretKey limit (rowsAfter digests secretKey earlier) key now =
      (lastSave earlier fun saved => saved.UpToCase digests key).map PendingSave.answer
  single : ∀ earlier later, calls = earlier ++ later → ∀ key,
    ((rowsAfter digests secretKey earlier).filter fun row => row.key.UpToCase digests key).length ≤ 1

/-- `row.selected`, of the keys. -/
def CacheKey.Found (stored key : CacheKey) : Prop :=
  stored.systemPromptHash = key.systemPromptHash ∧ stored.customerHash = key.customerHash ∧
    sqliteLower stored.queryText = sqliteLower key.queryText

instance (stored key : CacheKey) : Decidable (stored.Found key) := inferInstanceAs (Decidable (_ ∧ _ ∧ _))

/-- Before a lookup of a key that was saved, the last save under its id has an answer, and the key that
the lookup asks for. -/
def FoundUnderId (digests : Digests) (calls : List CacheCall) : Prop :=
  ∀ earlier key now later, calls = earlier ++ .lookup key now :: later →
    (∃ saved, lastSave earlier (fun saved => saved.UpToCase digests key) = some saved) →
      ∃ last, lastSave earlier (fun saved => saved.idText digests = key.idText digests) = some last ∧
        last.key.Found key ∧ last.responseBody ≠ []

/-! ## The table -/

section Table

variable {digests : Digests} {secretKey : Option Str} {calls : List CacheCall} {key : CacheKey}
  {row : CacheRow}

theorem rowsAfter_eq (calls : List CacheCall) : rowsAfter digests secretKey calls =
    replaced CacheRow.id ((calls.filterMap CacheCall.saves).map fun saved =>
      saved.row digests 0 0 secretKey) := by
  induction calls using List.reverseRecOn with
  | nil => rfl
  | append_singleton calls call inductionHypothesis =>
    rw [rowsAfter] at inductionHypothesis
    rw [rowsAfter, List.foldl_append, inductionHypothesis, List.filterMap_append]
    cases call with
    | save saved now =>
      show insertOrReplace _ (saved.row digests 0 0 secretKey) = _
      rw [List.map_append]
      show _ = replaced _ (_ ++ [saved.row digests 0 0 secretKey])
      rw [replaced_append, insertOrReplace, Library.insertOrReplace]
      simp only [decide_not]
    | lookup key now =>
      rw [List.filterMap_cons, List.filterMap_nil]
      exact congrArg (replaced CacheRow.id) (congrArg _ (List.append_nil _).symm)

/-- The row under the id of a key is that of the last save under it. -/
theorem rows_under_id (collisionFree : Function.Injective digests.sha256) (key : CacheKey) :
    (rowsAfter digests secretKey calls).filter (fun row => row.id = key.id digests) =
      ((lastSave calls fun saved => saved.idText digests = key.idText digests).map fun saved =>
        saved.row digests 0 0 secretKey).toList := by
  rw [rowsAfter_eq, filter_replaced, ← List.map_reverse, List.find?_map, lastSave]
  congr 3
  funext saved
  exact decide_eq_decide.mpr collisionFree.eq_iff

theorem mem_rowsAfter (stored : row ∈ rowsAfter digests secretKey calls) :
    row.id = row.key.id digests := by
  have written : ∀ items : List CacheRow, (∀ item ∈ items, item.id = item.key.id digests) →
      ∀ item ∈ replaced CacheRow.id items, item.id = item.key.id digests := by
    intro items
    induction items using List.reverseRecOn with
    | nil => exact fun _ item member => absurd member List.not_mem_nil
    | append_singleton items item inductionHypothesis =>
      intro all other member
      rw [replaced_append] at member
      obtain ⟨before, -⟩ | rfl := Library.mem_insertOrReplace.mp member
      · exact inductionHypothesis (fun item member => all item (List.mem_append_left _ member)) _ before
      · exact all _ (List.mem_append_right _ (List.mem_singleton_self _))
  rw [rowsAfter_eq] at stored
  apply written _ _ _ stored
  intro item member
  obtain ⟨saved, -, rfl⟩ := List.mem_map.mp member
  rfl

theorem id_of_upToCase {other : CacheKey} (same : other.UpToCase digests key) :
    other.idText digests = key.idText digests := by
  obtain ⟨prompt, customer, query⟩ := same
  rw [CacheKey.idText, CacheKey.idText, prompt, customer, query]

theorem CacheKey.Found.upToCase
    (folds : ∀ a b, sqliteLower a = sqliteLower b → digests.lower a = digests.lower b)
    {stored : CacheKey} (found : stored.Found key) : stored.UpToCase digests key :=
  ⟨found.1, found.2.1, folds _ _ found.2.2⟩

theorem found_of_selected {now : Time} (selects : row.selected key now = true) : row.key.Found key := by
  simp only [CacheRow.selected, Bool.and_eq_true, decide_eq_true_eq] at selects
  obtain ⟨⟨⟨prompt, query⟩, customer⟩, -⟩ := selects
  exact ⟨prompt, customer, query⟩

theorem selected_row {saved : PendingSave} {now : Time} :
    (saved.row digests 0 0 secretKey).selected key now = true ↔ saved.key.Found key := by
  refine ⟨found_of_selected, fun ⟨prompt, customer, query⟩ => ?_⟩
  simp [CacheRow.selected, PendingSave.row, prompt, customer, query]

/-- A row that was saved under the key verifies, unless it has no body. -/
theorem verifies_row {saved : PendingSave} :
    (saved.row digests 0 0 secretKey).verifies digests secretKey = true ↔ saved.responseBody ≠ [] := by
  simp only [CacheRow.verifies, PendingSave.row, Bool.and_eq_true, decide_eq_true_eq, and_assoc]
  refine and_iff_left ⟨?_, ?_⟩
  · cases digests.sha256Bytes saved.responseBody with
    | nil => rfl
    | cons c stored => exact decide_eq_true rfl
  · cases secretKey with
    | none => rfl
    | some secret =>
      cases secret with
      | nil => rfl
      | cons c secret =>
        cases signed : digests.hmac (c :: secret) saved.responseBody with
        | nil => simp [signed]
        | cons s signature => simp [signed]

/-! ## Lookups -/

def LimitOne.first : LimitOne where
  pick rows := rows.head?
  mem := List.mem_of_head?
  found := List.head?_eq_none_iff.mp

theorem LimitOne.pick_singleton (limit : LimitOne) (row : CacheRow) : limit.pick [row] = some row := by
  cases picked : limit.pick [row] with
  | none => cases limit.found picked
  | some other => rw [List.mem_singleton.mp (limit.mem picked)]

theorem LimitOne.pick_nil (limit : LimitOne) : limit.pick [] = none := by
  cases picked : limit.pick [] with
  | none => rfl
  | some other => cases limit.mem picked

/-- A lookup sees the last save under the id of its key and nothing else. -/
theorem lookupExact_rowsAfter (collisionFree : Function.Injective digests.sha256)
    (folds : ∀ a b, sqliteLower a = sqliteLower b → digests.lower a = digests.lower b)
    (limit : LimitOne) (now : Time) (answer : Answer) :
    lookupExact digests secretKey limit (rowsAfter digests secretKey calls) key now = some answer ↔
      ∃ last, lastSave calls (fun saved => saved.idText digests = key.idText digests) = some last ∧
        last.key.Found key ∧ last.responseBody ≠ [] ∧ last.answer = answer := by
  have chosen : (rowsAfter digests secretKey calls).filter (fun row => row.selected key now) =
      ((rowsAfter digests secretKey calls).filter fun row => row.id = key.id digests).filter
        fun row => row.selected key now := by
    rw [List.filter_filter]
    apply List.filter_congr
    intro row stored
    cases selects : row.selected key now with
    | false => rfl
    | true =>
      have named := id_of_upToCase ((found_of_selected selects).upToCase folds)
      have same : row.id = key.id digests := (mem_rowsAfter stored).trans (congrArg _ named)
      rw [decide_eq_true same]
      rfl
  rw [lookupExact, chosen, rows_under_id collisionFree]
  cases lastSave calls fun saved => saved.idText digests = key.idText digests with
  | none => simp [limit.pick_nil]
  | some last =>
    rw [Option.map_some, Option.toList_some, List.filter_cons, List.filter_nil]
    by_cases finds : last.key.Found key
    · rw [if_pos (selected_row.mpr finds), limit.pick_singleton, Option.bind_some]
      by_cases body : last.responseBody = []
      · have refused : ¬ (last.row digests 0 0 secretKey).verifies digests secretKey = true :=
          mt verifies_row.mp (not_not.mpr body)
        simp [refused, body]
      · rw [if_pos (verifies_row.mpr body)]
        simp [finds, body, CacheRow.answer, PendingSave.answer, PendingSave.row]
    · rw [if_neg (mt selected_row.mp finds), limit.pick_nil]
      simp [finds]

theorem lastSave_of_imp {such other : CacheKey → Bool} (imp : ∀ key, other key = true → such key = true)
    {last : PendingSave} (found : lastSave calls such = some last) (its : other last.key = true) :
    lastSave calls other = some last := by
  obtain ⟨-, before, after, split, none⟩ := List.find?_eq_some_iff_append.mp found
  refine List.find?_eq_some_iff_append.mpr ⟨its, before, after, split, fun saved member => ?_⟩
  have apart := none saved member
  cases holds : other saved.key with
  | false => rfl
  | true => rw [imp _ holds] at apart; cases apart

/-- Every lookup of a saved key is answered with the last save of it just where each finds, under the
id of its key, a save with an answer and with the key that it asks for; other lookups miss, and a key
has one row. -/
theorem save_then_lookup_iff (digests : Digests) (collisionFree : Function.Injective digests.sha256)
    (folds : ∀ a b, sqliteLower a = sqliteLower b → digests.lower a = digests.lower b)
    (secretKey : Option Str) (calls : List CacheCall) :
    SaveThenLookup digests secretKey calls ↔ FoundUnderId digests calls := by
  constructor
  · rintro saved earlier key now later split ⟨last, latest⟩
    have hit := saved.lookups earlier key now later split .first
    rw [latest] at hit
    obtain ⟨last, under, found, body, -⟩ := (lookupExact_rowsAfter collisionFree folds _ _ _).mp hit
    exact ⟨last, under, found, body⟩
  · intro under
    constructor
    · intro earlier key now later split limit
      have refines : ∀ stored : CacheKey, decide (stored.UpToCase digests key) = true →
          decide (stored.idText digests = key.idText digests) = true :=
        fun stored same => decide_eq_true (id_of_upToCase (of_decide_eq_true same))
      cases latest : lastSave earlier fun saved => saved.UpToCase digests key with
      | none =>
        cases answered : lookupExact digests secretKey limit (rowsAfter digests secretKey earlier) key now with
        | none => rfl
        | some answer =>
          obtain ⟨last, found, its, -, -⟩ := (lookupExact_rowsAfter collisionFree folds _ _ _).mp answered
          rw [lastSave_of_imp refines found (decide_eq_true (its.upToCase folds))] at latest
          cases latest
      | some saved =>
        obtain ⟨last, found, its, body⟩ := under earlier key now later split ⟨saved, latest⟩
        have same := lastSave_of_imp refines found (decide_eq_true (its.upToCase folds))
        obtain rfl := Option.some.inj (latest.symm.trans same)
        exact (lookupExact_rowsAfter collisionFree folds _ _ _).mpr ⟨_, found, its, body, rfl⟩
    · intro earlier later _ key
      have subset : ((rowsAfter digests secretKey earlier).filter fun row =>
          row.key.UpToCase digests key).length ≤
          ((rowsAfter digests secretKey earlier).filter fun row => row.id = key.id digests).length := by
        rw [← List.countP_eq_length_filter, ← List.countP_eq_length_filter]
        apply List.countP_mono_left
        intro row stored same
        have named := id_of_upToCase (of_decide_eq_true same)
        exact decide_eq_true ((mem_rowsAfter stored).trans (congrArg _ named))
      apply subset.trans
      rw [rows_under_id collisionFree]
      exact Option.length_toList_le

end Table

/-! ## A text with an accent -/

def question (queryText : Str) : CacheKey where
  systemPromptHash := []
  queryText := queryText
  customerHash := none

def answered (queryText : Str) : PendingSave where
  key := question queryText
  provider := "openai"
  model := .str "gpt-4o"
  responseBody := [123, 125]
  savedFor := ⟨.openai, chatCompletion "gpt-4o" [chatMessage "user" queryText], cachingEnv.environ⟩

theorem lastSave_single {such : CacheKey → Bool} {saved : PendingSave} (now : Time)
    (its : such saved.key = true) : lastSave [.save saved now] such = some saved := by
  have saves : [CacheCall.save saved now].filterMap CacheCall.saves = [saved] := rfl
  rw [lastSave, saves, List.reverse_singleton, List.find?_cons_of_pos (by exact its)]

theorem hello_found : lookupExact plainDigests none .first
    (rowsAfter plainDigests none [.save (answered "Hello") 0]) (question "HELLO") 0 =
      some (answered "Hello").answer := by
  have under : FoundUnderId plainDigests [.save (answered "Hello") 0, .lookup (question "HELLO") 0] := by
    intro earlier key now later split _
    cases earlier with
    | nil => cases split
    | cons call earlier =>
      obtain ⟨rfl, rest⟩ := List.cons.inj split
      cases earlier with
      | nil =>
        cases rest
        exact ⟨answered "Hello", lastSave_single 0 (decide_eq_true (by decide +kernel)),
          by decide +kernel, by decide⟩
      | cons call earlier => exact absurd (List.cons.inj rest).2 (by simp)
  have saved := (save_then_lookup_iff plainDigests (fun _ _ same => (List.cons.inj same).2)
    (fun _ _ same => same) none _).mpr under
  have last : lastSave [.save (answered "Hello") 0] (fun saved =>
      saved.UpToCase plainDigests (question "HELLO")) = some (answered "Hello") :=
    lastSave_single 0 (decide_eq_true (by decide +kernel))
  rw [saved.lookups [.save (answered "Hello") 0] _ 0 [] rfl .first, last]
  rfl

/-- As Python lowers an E with an acute accent. -/
def accentDigests : Digests :=
  { plainDigests with lower := fun text => (sqliteLower text).map fun c => if c = 'É' then 'é' else c }

theorem accent_missed : ¬ SaveThenLookup accentDigests none
    [.save (answered "École?") 0, .lookup (question "école?") 0] := by
  intro saved
  have same := saved.lookups [.save (answered "École?") 0] (question "école?") 0 [] rfl .first
  have missed : (lookupExact accentDigests none .first
      (rowsAfter accentDigests none [.save (answered "École?") 0]) (question "école?") 0).isSome ≠
    ((lastSave [.save (answered "École?") 0] fun saved =>
      saved.UpToCase accentDigests (question "école?")).map PendingSave.answer).isSome := by
    decide +kernel
  exact missed (congrArg Option.isSome same)

end BurnLens.Cache
