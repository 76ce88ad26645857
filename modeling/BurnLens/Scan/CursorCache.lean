import BurnLens.Scan.Cursor

/-! # The cache of the scan of Cursor

The cache holds where a database is, how large and how old, but neither whether a scan could read
it, nor what the scan imported into which target.  A scan that is skipped has nothing to import in
every run in which each skip is of a database that a scan has read as it is, for the same target
and from no later a time.
-/

namespace BurnLens.Scan

open Library Cost Storage

section

variable {w : CursorImporter} {today : Date} {dryRun : Bool} {bubble : CursorBubble}
  {now now' : Int} {since since' : Option Int} {rows : List BubbleRow}

/-! ## Bubbles that count -/

/-- The scan counts whatever one from `since` counts, whenever that is. -/
def Completed.Covers (c : Completed) (since : Option Int) : Prop :=
  ∀ first, c.since = some first → first ≤ c.now ∧ ∃ later, since = some later ∧ first ≤ later

theorem counts_covered {c : Completed} (covers : c.Covers since)
    (counts : bubble.counts now since = .ok true) :
    bubble.counts c.now c.since ≠ .ok false := by
  intro excluded
  cases its : c.since with
  | none =>
    rw [its, CursorBubble.counts] at excluded
    cases excluded
  | some first =>
    obtain ⟨past, later, rfl, ordered⟩ := covers first its
    rw [its] at excluded
    cases time : bubble.timestamp with
    | aware instant =>
      simp only [CursorBubble.counts, time, Except.ok.injEq, decide_eq_true_eq,
        decide_eq_false_iff_not] at counts excluded
      omega
    | naive =>
      simp only [CursorBubble.counts, time] at counts
      cases counts
    | now =>
      simp only [CursorBubble.counts, time, Except.ok.injEq, decide_eq_false_iff_not] at excluded
      omega

theorem bubblesOf_covered {c : Completed} {bubbles bubbles' : List CursorBubble}
    (covers : c.Covers since)
    (read : bubblesOf w.python w.clock c.now c.since rows = .ok bubbles)
    (again : bubblesOf w.python w.clock now since rows = .ok bubbles') : bubbles' ⊆ bubbles := by
  induction rows generalizing bubbles bubbles' with
  | nil =>
    cases again
    exact List.nil_subset _
  | cons row rows inductionHypothesis =>
    obtain ⟨key, value⟩ := row
    simp only [bubblesOf] at read again
    split at read
    · next isBubble =>
      rw [if_pos isBubble] at again
      obtain ⟨parsed, its, read⟩ := bind_eq_ok.mp read
      obtain ⟨_, its', again⟩ := bind_eq_ok.mp again
      rw [its] at its'
      cases its'
      cases parsed with
      | none => exact inductionHypothesis read again
      | some bubble =>
        obtain ⟨counted, counts, read⟩ := bind_eq_ok.mp read
        obtain ⟨rest, reads, read⟩ := bind_eq_ok.mp read
        obtain ⟨counted', counts', again⟩ := bind_eq_ok.mp again
        obtain ⟨rest', reads', again⟩ := bind_eq_ok.mp again
        cases read
        cases again
        have within := inductionHypothesis reads reads'
        cases counted' with
        | false =>
          cases counted with
          | false => exact within
          | true => exact List.Subset.trans within (List.subset_cons_self _ _)
        | true =>
          cases counted with
          | false => exact absurd counts (counts_covered covers counts')
          | true => exact List.cons_subset_cons _ within
    · next noBubble =>
      rw [if_neg noBubble] at again
      exact inductionHypothesis read again

structure IsRecordOf (record : RequestRecord) (bubble : CursorBubble) : Prop where
  eventId : record.eventId = none
  source : record.source = some ("scan_cursor" : Str)
  requestId : record.requestId = some bubble.bubbleId
  complete : record.complete = true

theorem bubbleToRecord_ok {py : Python} {tables : PricingTables} {record : RequestRecord}
    (made : bubbleToRecord py tables today bubble = .ok record) : IsRecordOf record bubble := by
  obtain ⟨⟨⟩, _, made⟩ := bind_eq_ok.mp made
  obtain ⟨cost, calculated, made⟩ := bind_eq_ok.mp made
  have integral : Integral bubble.usage :=
    ⟨⟨_, rfl⟩, ⟨_, rfl⟩, ⟨_, rfl⟩, ⟨_, rfl⟩, ⟨_, rfl⟩, ⟨_, rfl⟩, ⟨_, rfl⟩, rfl⟩
  obtain ⟨x, rfl⟩ := calculateCost_integral integral calculated
  cases made
  exact ⟨rfl, rfl, rfl, rfl⟩

/-! ## What is stored -/

def Imported (table : List StoredRow) (bubble : CursorBubble) : Prop :=
  ∃ row ∈ table, sameScan row (some ("scan_cursor" : Str)) (some bubble.bubbleId) = true

theorem Imported.mono {table table' : List StoredRow} (imported : Imported table bubble)
    (more : table ⊆ table') : Imported table' bubble := by
  obtain ⟨row, member, same⟩ := imported
  exact ⟨row, more member, same⟩

/-- No row of the table has an event id that is still to be drawn. -/
def Undrawn (w : CursorImporter) (drawn : Nat) (table : List StoredRow) : Prop :=
  ∀ row ∈ table, ∀ i, drawn ≤ i → row.eventId ≠ w.uuid7 i

theorem Undrawn.mono {drawn drawn' : Nat} {table : List StoredRow}
    (undrawn : Undrawn w drawn table) (later : drawn ≤ drawn') : Undrawn w drawn' table :=
  fun row member i after => undrawn row member i (later.trans after)

/-- What an import makes of the table: it only adds rows, and draws their event ids. -/
structure Grows (w : CursorImporter) (s s' : BubbleImport) : Prop where
  rows : s.rows ⊆ s'.rows
  drawn : s.drawn ≤ s'.drawn
  undrawn : Undrawn w s.drawn s.rows → Undrawn w s'.drawn s'.rows
  skipped : s'.result.skippedDueToCache = s.result.skippedDueToCache

theorem Grows.trans {s s' s'' : BubbleImport} (first : Grows w s s') (second : Grows w s' s'') :
    Grows w s s'' where
  rows := List.Subset.trans first.rows second.rows
  drawn := first.drawn.trans second.drawn
  undrawn undrawn := second.undrawn (first.undrawn undrawn)
  skipped := second.skipped.trans first.skipped

theorem Grows.same {s s' : BubbleImport} (rows : s'.rows = s.rows) (drawn : s.drawn ≤ s'.drawn)
    (skipped : s'.result.skippedDueToCache = s.result.skippedDueToCache) : Grows w s s' where
  rows := rows ▸ List.Subset.refl _
  drawn := drawn
  undrawn undrawn := rows ▸ undrawn.mono drawn
  skipped := skipped

theorem insertRequest_bubble {table table' : List StoredRow} {drawn rowId : Nat}
    {record : RequestRecord} (its : IsRecordOf record bubble)
    (inserted : insertRequest w.tables today (w.uuid7 drawn) table record = .ok (table', rowId)) :
    (table' = table ∧ (Undrawn w drawn table → Imported table bubble)) ∨
      (table' = table ++ [⟨rowId, w.uuid7 drawn, some ("scan_cursor" : Str), some bubble.bubbleId⟩] ∧
        ¬ Imported table bubble) := by
  have drawnId : record.resolveEventId (w.uuid7 drawn) = w.uuid7 drawn := by
    rw [RequestRecord.resolveEventId, its.eventId]
  have known : alreadyStored table (w.uuid7 drawn) record = true ↔
      ∃ row ∈ table, row.eventId = w.uuid7 drawn ∨
        sameScan row (some ("scan_cursor" : Str)) (some bubble.bubbleId) = true := by
    simp [alreadyStored, its.source, its.requestId]
  obtain ⟨rfl, -, new, -⟩ | ⟨rfl, -, ignored⟩ := insertRequest_ok inserted
  · refine Or.inr ⟨by rw [drawnId, its.source, its.requestId], fun imported => ?_⟩
    obtain ⟨row, member, same⟩ := imported
    rw [drawnId, known.mpr ⟨row, member, Or.inr same⟩] at new
    cases new
  · refine Or.inl ⟨rfl, fun undrawn => ?_⟩
    rw [drawnId, its.complete, known] at ignored
    obtain ⟨row, member, taken | same⟩ | incomplete := ignored
    · exact absurd taken (undrawn row member drawn le_rfl)
    · exact ⟨row, member, same⟩
    · cases incomplete

section

variable {s s' : BubbleImport} {error : Option PyError}

theorem grows_importBubble (imports : w.importBubble today dryRun s bubble = (s', error)) :
    Grows w s s' := by
  unfold CursorImporter.importBubble at imports
  split at imports
  · cases imports
    exact .same rfl le_rfl rfl
  · next record made =>
    simp only at imports
    split at imports
    · cases imports
      exact .same rfl le_rfl rfl
    · split at imports
      · cases imports
        exact .same rfl (Nat.le_succ _) rfl
      · next table rowId inserted =>
        cases imports
        obtain ⟨rfl, -⟩ | ⟨rfl, -⟩ := insertRequest_bubble (bubbleToRecord_ok made) inserted
        · exact .same rfl (Nat.le_succ _) (by simp only; split <;> rfl)
        · refine ⟨List.subset_append_left _ _, Nat.le_succ _, fun undrawn row member i after => ?_,
            by simp only; split <;> rfl⟩
          obtain old | new := List.mem_append.mp member
          · exact undrawn row old i (Nat.le_of_succ_le after)
          · cases List.mem_singleton.mp new
            intro same
            exact Nat.ne_of_lt after (w.fresh same)

theorem imported_importBubble (undrawn : Undrawn w s.drawn s.rows)
    (imports : w.importBubble today false s bubble = (s', none)) : Imported s'.rows bubble := by
  unfold CursorImporter.importBubble at imports
  split at imports
  · cases imports
  · next record made =>
    rw [if_neg Bool.false_ne_true] at imports
    split at imports
    · cases imports
    · next table rowId inserted =>
      cases imports
      obtain ⟨rfl, imported⟩ | ⟨rfl, -⟩ := insertRequest_bubble (bubbleToRecord_ok made) inserted
      · exact imported undrawn
      · refine ⟨_, List.mem_append_right _ (List.mem_singleton.mpr rfl), ?_⟩
        simp [sameScan, isScanSource]

theorem importBubble_imported (imported : Imported s.rows bubble)
    (imports : w.importBubble today dryRun s bubble = (s', error)) : s'.rows = s.rows := by
  unfold CursorImporter.importBubble at imports
  split at imports
  · cases imports
    rfl
  · next record made =>
    simp only at imports
    split at imports
    · cases imports
      rfl
    · split at imports
      · cases imports
        rfl
      · next table rowId inserted =>
        cases imports
        obtain ⟨rfl, -⟩ | ⟨rfl, new⟩ := insertRequest_bubble (bubbleToRecord_ok made) inserted
        · rfl
        · exact absurd imported new

theorem grows_importBubbles {bubbles : List CursorBubble}
    (imports : w.importBubbles today dryRun s bubbles = (s', error)) : Grows w s s' := by
  induction bubbles generalizing s with
  | nil =>
    cases imports
    exact .same rfl le_rfl rfl
  | cons bubble bubbles inductionHypothesis =>
    simp only [CursorImporter.importBubbles] at imports
    split at imports
    · next next first => exact (grows_importBubble first).trans (inductionHypothesis imports)
    · next next error first =>
      cases imports
      exact grows_importBubble first

theorem imported_importBubbles {bubbles : List CursorBubble} (undrawn : Undrawn w s.drawn s.rows)
    (imports : w.importBubbles today false s bubbles = (s', none)) :
    ∀ bubble ∈ bubbles, Imported s'.rows bubble := by
  induction bubbles generalizing s with
  | nil => exact fun bubble member => absurd member List.not_mem_nil
  | cons bubble bubbles inductionHypothesis =>
    simp only [CursorImporter.importBubbles] at imports
    split at imports
    · next next first =>
      intro other member
      have grows := grows_importBubble first
      obtain rfl | later := List.mem_cons.mp member
      · exact (imported_importBubble undrawn first).mono (grows_importBubbles imports).rows
      · exact inductionHypothesis (grows.undrawn undrawn) imports other later
    · cases imports

theorem importBubbles_imported {bubbles : List CursorBubble}
    (imported : ∀ bubble ∈ bubbles, Imported s.rows bubble)
    (imports : w.importBubbles today dryRun s bubbles = (s', error)) : s'.rows = s.rows := by
  induction bubbles generalizing s with
  | nil =>
    cases imports
    rfl
  | cons bubble bubbles inductionHypothesis =>
    simp only [CursorImporter.importBubbles] at imports
    split at imports
    · next next first =>
      have same := importBubble_imported (imported bubble List.mem_cons_self) first
      rw [← same]
      apply inductionHypothesis _ imports
      exact fun other later => same ▸ imported other (List.mem_cons_of_mem _ later)
    · next next error first =>
      cases imports
      exact importBubble_imported (imported bubble List.mem_cons_self) first

end

/-! ## Scans -/

section

variable {s : CursorState} {call : CursorCall} {around : Surroundings}

/-- No completed scan has read a database there that was like this. -/
def CursorState.Unread (s : CursorState) (path : Str) (stat : Stat) : Prop :=
  ∀ c ∈ s.completed, c.source = path → c.stat ≠ stat

/-- What the scan would import has been imported: a completed scan covers it. -/
def CursorState.HasRead (s : CursorState) (call : CursorCall) (stat : Stat) : Prop :=
  ∃ c ∈ s.completed, c.source = call.source ∧ c.stat = stat ∧ c.target = call.target ∧
    c.Covers call.since

/-- Cursor leaves its database with a size and a time that no scan has seen; a scan that is
    skipped has been made. -/
def Trusted (s : CursorState) : CursorStep → Prop
  | .modify path source => ∀ file, source = some file → s.Unread path file.stat
  | .scan call around =>
    (∀ file, around.during = some file → s.Unread call.source file.stat) ∧
      ∀ file, s.sources call.source = some file → s.hits around call file.stat = true →
        s.HasRead call file.stat

/-- The bubbles of the scan, in a database that is as it was, are in its target. -/
def Kept (w : CursorImporter) (s : CursorState) (c : Completed) : Prop :=
  ∀ file, s.sources c.source = some file → file.stat = c.stat →
    ∃ bubbles, bubblesOf w.python w.clock c.now c.since file.rows = .ok bubbles ∧
      ∀ bubble ∈ bubbles, Imported (s.targets c.target) bubble

structure CacheSound (w : CursorImporter) (s : CursorState) : Prop where
  kept : ∀ c ∈ s.completed, Kept w s c
  undrawn : ∀ target, Undrawn w s.drawn (s.targets target)

theorem CacheSound.setSource (sound : CacheSound w s) {path : Str} {source : Option Source}
    (unread : ∀ file, source = some file → s.Unread path file.stat) :
    CacheSound w (s.setSource path source) := by
  refine ⟨fun c member file there same => ?_, sound.undrawn⟩
  simp only [CursorState.setSource] at there
  split at there
  · next its => exact absurd same.symm (unread file there c member its)
  · exact sound.kept c member file there same

theorem Kept.grow {s' : CursorState} {c : Completed} (kept : Kept w s c)
    (sources : s'.sources = s.sources) (targets : ∀ target, s.targets target ⊆ s'.targets target) :
    Kept w s' c := by
  intro file there same
  rw [sources] at there
  obtain ⟨bubbles, read, imported⟩ := kept file there same
  exact ⟨bubbles, read, fun bubble member => (imported bubble member).mono (targets _)⟩

theorem importFrom_grows {stat : Stat} {source : Source} :
    let s' := (s.importFrom w around call stat source).1
    s'.sources = s.sources ∧ (∀ target, s.targets target ⊆ s'.targets target) ∧
      ((∀ target, Undrawn w s.drawn (s.targets target)) →
        ∀ target, Undrawn w s'.drawn (s'.targets target)) := by
  unfold CursorState.importFrom
  split
  · exact ⟨rfl, fun _ => List.Subset.refl _, id⟩
  · next bubbles read =>
    simp only
    generalize imports : w.importBubbles around.today call.dryRun _ bubbles = after
    obtain ⟨imported, error⟩ := after
    have grows := grows_importBubbles imports
    have targets : ∀ target, s.targets target ⊆
        if target = call.target then imported.rows else s.targets target := by
      intro target
      split
      · next its => exact its ▸ grows.rows
      · exact List.Subset.refl _
    have undrawn : (∀ target, Undrawn w s.drawn (s.targets target)) → ∀ target,
        Undrawn w imported.drawn
          (if target = call.target then imported.rows else s.targets target) := by
      intro undrawn target
      split
      · exact grows.undrawn (undrawn _)
      · exact (undrawn target).mono grows.drawn
    split
    · exact ⟨rfl, targets, undrawn⟩
    · split
      · exact ⟨rfl, targets, undrawn⟩
      · exact ⟨rfl, targets, undrawn⟩

theorem importFrom_completed {stat : Stat} {source : Source} {c : Completed}
    (undrawn : Undrawn w s.drawn (s.targets call.target))
    (there : s.sources call.source = some source)
    (member : c ∈ (s.importFrom w around call stat source).1.completed) :
    c ∈ s.completed ∨ Kept w (s.importFrom w around call stat source).1 c := by
  unfold CursorState.importFrom at member ⊢
  split at member
  · exact Or.inl member
  · next bubbles read =>
    simp only at member
    generalize imports : w.importBubbles around.today call.dryRun _ bubbles = after at member
    obtain ⟨imported, error⟩ := after
    cases error with
    | some error => exact Or.inl member
    | none =>
      cases dry : call.dryRun with
      | true =>
        simp only [dry, if_true] at member
        exact Or.inl member
      | false =>
        rw [dry] at imports
        simp only [dry, Bool.false_eq_true, if_false] at member
        split at member
        · next answered =>
          obtain rfl | old := List.mem_cons.mp member
          · refine Or.inr fun file its same => ?_
            simp only [imports, Bool.false_eq_true, if_false, if_true] at its ⊢
            rw [there] at its
            cases its
            refine ⟨bubbles, ?_, fun bubble member => ?_⟩
            · rw [CursorImporter.readBubbles, answered] at read
              exact read
            · exact imported_importBubbles undrawn imports bubble member
          · exact Or.inl old
        · exact Or.inl member

theorem CacheSound.importFrom {stat : Stat} {source : Source} (sound : CacheSound w s)
    (there : s.sources call.source = some source) :
    CacheSound w (s.importFrom w around call stat source).1 := by
  obtain ⟨sources, targets, undrawn⟩ := @importFrom_grows w s call around stat source
  refine ⟨fun c member => ?_, undrawn sound.undrawn⟩
  obtain old | new := importFrom_completed (sound.undrawn _) there member
  · exact (sound.kept c old).grow sources targets
  · exact new

theorem importFrom_imported {stat : Stat} {source : Source}
    (imported : ∀ bubbles, w.readBubbles around call.since source = .ok bubbles →
      ∀ bubble ∈ bubbles, Imported (s.targets call.target) bubble) :
    (s.importFrom w around call stat source).1.targets = s.targets := by
  unfold CursorState.importFrom
  split
  · rfl
  · next bubbles read =>
    simp only
    generalize imports : w.importBubbles around.today call.dryRun _ bubbles = after
    obtain ⟨after, error⟩ := after
    have same := importBubbles_imported (imported bubbles read) imports
    have targets : (fun target => if target = call.target then after.rows else s.targets target) =
        s.targets := by
      funext target
      split
      · next its => rw [its, same]
      · rfl
    split
    · exact targets
    · split
      · exact targets
      · exact targets

theorem cacheSound_step : cursorScans w |>.Preserves Trusted (CacheSound w) := by
  intro s step s' sound trusted stepped
  cases step with
  | modify path source =>
    cases stepped
    exact sound.setSource trusted
  | scan call around =>
    cases stepped
    unfold CursorState.scanCursor
    split
    · exact sound
    · next source there =>
      split
      · exact sound
      · cases wrote : around.during with
        | none =>
          have same : s.written around call.source = s := by rw [CursorState.written, wrote]
          rw [same]
          exact sound.importFrom there
        | some file =>
          have same : s.written around call.source = s.setSource call.source (some file) := by
            rw [CursorState.written, wrote]
          rw [same]
          apply (sound.setSource fun other its => ?_).importFrom
          · simp [CursorState.setSource]
          · cases its
            exact trusted.1 file wrote

/-! ## Skips -/

/-- The scan returns `skipped_due_to_cache=True`. -/
def Skipped (result : Except PyError CursorScanResult) : Prop :=
  ∃ its, result = .ok its ∧ its.skippedDueToCache = true

theorem importFrom_not_skipped {stat : Stat} {source : Source} :
    ¬ Skipped (s.importFrom w around call stat source).2 := by
  rintro ⟨result, ends, skipped⟩
  unfold CursorState.importFrom at ends
  split at ends
  · cases ends
  · next bubbles read =>
    simp only at ends
    generalize imports : w.importBubbles around.today call.dryRun _ bubbles = after at ends
    obtain ⟨after, error⟩ := after
    have same := (grows_importBubbles imports).skipped
    have ended : after.result = result := by
      cases error with
      | some error => cases ends
      | none =>
        simp only at ends
        split at ends
        · cases ends; rfl
        · cases ends; rfl
    rw [ended, skipped] at same
    cases same

theorem skipped_hits (skipped : Skipped (s.scanCursor w around call).2) :
    (s.scanCursor w around call).1 = s ∧
      ∃ file, s.sources call.source = some file ∧ s.hits around call file.stat = true := by
  unfold CursorState.scanCursor at skipped ⊢
  split at skipped
  · obtain ⟨result, ends, its⟩ := skipped
    cases ends
    cases its
  · next file there =>
    split at skipped
    · next hits => exact ⟨if_pos hits ▸ rfl, file, there, hits⟩
    · exact absurd skipped importFrom_not_skipped

theorem CacheSound.nothing_new (sound : CacheSound w s) {file : Source}
    (there : s.sources call.source = some file) (read : s.HasRead call file.stat)
    (quiet : around.during = none) :
    (s.scanCursor w around { call with useCache := false }).1.targets = s.targets := by
  obtain ⟨c, member, source, stat, target, covers⟩ := read
  obtain ⟨bubbles, reads, imported⟩ := sound.kept c member file (source ▸ there) stat.symm
  unfold CursorState.scanCursor
  simp only [there, CursorState.hits, Bool.false_and, Bool.false_eq_true, if_false]
  have same : s.written around call.source = s := by rw [CursorState.written, quiet]
  rw [same, quiet, Option.getD_none]
  apply importFrom_imported
  intro again rereads bubble found
  unfold CursorImporter.readBubbles at rereads
  split at rereads
  · rw [← target]
    exact imported bubble (bubblesOf_covered covers reads rereads found)
  · cases rereads
    cases found
  · cases rereads

/-- Nothing has been scanned yet; the cache may have anything in it. -/
structure CursorState.Fresh (w : CursorImporter) (s : CursorState) : Prop where
  completed : s.completed = []
  undrawn : ∀ target, Undrawn w s.drawn (s.targets target)

/-- A scan that is skipped has nothing to import, in every trusted run: it leaves everything
    as it was, and without the cache it would leave all targets so. -/
theorem skipped_scan {start : CursorState} {steps : List CursorStep} (fresh : start.Fresh w)
    (ran : (cursorScans w).run start steps = some s)
    (trusted : (cursorScans w).Guarded Trusted start (steps ++ [.scan call around]))
    (skipped : Skipped (s.scanCursor w around call).2) :
    (s.scanCursor w around call).1 = s ∧
      ∀ again : Surroundings, again.during = none →
        (s.scanCursor w again { call with useCache := false }).1.targets = s.targets := by
  have start_sound : CacheSound w start :=
    ⟨fun c member => absurd (fresh.completed ▸ member) List.not_mem_nil, fresh.undrawn⟩
  have sound := cacheSound_step.run _ start_sound (Machine.guarded_append _ trusted).1 ran
  obtain ⟨same, file, there, hits⟩ := skipped_hits skipped
  have read := (Machine.guarded_last _ trusted ran).2 file there hits
  exact ⟨same, fun again quiet => sound.nothing_new there read quiet⟩

end

end

/-! ## One bubble -/

def bubbleText : Str := "bubble"

def bubblePython : Python where
  loads text :=
    if text = bubbleText then
      some (.obj [("tokenCount", .obj [("inputTokens", .int 1)]), ("model", .str "m"),
        ("timestamp", .int 5)])
    else none
  str _ := []
  parseInt _ := none
  empty := ⟨rfl, rfl⟩

def bubbleImporter : CursorImporter where
  python := bubblePython
  clock :=
    { fromTimestamp := fun
        | .fin x => some x.num
        | _ => none
      fromIsoformat := fun _ => none }
  tables _ := []
  uuid7 i := List.replicate i '0'
  fresh := zeros_injective

def oneBubble : Source := ⟨⟨1, .fin 1⟩, [("bubbleId:b", some bubbleText)]⟩

def oneSource : CursorState where
  sources path := if path = ['s'] then some oneBubble else none
  targets _ := []

def plainCall : CursorCall := { target := ['t'], source := ['s'] }

def plainly : Surroundings := { now := 9, today := 0 }

/-- After the first scan, the second is skipped, and would store this many rows in its target. -/
def missed (first : CursorCall) (around : Surroundings) (second : CursorCall) : Option Nat :=
  let s := (oneSource.scanCursor bubbleImporter around first).1
  match (s.scanCursor bubbleImporter plainly second).2 with
  | .ok { skippedDueToCache := true, .. } =>
    let uncached := s.scanCursor bubbleImporter plainly { second with useCache := false }
    some ((uncached.1.targets second.target).length - (s.targets second.target).length)
  | _ => none

/-- A skipped scan has something to import: after a failed reading, in another target, and
    from an earlier time. -/
theorem bubble_missed :
    missed plainCall { plainly with answer := .nothing } plainCall = some 1 ∧
      missed plainCall plainly { plainCall with target := ['u'] } = some 1 ∧
      missed { plainCall with since := some 7 } plainly plainCall = some 1 := by
  decide +kernel

def afterScan : CursorState := (oneSource.scanCursor bubbleImporter plainly plainCall).1

theorem bubble_kept :
    (afterScan.scanCursor bubbleImporter plainly { plainCall with useCache := false }).1.targets =
      afterScan.targets := by
  have fresh : oneSource.Fresh bubbleImporter :=
    ⟨rfl, fun _ _ member => absurd member List.not_mem_nil⟩
  have there : afterScan.sources ['s'] = some oneBubble := by decide +kernel
  have hits : afterScan.hits plainly plainCall oneBubble.stat = true := by decide +kernel
  have skips : afterScan.scanCursor bubbleImporter plainly plainCall =
      (afterScan, .ok { stat := some oneBubble.stat, skippedDueToCache := true }) := by
    rw [CursorState.scanCursor, show afterScan.sources plainCall.source = _ from there]
    exact if_pos hits
  have completed : afterScan.completed = [⟨['s'], oneBubble.stat, ['t'], none, 9⟩] := by
    decide +kernel
  refine (@skipped_scan bubbleImporter afterScan plainCall plainly oneSource
    [.scan plainCall plainly] fresh rfl ?_ ⟨_, by rw [skips], rfl⟩).2 plainly rfl
  refine ⟨⟨nofun, fun file _ hits => by cases hits⟩, fun s scans => ?_⟩
  cases scans
  refine ⟨⟨nofun, fun file found _ => ?_⟩, fun _ _ => trivial⟩
  have same : file = oneBubble := Option.some.inj (found.symm.trans there)
  refine ⟨⟨['s'], oneBubble.stat, ['t'], none, 9⟩, ?_, rfl, by rw [same], rfl, nofun⟩
  exact completed ▸ List.mem_singleton.mpr rfl

end BurnLens.Scan
