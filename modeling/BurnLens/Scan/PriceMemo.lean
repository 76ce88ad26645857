import BurnLens.Scan.Incremental

/-! # The memo of unpriced models

Gemini's reader asks no price of a model in `warned_models`, and puts a model there when a message
of it has come to 0.  A message of a model that has a price can come to 0 as well; what is stored
of that model later is then recorded at no cost.
-/

namespace BurnLens.Scan

open Library Cost Storage

section

variable (w : Importer) (today : Date)

/-- A message before it has the same model, and costs nothing. -/
structure Importer.Remembered (before : List Billable) (b : Billable) : Prop where
  named : ∃ model, b.model = .str model
  free : ∃ a ∈ before, a.model = b.model ∧ w.calculate today .gemini a = .ok (.fin 0)

def Billable.unpriced (b : Billable) : RequestRecord := ScanRecord.request ⟨.gemini, b, .fin 0⟩

/-- The message does not end the scan. -/
structure Importer.Passes (before : List Billable) (b : Billable) : Prop where
  priced : w.Remembered today before b ∨ ∃ cost, w.calculate today .gemini b = .ok cost
  pricing : pricingColumns w.tables today b.unpriced = .ok ()
  bindable : ∀ column ∈ b.unpriced.required, bindable column.2 = true
  encodable : b.encodable = true

/-- The message has no null where the table takes none, and no row has its identifier. -/
structure Billable.New (b : Billable) (rows : List ScanRow) (before : List Billable) : Prop where
  complete : b.unpriced.complete = true
  unknown : ∀ row ∈ rows, row.record.key ≠ (.gemini, b.requestId)
  first : ∀ a ∈ before, a.unpriced.complete = true → a.requestId ≠ b.requestId

/-- A message with a cost is stored after one of its model without. -/
inductive Importer.Overlooks (rows : List ScanRow) :
    List Billable → List (Except PyError Billable) → Prop
  | here {before : List Billable} {b : Billable} {items : List (Except PyError Billable)}
      (passes : w.Passes today before b) (new : b.New rows before)
      (remembered : w.Remembered today before b)
      (charged : w.calculate today .gemini b ≠ .ok (.fin 0)) :
      Overlooks rows before (.ok b :: items)
  | later {before : List Billable} {b : Billable} {items : List (Except PyError Billable)}
      (passes : w.Passes today before b) (rest : Overlooks rows (before ++ [b]) items) :
      Overlooks rows before (.ok b :: items)

/-- The row has the cost of its own model and usage. -/
def Importer.OwnCost (row : ScanRow) : Prop :=
  calculateCost w.tables today "google" row.record.billable.model row.record.billable.usage =
    .ok row.record.costUsd

end

variable {w : Importer} {today : Date} {b : Billable} {s s' : ScanState} {rows : List ScanRow}
  {before : List Billable} {items : List (Except PyError Billable)}

/-! ## One message -/

/-- The state of a scan that has read the messages. -/
structure Reached (w : Importer) (today : Date) (rows : List ScanRow) (before : List Billable)
    (s : ScanState) : Prop where
  scanned : Scanned w s.drawn s.rows
  warned : ∀ model, model ∈ s.warned ↔
    ∃ a ∈ before, a.model = .str model ∧ w.calculate today .gemini a = .ok (.fin 0)
  keys : ∀ requestId, (∃ row ∈ s.rows, row.record.key = (.gemini, requestId)) ↔
    (∃ row ∈ rows, row.record.key = (.gemini, requestId)) ∨
      ∃ a ∈ before, a.unpriced.complete = true ∧ a.requestId = requestId

theorem integral_usage : Integral b.usage :=
  ⟨⟨_, rfl⟩, ⟨_, rfl⟩, ⟨_, rfl⟩, ⟨_, rfl⟩, ⟨_, rfl⟩, ⟨_, rfl⟩, ⟨_, rfl⟩, rfl⟩

theorem calculate_finite {cost : Flt} (priced : w.calculate today .gemini b = .ok cost) :
    ∃ x, cost = .fin x := calculateCost_integral integral_usage priced

theorem Reached.remembered_iff (reached : Reached w today rows before s) :
    w.Remembered today before b ↔ ∃ model, b.model = .str model ∧ model ∈ s.warned := by
  constructor
  · intro remembered
    obtain ⟨model, named⟩ := remembered.named
    exact ⟨model, named, (reached.warned model).mpr (named ▸ remembered.free)⟩
  · intro ⟨model, named, known⟩
    exact ⟨⟨model, named⟩, named ▸ (reached.warned model).mp known⟩

/-- A message of a remembered model costs nothing, and the memo stays. -/
theorem price_remembered (reached : Reached w today rows before s)
    (remembered : w.Remembered today before b) :
    w.price today .gemini s.warned b = .ok (.fin 0, s.warned) := by
  obtain ⟨model, named, known⟩ := reached.remembered_iff.mp remembered
  simp only [Importer.price, named, if_pos known]
  rfl

/-- Another message costs what `calculate_cost` says. -/
theorem price_asked (reached : Reached w today rows before s)
    (other : ¬ w.Remembered today before b) :
    w.price today .gemini s.warned b = (w.calculate today .gemini b).map fun cost =>
      (cost, match b.model with
        | .str model => if cost = .fin 0 then model :: s.warned else s.warned
        | _ => s.warned) := by
  have unknown : ∀ model, b.model = .str model → model ∉ s.warned := fun model named known =>
    other (reached.remembered_iff.mpr ⟨model, named, known⟩)
  cases named : b.model with
  | str model =>
    simp only [Importer.price, named, if_neg (unknown model named)]
    cases w.calculate today .gemini b <;> rfl
  | _ =>
    simp only [Importer.price, named]
    cases w.calculate today .gemini b <;> rfl

theorem insertRequest_fin {table : List StoredRow} {eventId : Str} (x : ℚ) :
    insertRequest w.tables today eventId table (ScanRecord.request ⟨.gemini, b, .fin x⟩) =
      insertRequest w.tables today eventId table b.unpriced := rfl

theorem insertRequest_passes (table : List StoredRow) (eventId : Str)
    (passes : w.Passes today before b) :
    insertRequest w.tables today eventId table b.unpriced =
      if !b.unpriced.complete || alreadyStored table eventId b.unpriced then .ok (table, 0)
      else .ok (table ++ [⟨table.length + 1, eventId, some Tool.gemini.source, some b.requestId⟩],
        table.length + 1) := by
  have binds : (b.unpriced.required.all fun column => Storage.bindable column.2) = true :=
    List.all_eq_true.mpr passes.bindable
  have nullable : b.unpriced.nullable.all Storage.bindable = true := rfl
  have encodable : b.unpriced.encodable = true := passes.encodable
  simp only [insertRequest, passes.pricing, binds, nullable, encodable, bind, Except.bind, Bool.not_true,
    Bool.false_or]
  rfl

theorem insertRequest_bound {table table' : List StoredRow} {eventId : Str} {id : Nat}
    (inserted : insertRequest w.tables today eventId table b.unpriced = .ok (table', id)) :
    pricingColumns w.tables today b.unpriced = .ok () ∧
      (∀ column ∈ b.unpriced.required, bindable column.2 = true) ∧ b.encodable = true := by
  obtain ⟨required, -, encodable⟩ := bindable_of_insertRequest inserted
  simp only [insertRequest, bind_eq_ok] at inserted
  obtain ⟨⟨⟩, pricing, -⟩ := inserted
  exact ⟨pricing, required, encodable⟩

/-- The price of a message that passes, and what is remembered from then on. -/
theorem price_passes (reached : Reached w today rows before s) (passes : w.Passes today before b) :
    ∃ x warned, w.price today .gemini s.warned b = .ok (.fin x, warned) ∧
      (w.calculate today .gemini b = .ok (.fin x) ↔
        ¬ (w.Remembered today before b ∧ w.calculate today .gemini b ≠ .ok (.fin 0))) ∧
      ∀ model, model ∈ warned ↔
        ∃ a ∈ before ++ [b], a.model = .str model ∧ w.calculate today .gemini a = .ok (.fin 0) := by
  have more : ∀ model, (∃ a ∈ before ++ [b], a.model = .str model ∧
      w.calculate today .gemini a = .ok (.fin 0)) ↔ model ∈ s.warned ∨
        (b.model = .str model ∧ w.calculate today .gemini b = .ok (.fin 0)) := by
    intro model
    simp only [reached.warned, List.mem_append, List.mem_singleton, or_and_right, exists_or,
      exists_eq_left]
  simp only [more]
  by_cases remembered : w.Remembered today before b
  · refine ⟨0, s.warned, price_remembered reached remembered, by simp [remembered], fun model => ?_⟩
    obtain ⟨known, named, member⟩ := reached.remembered_iff.mp remembered
    constructor
    · exact Or.inl
    · rintro (old | ⟨its, -⟩)
      · exact old
      · rw [named, Json.str.injEq] at its
        exact its ▸ member
  · obtain ⟨cost, priced⟩ := passes.priced.resolve_left remembered
    obtain ⟨x, rfl⟩ := calculate_finite priced
    refine ⟨x, _, by rw [price_asked reached remembered, priced]; rfl, by simp [remembered, priced],
      fun model => ?_⟩
    cases named : b.model with
    | str name =>
      simp only [priced, Except.ok.injEq, Json.str.injEq]
      split
      · next free => simp [free, or_comm, eq_comm]
      · next charged => simp [charged]
    | _ => simp

/-- A price that is found is a number, and comes from the memo or from `calculate_cost`. -/
theorem price_found {cost : Flt} {warned : List Str} (reached : Reached w today rows before s)
    (prices : w.price today .gemini s.warned b = .ok (cost, warned)) :
    (w.Remembered today before b ∨ ∃ cost, w.calculate today .gemini b = .ok cost) ∧
      ∃ x, cost = .fin x := by
  by_cases remembered : w.Remembered today before b
  · rw [price_remembered reached remembered] at prices
    cases prices
    exact ⟨Or.inl remembered, 0, rfl⟩
  · rw [price_asked reached remembered] at prices
    cases asked : w.calculate today .gemini b with
    | error error => rw [asked] at prices; cases prices
    | ok cost =>
      rw [asked] at prices
      cases prices
      exact ⟨Or.inr ⟨cost, rfl⟩, calculate_finite asked⟩

theorem importBillable_stops (reached : Reached w today rows before s)
    (stops : ¬ w.Passes today before b) :
    ∃ s' error, w.importBillable today .gemini s b = (s', some error) ∧ s'.rows = s.rows := by
  cases prices : w.price today .gemini s.warned b with
  | error error => exact ⟨s, error, by simp only [Importer.importBillable, prices], rfl⟩
  | ok priced =>
    obtain ⟨cost, warned⟩ := priced
    obtain ⟨known, x, rfl⟩ := price_found reached prices
    cases inserted : insertRequest w.tables today (w.uuid7 s.drawn) (s.rows.map ScanRow.stored)
        b.unpriced with
    | error error =>
      simp only [Importer.importBillable, prices, insertRequest_fin, inserted]
      exact ⟨_, _, rfl, rfl⟩
    | ok stored =>
      obtain ⟨pricing, bound, encodable⟩ := insertRequest_bound inserted
      exact absurd ⟨known, pricing, bound, encodable⟩ stops

theorem Reached.new_iff (reached : Reached w today rows before s) :
    b.New rows before ↔ b.unpriced.complete = true ∧
      ¬ ∃ row ∈ s.rows, row.record.key = (.gemini, b.requestId) := by
  rw [reached.keys, not_or]
  constructor
  · intro new
    refine ⟨new.complete, ?_, ?_⟩
    · exact fun ⟨row, member, same⟩ => new.unknown row member same
    · exact fun ⟨a, member, complete, same⟩ => new.first a member complete same
  · intro ⟨complete, unknown, first⟩
    exact ⟨complete, fun row member same => unknown ⟨row, member, same⟩,
      fun a member complete same => first ⟨a, member, complete, same⟩⟩

theorem known_later (requestId : Str) :
    (∃ a ∈ before ++ [b], a.unpriced.complete = true ∧ a.requestId = requestId) ↔
      (∃ a ∈ before, a.unpriced.complete = true ∧ a.requestId = requestId) ∨
        b.unpriced.complete = true ∧ b.requestId = requestId := by
  simp only [List.mem_append, List.mem_singleton, or_and_right, exists_or, exists_eq_left]

/-- A message that passes is stored where it is new, at its own cost unless that is overlooked. -/
theorem importBillable_passes (reached : Reached w today rows before s)
    (passes : w.Passes today before b) :
    ∃ s', w.importBillable today .gemini s b = (s', none) ∧
      Reached w today rows (before ++ [b]) s' ∧
      ((b.New rows before ∧ ∃ row, s'.rows = s.rows ++ [row] ∧
          (w.OwnCost today row ↔ ¬ (w.Remembered today before b ∧
            w.calculate today .gemini b ≠ .ok (.fin 0)))) ∨
        (¬ b.New rows before ∧ s'.rows = s.rows)) := by
  obtain ⟨x, warned, prices, own, remembers⟩ := price_passes reached passes
  have inserts := insertRequest_passes (s.rows.map ScanRow.stored) (w.uuid7 s.drawn) passes
  have stored : alreadyStored (s.rows.map ScanRow.stored) (w.uuid7 s.drawn) b.unpriced = true ↔
      ∃ row ∈ s.rows, row.record.key = (.gemini, b.requestId) :=
    alreadyStored_iff reached.scanned ⟨.gemini, b, .fin 0⟩
  have kept : (!b.unpriced.complete || alreadyStored (s.rows.map ScanRow.stored) (w.uuid7 s.drawn)
      b.unpriced) = true ↔ ¬ b.New rows before := by
    rw [reached.new_iff, Bool.or_eq_true, stored, Bool.not_eq_true', not_and_or, not_not,
      Bool.not_eq_true]
  by_cases new : b.New rows before
  · rw [if_neg fun ignored => kept.mp ignored new] at inserts
    simp only [Importer.importBillable, prices, insertRequest_fin, inserts]
    refine ⟨_, rfl, ⟨reached.scanned.concat ⟨.gemini, b, .fin x⟩ _, remembers, fun requestId => ?_⟩,
      Or.inl ⟨new, _, rfl, own⟩⟩
    rw [known_later, ← or_assoc, ← reached.keys]
    simp [ScanRecord.key, new.complete, or_and_right, exists_or]
  · rw [if_pos (kept.mpr new)] at inserts
    simp only [Importer.importBillable, prices, insertRequest_fin, inserts]
    refine ⟨_, rfl, ⟨reached.scanned.mono (Nat.le_succ _), remembers, fun requestId => ?_⟩,
      Or.inr ⟨new, rfl⟩⟩
    rw [known_later, ← or_assoc, ← reached.keys, or_iff_left_of_imp]
    rintro ⟨complete, rfl⟩
    exact not_not.mp fun unknown => new (reached.new_iff.mpr ⟨complete, unknown⟩)

theorem Overlooks.cons_iff : w.Overlooks today rows before (.ok b :: items) ↔
    w.Passes today before b ∧
      ((b.New rows before ∧ w.Remembered today before b ∧
          w.calculate today .gemini b ≠ .ok (.fin 0)) ∨
        w.Overlooks today rows (before ++ [b]) items) := by
  constructor
  · intro overlooks
    cases overlooks with
    | here passes new remembered charged => exact ⟨passes, Or.inl ⟨new, remembered, charged⟩⟩
    | later passes rest => exact ⟨passes, Or.inr rest⟩
  · rintro ⟨passes, ⟨new, remembered, charged⟩ | rest⟩
    · exact .here passes new remembered charged
    · exact .later passes rest

/-- What a scan adds has its own cost exactly where nothing is overlooked. -/
theorem importItems_own (reached : Reached w today rows before s) (items : List (Except PyError Billable)) :
    ∃ added, (w.importItems today .gemini s items).1.rows = s.rows ++ added ∧
      ((∀ row ∈ added, w.OwnCost today row) ↔ ¬ w.Overlooks today rows before items) := by
  induction items generalizing s before with
  | nil =>
    have nothing : ¬ w.Overlooks today rows before [] := fun overlooks => by cases overlooks
    exact ⟨[], (List.append_nil _).symm, by simp [nothing]⟩
  | cons item items inductionHypothesis =>
    cases item with
    | error error =>
      have nothing : ¬ w.Overlooks today rows before (.error error :: items) := fun overlooks => by
        cases overlooks
      exact ⟨[], (List.append_nil _).symm, by simp [nothing]⟩
    | ok b =>
      rw [Overlooks.cons_iff]
      by_cases passes : w.Passes today before b
      · obtain ⟨s', imports, reached', stored⟩ := importBillable_passes reached passes
        obtain ⟨added, rest, own⟩ := inductionHypothesis reached'
        simp only [Importer.importItems, imports, rest]
        obtain ⟨new, row, rows', its⟩ | ⟨known, rows'⟩ := stored
        · refine ⟨row :: added, by rw [rows', List.append_assoc]; rfl, ?_⟩
          rw [List.forall_mem_cons, its, own]
          simp only [passes, new, true_and, not_or]
        · refine ⟨added, by rw [rows'], ?_⟩
          rw [own]
          simp only [passes, known, true_and, false_and, false_or]
      · obtain ⟨s', error, imports, rows'⟩ := importBillable_stops reached passes
        refine ⟨[], ?_, by simp [passes]⟩
        simp only [Importer.importItems, imports, rows', List.append_nil]

/-! ## Runs -/

theorem Scanned.importBillable (scanned : Scanned w s.drawn s.rows) (today : Date) (tool : Tool)
    (b : Billable) :
    Scanned w (w.importBillable today tool s b).1.drawn (w.importBillable today tool s b).1.rows := by
  unfold Importer.importBillable
  split
  · exact scanned
  · simp only
    split
    · exact scanned.mono (Nat.le_succ _)
    · exact scanned.mono (Nat.le_succ _)
    · exact scanned.concat _ _

theorem Scanned.importItems {tool : Tool} (scanned : Scanned w s.drawn s.rows) :
    Scanned w (w.importItems today tool s items).1.drawn
      (w.importItems today tool s items).1.rows := by
  induction items generalizing s with
  | nil => exact scanned
  | cons item items inductionHypothesis =>
    cases item with
    | error error => exact scanned
    | ok b =>
      have first := scanned.importBillable today tool b
      unfold Importer.importItems
      split
      · next imports => exact inductionHypothesis (by rwa [imports] at first)
      · next imports => rwa [imports] at first

theorem scanned_run {start reached : ImportState} {steps : List ImportStep} (fresh : start.Fresh)
    (ran : (imports w).run start steps = some reached) :
    Scanned w reached.drawn reached.rows := by
  have preserves : ∀ (s : ImportState) (step : ImportStep) (s' : ImportState),
      Scanned w s.drawn s.rows → (imports w).step s step = some s' → Scanned w s'.drawn s'.rows := by
    intro s step s' scanned stepped
    cases step with
    | append tool index line =>
      obtain ⟨file, _, rfl⟩ := Option.map_eq_some_iff.mp stepped
      exact scanned
    | tear tool index text =>
      obtain ⟨file, _, rfl⟩ := Option.map_eq_some_iff.mp stepped
      exact scanned
    | scan tool day =>
      cases stepped
      exact Scanned.importItems scanned
  have empty : Scanned w start.drawn start.rows := by
    rw [fresh.rows]
    exact ⟨by simp, by simp, by simp⟩
  exact (imports w).run_invariant preserves empty ran

/-- Each record is stored at the cost of its own model and usage exactly where the memo overlooks
    none, for any files, and over what any scans before have stored. -/
theorem own_cost {start reached : ImportState} {steps : List ImportStep} (fresh : start.Fresh)
    (ran : (imports w).run start steps = some reached) (files : List SessionFile) :
    (∀ row ∈ (w.scan today .gemini files reached.rows reached.drawn).1.rows.drop
        reached.rows.length, w.OwnCost today row) ↔
      ¬ w.Overlooks today reached.rows [] (w.items .gemini files) := by
  have begins : Reached w today reached.rows []
      { rows := reached.rows, drawn := reached.drawn, result := { sessionsFound := files.length } } :=
    ⟨scanned_run fresh ran, by simp, by simp⟩
  obtain ⟨added, rows', own⟩ := importItems_own begins (w.items .gemini files)
  rw [Importer.scan, rows', List.drop_left]
  exact own

/-! ## A prompt from the cache -/

/-- Two messages of a model that has a price, the first all from the cache. -/
@[irreducible] def cachedText : Str :=
  "\x7b\"messages\":[" ++ "\x7b\"type\":\"gemini\",\"id\":\"1\"," ++
    "\"model\":\"gemini-2.5-flash\"," ++ "\"tokens\":\x7b\"input\":900," ++
    "\"cached\":900\x7d\x7d," ++ "\x7b\"type\":\"gemini\",\"id\":\"2\"," ++
    "\"model\":\"gemini-2.5-flash\"," ++ "\"tokens\":\x7b\"input\":1000," ++
    "\"output\":40\x7d\x7d]\x7d"

def cachedMessages : Json :=
  .arr [
    .obj [("type", .str "gemini"), ("id", .str "1"), ("model", .str "gemini-2.5-flash"),
      ("tokens", .obj [("input", .int 900), ("cached", .int 900)])],
    .obj [("type", .str "gemini"), ("id", .str "2"), ("model", .str "gemini-2.5-flash"),
      ("tokens", .obj [("input", .int 1000), ("output", .int 40)])]]

theorem cachedText_filled : [] ≠ cachedText := by decide +kernel

def flash : Importer where
  python :=
    { loads := fun text =>
        if text = cachedText then some (.obj [("messages", cachedMessages)]) else none
      str := fun
        | .str text => text
        | _ => []
      parseInt := fun _ => none
      empty := ⟨if_neg cachedText_filled, rfl⟩ }
  tables key :=
    if key = "google" then [("gemini-2.5-flash",
      { rates := { inputPerMillion := some (3 / 10), outputPerMillion := some (5 / 2) } })]
    else []
  uuid7 i := List.replicate i '0'
  fresh := zeros_injective

def cachedSession : SessionFile := { sessionId := "s", isJson := true, lines := [cachedText] }

def noImports : ImportState := { files := fun _ => [] }

theorem noImports_fresh : noImports.Fresh := ⟨fun _ _ member => absurd member List.not_mem_nil, rfl⟩

theorem own_cost_cached :
    (∀ row ∈ (flash.scan 0 .gemini [cachedSession] [] 0).1.rows.drop 0, flash.OwnCost 0 row) ↔
      ¬ flash.Overlooks 0 [] [] (flash.items .gemini [cachedSession]) :=
  have ran : (imports flash).run noImports [] = some noImports := rfl
  own_cost noImports_fresh ran [cachedSession]

/-- The messages after one from the cache are recorded at no cost. -/
theorem priced_message_overlooked :
    ¬ ∀ row ∈ (flash.scan 0 .gemini [cachedSession] [] 0).1.rows.drop 0, flash.OwnCost 0 row := by
  have decoded : flash.python.load cachedSession.texts.flatten =
      .ok (some (.obj [("messages", cachedMessages)])) := by
    have same : cachedSession.texts.flatten = cachedText := List.append_nil _
    rw [same]
    exact congrArg Except.ok (if_pos rfl)
  have items : flash.items .gemini [cachedSession] = geminiMessages flash.python "s" cachedMessages := by
    simp only [Importer.items, List.flatMap_cons, List.flatMap_nil, List.append_nil, Tool.items,
      SessionFile.geminiDocument, decoded]
    rfl
  rw [Importer.scan, items]
  unfold Importer.OwnCost
  decide +kernel

end BurnLens.Scan
