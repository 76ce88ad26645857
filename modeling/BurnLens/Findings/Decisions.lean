import BurnLens.Findings.Lifecycle

/-! # User decisions on findings

A pass writes back the status that it has read.  So a decision lasts where no user decides between
the read of a pass and its write, and where a resolution that a pass undoes is older than its
detection.
-/

namespace BurnLens.Findings

open Library

/-- The statuses that a finding may have after what has happened: the last one that a user has
    decided, or open where what was resolved was detected again. -/
def Stood (fingerprint : Str) (status : FindingStatus) : List FindingLog → Prop
  | [] => status = .opened
  | .decided decided as :: log =>
    if decided = fingerprint then status = as else Stood fingerprint status log
  | .detected fingerprints :: log =>
    Stood fingerprint status log ∨
      fingerprint ∈ fingerprints ∧ status = .opened ∧ Stood fingerprint .resolved log

/-- The decisions of the users stand, and no pass fails or leaves a finding out. -/
structure DecisionsStand (s : FindingState) : Prop where
  stood : ∀ row ∈ s.world.rows, Stood row.fingerprint row.status s.world.log
  noneFails : ∀ findings now, (FindingCall.sync findings now, FindingPhase.failed) ∉ s.calls
  noneLost : ∀ findings now, (FindingCall.sync findings now, FindingPhase.synced) ∈ s.calls →
    ∀ finding ∈ findings, (s.world.rows.row? finding.fingerprint).isSome

def lastDecision (fingerprint : Str) : List FindingLog → Option FindingStatus :=
  List.findSome? fun
    | .decided decided status => if decided = fingerprint then some status else none
    | .detected _ => none

def since (before log : List FindingLog) : List FindingLog := log.take (log.length - before.length)

/-- What was not there when it was read is not there now; a decision since the read, or since the
    detection where a resolution was read, is for the status that is written. -/
def FindingWorld.Current (w : FindingWorld) (detected read : List FindingLog)
    (finding : WasteFinding) : Option FindingStatus → Prop
  | none => w.rows.row? finding.fingerprint = none
  | some status =>
    ∀ decision ∈ lastDecision finding.fingerprint
      (since (if status = .resolved then detected else read) w.log),
      decision = newStatus status

instance (w : FindingWorld) (detected read : List FindingLog) (finding : WasteFinding)
    (existing : Option FindingStatus) : Decidable (w.Current detected read finding existing) :=
  match existing with
  | none => decidable_of_iff ((w.rows.row? finding.fingerprint).isNone) (by simp [FindingWorld.Current])
  | some status => inferInstanceAs (Decidable (∀ decision ∈ lastDecision finding.fingerprint
      (since (if status = .resolved then detected else read) w.log), decision = newStatus status))

/-- The findings that a write writes are current. -/
def writesCurrent (site : Site) (w : FindingWorld) (_ : FindingCall) : FindingPhase → Prop
  | .writing detected read existing finding rest =>
    w.Current detected read finding existing ∧
      (site.database = .sqlite →
        ∀ other ∈ rest, w.Current detected w.log other (readStatus w.rows other))
  | _ => True

instance (site : Site) (w : FindingWorld) (call : FindingCall) (phase : FindingPhase) :
    Decidable (writesCurrent site w call phase) := by
  unfold writesCurrent
  split <;> infer_instance

/-! ## History -/

section

variable {fingerprint : Str} {status : FindingStatus} {recent log : List FindingLog}

theorem lastDecision_decided (decided : Str) (as : FindingStatus) :
    lastDecision fingerprint (.decided decided as :: log) =
      if decided = fingerprint then some as else lastDecision fingerprint log := by
  simp only [lastDecision, List.findSome?_cons]
  split <;> simp_all

theorem lastDecision_append :
    lastDecision fingerprint (recent ++ log) =
      (lastDecision fingerprint recent).or (lastDecision fingerprint log) :=
  List.findSome?_append ..

theorem since_append : since log (recent ++ log) = recent := by simp [since]

theorem Stood.later (stood : Stood fingerprint status log)
    (undecided : lastDecision fingerprint recent = none) :
    Stood fingerprint status (recent ++ log) := by
  induction recent with
  | nil => exact stood
  | cons event recent inductionHypothesis =>
    cases event with
    | decided decided as =>
      rw [lastDecision_decided] at undecided
      split at undecided
      · cases undecided
      · next other =>
        rw [List.cons_append, Stood, if_neg other]
        exact inductionHypothesis undecided
    | detected fingerprints => exact Or.inl (inductionHypothesis undecided)

theorem Stood.of_lastDecision (decided : lastDecision fingerprint recent = some status) :
    Stood fingerprint status (recent ++ log) := by
  induction recent with
  | nil => cases decided
  | cons event recent inductionHypothesis =>
    cases event with
    | decided other as =>
      rw [lastDecision_decided] at decided
      rw [List.cons_append, Stood]
      split at decided
      · next same =>
        rw [if_pos same]
        exact (Option.some.inj decided).symm
      · next apart =>
        rw [if_neg apart]
        exact inductionHypothesis decided
    | detected fingerprints => exact Or.inl (inductionHypothesis decided)

theorem Stood.resolved_before (stood : Stood fingerprint .resolved (recent ++ log))
    (undecided : lastDecision fingerprint recent = none) : Stood fingerprint .resolved log := by
  induction recent with
  | nil => exact stood
  | cons event recent inductionHypothesis =>
    cases event with
    | decided decided as =>
      rw [lastDecision_decided] at undecided
      split at undecided
      · cases undecided
      · next other =>
        rw [List.cons_append, Stood, if_neg other] at stood
        exact inductionHypothesis stood undecided
    | detected fingerprints =>
      obtain stood | ⟨_, reopened, _⟩ := stood
      · exact inductionHypothesis stood undecided
      · cases reopened

theorem Stood.opened (undecided : lastDecision fingerprint log = none) :
    Stood fingerprint .opened log := by
  have start : Stood fingerprint .opened [] := rfl
  have fromStart := start.later undecided
  rwa [List.append_nil] at fromStart

theorem Stood.newStatus {fingerprints : List Str} {older detected read : List FindingLog}
    (started : detected = .detected fingerprints :: older) (own : fingerprint ∈ fingerprints)
    (detectedFirst : detected <:+ read) (readFirst : read <:+ log)
    (stood : Stood fingerprint status read)
    (current : ∀ decision ∈ lastDecision fingerprint
      (since (if status = .resolved then detected else read) log), decision = newStatus status) :
    Stood fingerprint (newStatus status) log := by
  obtain ⟨recent, rfl⟩ := readFirst
  by_cases resolved : status = .resolved
  · obtain ⟨between, rfl⟩ := detectedFirst
    rw [if_pos resolved, ← List.append_assoc, since_append] at current
    rw [← List.append_assoc]
    cases decided : lastDecision fingerprint (recent ++ between) with
    | some decision => exact .of_lastDecision (current decision decided ▸ decided)
    | none =>
      apply Stood.later _ decided
      rw [lastDecision_append, Option.or_eq_none_iff] at decided
      subst resolved started
      obtain before | ⟨_, reopened, _⟩ := stood.resolved_before decided.2
      · exact Or.inr ⟨own, rfl, before⟩
      · cases reopened
  · rw [if_neg resolved, since_append] at current
    cases decided : lastDecision fingerprint recent with
    | some decision => exact .of_lastDecision (current decision decided ▸ decided)
    | none =>
      rw [Findings.newStatus, if_neg resolved]
      exact stood.later decided

end

/-! ## One statement -/

namespace FindingWorld

def Has (w : FindingWorld) (finding : WasteFinding) : Prop :=
  (w.rows.row? finding.fingerprint).isSome

/-- What the rows say has stood, and what has been decided is there. -/
structure Sound (w : FindingWorld) : Prop where
  stood : ∀ row ∈ w.rows, Stood row.fingerprint row.status w.log
  undecided : ∀ fingerprint, w.rows.row? fingerprint = none → lastDecision fingerprint w.log = none

end FindingWorld

/-- A pass over `findings`, of which `rest` are not written yet. -/
structure Passing (w : FindingWorld) (findings : List WasteFinding) (detected : List FindingLog)
    (rest : List WasteFinding) : Prop where
  started : ∃ older, detected = .detected (findings.map WasteFinding.fingerprint) :: older
  detectedFirst : detected <:+ w.log
  among : ∀ finding ∈ rest, finding ∈ findings
  written : ∀ finding ∈ findings, finding ∈ rest ∨ w.Has finding

/-- What a call knows of what has happened. -/
def Known (w : FindingWorld) : FindingCall → FindingPhase → Prop
  | .sync findings _, .reading detected rest => Passing w findings detected rest
  | .sync findings _, .writing detected read existing finding rest =>
    Passing w findings detected (finding :: rest) ∧ detected <:+ read ∧ read <:+ w.log ∧
      ∀ status ∈ existing, w.Has finding ∧ Stood finding.fingerprint status read
  | .sync findings _, .synced => ∀ finding ∈ findings, w.Has finding
  | .sync _ _, .failed => False
  | _, _ => True

structure FindingInvariant (s : FindingState) : Prop where
  sound : s.world.Sound
  known : s.Each Known

section

variable {site : Site} {s : FindingState} {w w' : FindingWorld} {k : Nat} {call : FindingCall}
  {phase next : FindingPhase} {finding : WasteFinding} {findings rest : List WasteFinding}
  {detected : List FindingLog} {rows : FindingTable} {now : Moment} {fingerprint : Str}
  {status : FindingStatus} {existing : Option FindingStatus}

theorem FindingWorld.Has.later (has : w.Has finding) (before : w.Before w') : w'.Has finding := by
  obtain ⟨row, found⟩ := Option.isSome_iff_exists.mp has
  obtain ⟨row', found', _⟩ := before.rows finding.fingerprint row found
  rw [FindingWorld.Has, found']
  rfl

theorem Passing.later (passing : Passing w findings detected rest) (before : w.Before w') :
    Passing w' findings detected rest where
  started := passing.started
  detectedFirst := passing.detectedFirst.trans before.log
  among := passing.among
  written finding member := (passing.written finding member).imp_right fun has => has.later before

theorem Known.later (known : Known w call phase) (before : w.Before w') : Known w' call phase := by
  cases call with
  | set => cases phase <;> trivial
  | sync findings now =>
    cases phase with
    | reading detected rest => exact Passing.later known before
    | writing detected read existing finding rest =>
      obtain ⟨passing, detectedFirst, readFirst, stood⟩ := known
      refine ⟨passing.later before, detectedFirst, readFirst.trans before.log, ?_⟩
      exact fun status its => ⟨(stood status its).1.later before, (stood status its).2⟩
    | synced => exact fun finding member => (known finding member).later before
    | failed => exact known
    | _ => trivial

theorem FindingWorld.Sound.write (sound : w.Sound)
    (has : existing.isSome → w.Has finding)
    (stands : ∀ status ∈ existing, Stood finding.fingerprint (newStatus status) w.log)
    (wrote : writeFinding w.rows finding now existing = some rows) :
    FindingWorld.Sound { w with rows } ∧ FindingWorld.Has { w with rows } finding := by
  cases existing with
  | some status =>
    cases wrote
    refine ⟨⟨?_, ?_⟩, ?_⟩
    · intro row' member
      obtain ⟨row, there, rfl⟩ := List.mem_map.mp member
      split
      · next same =>
        show Stood row.fingerprint (newStatus status) w.log
        rw [same]
        exact stands status rfl
      · exact sound.stood row there
    · intro fingerprint absent
      apply sound.undecided
      exact Option.map_eq_none_iff.mp (row?_refreshed.symm.trans absent)
    · rw [Has]
      dsimp only
      rw [row?_refreshed, Option.isSome_map]
      exact has rfl
  | none =>
    rw [writeFinding] at wrote
    split at wrote
    · cases wrote
    · next absent =>
      cases wrote
      rw [Option.not_isSome_iff_eq_none] at absent
      refine ⟨⟨?_, ?_⟩, ?_⟩
      · intro row member
        obtain there | rfl := List.mem_append.mp member |>.imp_right List.mem_singleton.mp
        · exact sound.stood row there
        · exact .opened (sound.undecided finding.fingerprint absent)
      · intro fingerprint unseen
        apply sound.undecided
        rw [FindingTable.row?_append, Option.or_eq_none_iff] at unseen
        exact unseen.1
      · have member : finding.inserted now ∈ w.rows ++ [finding.inserted now] :=
          List.mem_append_right _ List.mem_cons_self
        exact FindingTable.row?_of_mem member

theorem readStatus_some {rows : FindingTable} (read : readStatus rows finding = some status) :
    ∃ row ∈ rows, row.fingerprint = finding.fingerprint ∧ row.status = status := by
  obtain ⟨row, found, its⟩ := Option.map_eq_some_iff.mp read
  obtain ⟨member, same⟩ := FindingTable.row?_some found
  exact ⟨row, member, same, its⟩

theorem readStatus_isSome (read : (readStatus w.rows finding).isSome) : w.Has finding := by
  rwa [readStatus, Option.isSome_map] at read

/-- A pass writes where its read was right about what is not there. -/
theorem writeFinding_isSome (now : Moment) {rows : FindingTable}
    (absent : existing = none → rows.row? finding.fingerprint = none) :
    ∃ rows', writeFinding rows finding now existing = some rows' := by
  cases existing with
  | some status => exact ⟨_, rfl⟩
  | none =>
    refine ⟨rows ++ [finding.inserted now], ?_⟩
    rw [writeFinding, if_neg]
    rw [absent rfl]
    exact Bool.false_ne_true

theorem readStatus_write {rows rows' : FindingTable} {other : WasteFinding}
    (wrote : writeFinding rows finding now existing = some rows')
    (read : readStatus rows' other = some status) :
    readStatus rows other = some status ∨ other.fingerprint = finding.fingerprint ∧
      (rows.row? finding.fingerprint = none ∧ status = .opened ∨
        ∃ before ∈ existing, status = newStatus before) := by
  cases existing with
  | some before =>
    cases wrote
    rw [readStatus, row?_refreshed, Option.map_map] at read
    obtain ⟨row, there, its⟩ := Option.map_eq_some_iff.mp read
    obtain ⟨_, named⟩ := FindingTable.row?_some there
    rw [Function.comp_apply] at its
    split at its
    · next same => exact Or.inr ⟨named ▸ same, Or.inr ⟨before, rfl, its.symm⟩⟩
    · exact Or.inl (by rw [readStatus, there, Option.map_some, its])
  | none =>
    rw [writeFinding] at wrote
    split at wrote
    · cases wrote
    · next absent =>
      cases wrote
      rw [readStatus, FindingTable.row?_append] at read
      cases there : rows.row? other.fingerprint with
      | some row =>
        rw [there, Option.some_or] at read
        exact Or.inl (by rw [readStatus, there, read])
      | none =>
        rw [there, Option.none_or] at read
        obtain ⟨row, found, rfl⟩ := Option.map_eq_some_iff.mp read
        obtain ⟨member, named⟩ := FindingTable.row?_some found
        obtain rfl := List.mem_singleton.mp member
        exact Or.inr ⟨named.symm, Or.inl ⟨Option.not_isSome_iff_eq_none.mp absent, rfl⟩⟩

theorem newStatus_newStatus (status : FindingStatus) :
    newStatus (newStatus status) = newStatus status := by
  cases status <;> rfl

/-- The rest of a pass in its transaction: what it reads is so when it writes. -/
theorem FindingWorld.Sound.syncRest (now : Moment) (sound : w.Sound)
    (stands : ∀ finding ∈ rest, ∀ status ∈ readStatus w.rows finding,
      Stood finding.fingerprint (newStatus status) w.log) :
    ∃ rows, syncFindings now w.rows rest = some rows ∧ FindingWorld.Sound { w with rows } ∧
      ∀ finding ∈ rest, FindingWorld.Has { w with rows } finding := by
  induction rest generalizing w with
  | nil => exact ⟨w.rows, rfl, sound, by simp⟩
  | cons finding rest inductionHypothesis =>
    have own := stands finding List.mem_cons_self
    obtain ⟨next, wrote⟩ : ∃ next, writeFinding w.rows finding now (readStatus w.rows finding) = some next := by
      apply writeFinding_isSome
      exact fun absent => Option.map_eq_none_iff.mp absent
    obtain ⟨soundNext, has⟩ := sound.write readStatus_isSome own wrote
    have standsNext : ∀ other ∈ rest, ∀ status ∈ readStatus next other,
        Stood other.fingerprint (newStatus status) w.log := by
      intro other member status read
      obtain before | ⟨same, ⟨absent, rfl⟩ | ⟨before, its, rfl⟩⟩ := readStatus_write wrote read
      · exact stands other (List.mem_cons_of_mem finding member) status before
      · rw [same]
        exact .opened (sound.undecided _ absent)
      · rw [newStatus_newStatus, same]
        exact own before its
    obtain ⟨rows, synced, soundRows, hasRest⟩ := inductionHypothesis (w := { w with rows := next }) soundNext standsNext
    refine ⟨rows, ?_, soundRows, fun other member => ?_⟩
    · rw [syncFindings, List.foldlM_cons, wrote]
      exact synced
    · obtain rfl | later := List.mem_cons.mp member
      · exact has.later ⟨List.suffix_refl _, later_syncFindings synced⟩
      · exact hasRest other later

end

section

variable {site : Site} {s : FindingState} {w w' : FindingWorld} {k : Nat} {call : FindingCall}
  {phase next : FindingPhase} {findings rest : List WasteFinding} {fingerprint : Str}
  {status : FindingStatus} {change : StoredFinding → StoredFinding}

theorem Decides.sound (decides : Decides status change) (sound : w.Sound) :
    (w.decideBy fingerprint status change).1.Sound where
  stood := by
    intro row' member
    obtain ⟨row, there, rfl⟩ := List.mem_map.mp member
    have found := FindingTable.row?_of_mem there
    rw [FindingWorld.decideBy]
    dsimp only
    split
    · next same =>
      subst same
      rw [if_pos found, decides.fingerprint, decides.status, Stood, if_pos rfl]
    · next other =>
      split
      · rw [Stood, if_neg (Ne.symm other)]
        exact sound.stood row there
      · exact sound.stood row there
  undecided := by
    intro other absent
    rw [FindingWorld.decideBy] at absent ⊢
    dsimp only at absent ⊢
    rw [FindingTable.row?_update decides.fingerprint, Option.map_eq_none_iff] at absent
    split
    · next found =>
      rw [lastDecision_decided, if_neg]
      · exact sound.undecided other absent
      · rintro rfl
        rw [absent] at found
        cases found
    · exact sound.undecided other absent

theorem known_set (call : Resolve) (status : Str) :
    Known w (.set fingerprint status call) next := by
  cases next <;> trivial

theorem FindingWorld.Sound.advance (sound : w.Sound) (known : Known w call phase)
    (current : writesCurrent site w call phase)
    (went : w.advance site call phase = some (w', next)) : w'.Sound ∧ Known w' call next := by
  cases call with
  | sync findings now =>
    cases phase with
    | entering =>
      cases went
      refine ⟨⟨fun row member => Or.inl (sound.stood row member), sound.undecided⟩, ?_⟩
      exact ⟨⟨w.log, rfl⟩, List.suffix_refl _, fun _ => id, fun _ => Or.inl⟩
    | reading detected rest =>
      have passing : Passing w findings detected rest := known
      cases rest with
      | nil =>
        cases went
        refine ⟨sound, fun finding member => ?_⟩
        exact (passing.written finding member).resolve_left List.not_mem_nil
      | cons finding rest =>
        cases went
        refine ⟨sound, passing, passing.detectedFirst, List.suffix_refl _, fun status read => ?_⟩
        obtain ⟨row, member, same, rfl⟩ := readStatus_some read
        exact ⟨readStatus_isSome (Option.isSome_of_mem read), same ▸ sound.stood row member⟩
    | writing detected read existing finding rest =>
      obtain ⟨passing, detectedFirst, readFirst, stood⟩ := known
      obtain ⟨older, started⟩ := passing.started
      have named : ∀ other ∈ finding :: rest,
          other.fingerprint ∈ findings.map WasteFinding.fingerprint :=
        fun other member => List.mem_map_of_mem (passing.among other member)
      have own : ∀ status ∈ existing, Stood finding.fingerprint (newStatus status) w.log := by
        rintro status rfl
        exact (stood status rfl).2.newStatus started (named finding List.mem_cons_self) detectedFirst
          readFirst current.1
      obtain ⟨rows, wrote⟩ := writeFinding_isSome now
        (show existing = none → w.rows.row? finding.fingerprint = none by rintro rfl; exact current.1)
      have has : existing.isSome → w.Has finding := by
        intro some_
        obtain ⟨status, its⟩ := Option.isSome_iff_exists.mp some_
        exact (stood status its).1
      obtain ⟨soundNext, hasNext⟩ := sound.write has own wrote
      have before : w.Before { w with rows } := ⟨List.suffix_refl _, later_writeFinding wrote⟩
      have written : ∀ other ∈ findings, other ∈ rest ∨ FindingWorld.Has { w with rows } other := by
        intro other member
        obtain remaining | there := passing.written other member
        · obtain rfl | later := List.mem_cons.mp remaining
          · exact Or.inr hasNext
          · exact Or.inl later
        · exact Or.inr (there.later before)
      rw [FindingWorld.advance, wrote] at went
      cases database : site.database with
      | postgres =>
        simp only [database] at went
        cases went
        exact ⟨soundNext, passing.started, passing.detectedFirst,
          fun other member => passing.among other (List.mem_cons_of_mem finding member), written⟩
      | sqlite =>
        simp only [database] at went
        have stands : ∀ other ∈ rest, ∀ status ∈ readStatus rows other,
            Stood other.fingerprint (newStatus status) w.log := by
          intro other member status readNow
          obtain before | ⟨same, ⟨absent, rfl⟩ | ⟨before, its, rfl⟩⟩ := readStatus_write wrote readNow
          · obtain ⟨row, there, same, rfl⟩ := readStatus_some before
            have currentRest := current.2 database other member
            rw [before] at currentRest
            exact Stood.newStatus started (named other (List.mem_cons_of_mem finding member))
              passing.detectedFirst (List.suffix_refl _) (same ▸ sound.stood row there) currentRest
          · rw [same]
            exact .opened (sound.undecided _ absent)
          · rw [newStatus_newStatus, same]
            exact own before its
        obtain ⟨after, synced, soundAfter, hasRest⟩ := soundNext.syncRest now stands
        rw [synced] at went
        cases went
        refine ⟨soundAfter, fun other member => ?_⟩
        obtain remaining | there := written other member
        · exact hasRest other remaining
        · exact there.later ⟨List.suffix_refl _, later_syncFindings synced⟩
    | _ => cases went
  | set fingerprint status call =>
    cases phase with
    | entering =>
      rw [FindingWorld.advance] at went
      split at went
      · cases went
        exact ⟨sound, known_set call status⟩
      · cases went
        exact ⟨sound, known_set call status⟩
      · obtain rfl : _ = w' := congrArg Prod.fst (Option.some.inj went)
        exact ⟨decides_setStatus.sound sound, known_set call status⟩
    | measuring existing =>
      cases went
      exact ⟨sound, known_set call status⟩
    | resolving existing baseline =>
      obtain rfl : _ = w' := congrArg Prod.fst (Option.some.inj went)
      exact ⟨(decides_resolved call existing baseline).sound sound, known_set call status⟩
    | _ => cases went

end

/-! ## Every run -/

section

variable {site : Site} {s : FindingState} {rows : FindingTable} {row : StoredFinding}

/-- The decisions that the rows of a table tell of. -/
def decisionsOf (rows : FindingTable) : List FindingLog :=
  rows.map fun row => .decided row.fingerprint row.status

theorem stood_decisionsOf (distinct : (rows.map StoredFinding.fingerprint).Nodup)
    (member : row ∈ rows) : Stood row.fingerprint row.status (decisionsOf rows) := by
  induction rows with
  | nil => cases member
  | cons head rows inductionHypothesis =>
    rw [List.map_cons, List.nodup_cons] at distinct
    rw [decisionsOf, List.map_cons, Stood]
    obtain rfl | later := List.mem_cons.mp member
    · rw [if_pos rfl]
    · rw [if_neg]
      · exact inductionHypothesis distinct.2 later
      · intro same
        exact distinct.1 (same ▸ List.mem_map_of_mem later)

theorem lastDecision_decisionsOf {fingerprint : Str} (absent : rows.row? fingerprint = none) :
    lastDecision fingerprint (decisionsOf rows) = none := by
  rw [lastDecision, decisionsOf, List.findSome?_eq_none_iff]
  intro event member
  obtain ⟨row, there, rfl⟩ := List.mem_map.mp member
  have other := List.find?_eq_none.mp absent row there
  rw [decide_eq_true_eq] at other
  exact if_neg other

theorem FindingInvariant.undecided (undecided : s.Undecided) : FindingInvariant s where
  sound := by
    constructor
    · intro row member
      rw [undecided.log]
      exact stood_decisionsOf undecided.distinct member
    · intro fingerprint absent
      rw [undecided.log]
      exact lastDecision_decisionsOf absent
  known := by
    intro call phase member
    cases undecided.entering call phase member
    cases call <;> trivial

theorem findingInvariant_preserved : (findingMachine site).Preserves
    (Fleet.Meets (writesCurrent site) fun _ _ => True) FindingInvariant := by
  apply Routes.preserves
  · intro s k call phase w next invariant found current went
    obtain ⟨sound, known⟩ := invariant.sound.advance (invariant.known.at found) current went
    refine ⟨sound, .set known fun j other phase' _ there => ?_⟩
    exact Known.later (invariant.known.at there) (advance_before went)
  · intro s request invariant _
    refine ⟨⟨invariant.sound.stood, invariant.sound.undecided⟩, fun call phase member => ?_⟩
    exact Known.later (invariant.known call phase member) ⟨List.suffix_refl _, .refl⟩

/-- The decisions of users stand where no pass writes over one: in every run in which a pass
    writes a finding as new only while it is, and no user has decided on a finding otherwise since
    the pass read its status, or since its detection where that was a resolution, every row has the
    status that was decided last or was reopened after a later detection, no pass fails or leaves a
    finding out, and no resolution is cleared. -/
theorem decisions_stand (site : Site) (s s' : FindingState) (labels : List FindingMachineLabel)
    (undecided : s.Undecided)
    (current : (findingMachine site).Guarded
      (Fleet.Meets (writesCurrent site) fun _ _ => True) s labels)
    (ran : (findingMachine site).run s labels = some s') :
    DecisionsStand s' ∧ ∀ earlier later mid, labels = earlier ++ later →
      (findingMachine site).run s earlier = some mid → mid.world.rows.Later s'.world.rows := by
  constructor
  · have invariant := findingInvariant_preserved.run _ (.undecided undecided) current ran
    exact ⟨invariant.sound.stood, fun findings now member => invariant.known _ _ member,
      fun findings now member => invariant.known _ _ member⟩
  · rintro earlier later mid rfl early
    rw [Machine.run_append, early] at ran
    exact later_run ran

end

/-! ## A pass and a user at once -/

/-- A pass that detects a stored finding again, of which a user accepts the risk. -/
def passAndUser : FindingState where
  world := {
    rows := [costly.inserted morning]
    log := [.decided "f" .opened] }
  calls :=
    [(.sync [costly] morning, .entering), (.set "f" "accepted_risk" { now := morning }, .entering)]

theorem passAndUser_undecided : passAndUser.Undecided := by
  refine ⟨?_, by decide, rfl⟩
  intro call phase member
  simp only [passAndUser, List.mem_cons, Prod.mk.injEq, List.not_mem_nil, or_false] at member
  obtain ⟨_, rfl⟩ | ⟨_, rfl⟩ := member <;> rfl

/-- The user decides before the pass reads. -/
def decidedBefore : List FindingMachineLabel :=
  [.advance 0, .advance 1, .advance 0, .advance 0]

/-- The user decides between the read of the pass and its write. -/
def decidedBetween : List FindingMachineLabel :=
  [.advance 0, .advance 0, .advance 1, .advance 0]

theorem decisions_stand_before :
    DecisionsStand (((findingMachine (morningSite .sqlite)).run passAndUser decidedBefore).get
      (by decide +kernel)) ∧
    ∀ earlier later mid, decidedBefore = earlier ++ later →
      (findingMachine (morningSite .sqlite)).run passAndUser earlier = some mid →
      mid.world.rows.Later (((findingMachine (morningSite .sqlite)).run passAndUser
        decidedBefore).get (by decide +kernel)).world.rows :=
  decisions_stand (morningSite .sqlite) passAndUser _ decidedBefore passAndUser_undecided
    (by decide +kernel) (Option.some_get _).symm

/-- A pass overwrites an accepted risk, in the local database and in the cloud. -/
theorem risk_overwritten_in (database : Database) :
    ¬ ∀ (s s' : FindingState) (labels : List FindingMachineLabel),
      s.Undecided → (findingMachine (morningSite database)).run s labels = some s' →
      DecisionsStand s' := by
  intro claim
  have outcome : ((findingMachine (morningSite database)).run passAndUser decidedBetween).any
      fun s' => decide (s'.world.rows.map (fun row => (row.fingerprint, row.status)) =
          [(("f" : Str), FindingStatus.opened)] ∧
        s'.world.log = [.decided "f" .acceptedRisk, .detected ["f"], .decided "f" .opened]) := by
    cases database <;> decide +kernel
  obtain ⟨s', ran, facts⟩ := (Option.any_eq_true _ _).mp outcome
  obtain ⟨rows, log⟩ := of_decide_eq_true facts
  obtain ⟨row, rest, there, its, _⟩ := List.map_eq_cons_iff.mp rows
  obtain ⟨named, opened⟩ := Prod.mk.inj its
  have stood := (claim passAndUser s' decidedBetween passAndUser_undecided ran).stood row
    (by rw [there]; exact List.mem_cons_self)
  rw [log, named, opened, Stood, if_pos rfl] at stood
  cases stood

theorem accepted_risk_overwritten :
    ¬ ∀ (database : Database) (s s' : FindingState) (labels : List FindingMachineLabel),
      s.Undecided → (findingMachine (morningSite database)).run s labels = some s' →
      DecisionsStand s' := by
  intro claim
  exact risk_overwritten_in .sqlite (claim .sqlite)

end BurnLens.Findings
