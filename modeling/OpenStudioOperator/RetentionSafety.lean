import OpenStudioOperator.Retention
import OpenStudioOperator.StatusStoreLaws

/-!
# Safety of the retention pipeline

Every persisted record is tied to the history: its Job name is the
deterministic one, and a verification time means that the Job was seen
complete and the record not cleared since.  Deletes and Job creations are
justified by the history before them.
-/

namespace OpenStudioOperator

open Foundation

/-!
## Observations
-/

/-- A true `Complete` condition with no true `Failed` condition before it. -/
def CompletesFirst (conditions : List JobCondition) : Prop :=
  exists earlier condition later,
    conditions = earlier ++ condition :: later ∧
      condition.type = some "Complete" ∧ condition.status = some "True" ∧
      forall c, c ∈ earlier -> ¬ (c.type = some "Failed" ∧ c.status = some "True")

theorem completesFirst_of_terminalConditionOf :
    forall conditions : List JobCondition,
      terminalConditionOf conditions = some .complete -> CompletesFirst conditions
  | [], h => by simp [terminalConditionOf] at h
  | c :: rest, h => by
      have hskip : terminalConditionOf rest = some .complete ->
          ¬ (c.type = some "Failed" ∧ c.status = some "True") ->
          CompletesFirst (c :: rest) := by
        intro hrest hc
        rcases completesFirst_of_terminalConditionOf rest hrest with
          ⟨earlier, condition, later, hsplit, htype, hstatus, hearlier⟩
        refine ⟨c :: earlier, condition, later, ?_, htype, hstatus, ?_⟩
        · rw [hsplit, List.cons_append]
        · intro d hd
          rcases List.mem_cons.mp hd with hdc | hmem
          · rw [hdc]
            exact hc
          · exact hearlier d hmem
      unfold terminalConditionOf at h
      split_ifs at h with hstatus hcomplete hfailed
      · exact hskip h fun hc => hstatus hc.2
      · refine ⟨[], c, rest, rfl, hcomplete, not_not.mp hstatus, ?_⟩
        intro d hd
        exact absurd hd List.not_mem_nil
      · exact absurd h (by decide)
      · exact hskip h fun hc => hfailed hc.1

/-- The call read the Job of `id` and found it complete. -/
def ObservesComplete (text : TextOps) (id : String) (e : Entry) : Prop :=
  exists job, e.event = .readJob (archivalJobName text id) (.ok job) ∧
    CompletesFirst job.conditions

/-- The call cleared the record of `id`. -/
def ClearsRecord (id : String) (e : Entry) : Prop :=
  (exists r, e.event = .store (.clearArchivedAnalysis id) r) ∧
    e.status.archivedAnalyses.get? id = none

/-- The Job of `id` was seen complete and the record not cleared since. -/
def Verified (text : TextOps) (id : String) (trace : Trace) : Prop :=
  Since (fun e => ¬ ClearsRecord id e) (ObservesComplete text id) trace

/-- The tick at hand listed these analyses. -/
def Listed (docs : List AnalysisDoc) (trace : Trace) : Prop :=
  exists e, e ∈ currentTick trace ∧ e.event = .listAnalyses (.ok docs)

/-- What a delete call for `id` needs from the history before it. -/
structure DeleteJustified (text : TextOps) (id : String) (before : Trace) :
    Prop where
  listed : exists docs doc, Listed docs before ∧ doc ∈ docs ∧
    doc.id = some id ∧ doc.status = some "completed"
  allowed : exists config, currentConfig before = some config ∧
    config.storagePolicy.archiveToS3 = true ∧
    config.storagePolicy.purgeCompletedNfsFiles = true ∧
    config.dryRun = false
  verified : Verified text id before

/-- The tick at hand listed `id` as completed with a clock not after `time`. -/
def CompletedBy (id : String) (time : Instant) (before : Trace) : Prop :=
  exists docs doc clock, Listed docs before ∧ doc ∈ docs ∧ doc.id = some id ∧
    doc.status = some "completed" ∧ completionTime doc = some clock ∧
    clock <= time

/-- Every delete and every Job creation is justified when it is issued. -/
def EntryJustified (text : TextOps) (e : Entry) (before : Trace) : Prop :=
  (forall id r, e.event = .mutate (.deleteAnalysis id) r ->
    DeleteJustified text id before) ∧
  (forall manifest r, e.event = .mutate (.createJob manifest) r ->
    CompletedBy manifest.analysisId e.time before)

/-!
## The invariant
-/

/-- What the history says about a record of `id`, persisted or in memory. -/
structure RecordOk (text : TextOps) (id : String)
    (record : ArchivedAnalysisRecord) (trace : Trace) : Prop where
  named : forall name, record.jobName = some name ->
    name = archivalJobName text id
  verified : record.verifiedAt.isSome -> Verified text id trace

/-- The invariant between ticks. -/
structure Sound (text : TextOps) (w : World) : Prop where
  records : forall id record,
    w.status.archivedAnalyses.get? id = some record ->
      RecordOk text id record w.trace
  history : Throughout (EntryJustified text) w.trace

/-- The invariant inside a tick, for the records the tick holds in memory. -/
structure SoundInTick (text : TextOps) (config : OperatorConfig)
    (docs : List AnalysisDoc) (known : List (String × ArchivedAnalysisRecord))
    (w : World) : Prop extends Sound text w where
  config : currentConfig w.trace = some config
  listed : Listed docs w.trace
  known : forall id record, (id, record) ∈ known ->
    RecordOk text id record w.trace

theorem RecordOk.cons {text : TextOps} {id : String}
    {record : ArchivedAnalysisRecord} {e : Entry} {trace : Trace}
    (h : RecordOk text id record trace) (he : ¬ ClearsRecord id e) :
    RecordOk text id record (e :: trace) where
  named := h.named
  verified := fun hsome => .later he (h.verified hsome)

/-- Merging a new record into an older one keeps the tie to the history. -/
theorem RecordOk.mergeEntry {text : TextOps} {id : String} {trace : Trace}
    {new : ArchivedAnalysisRecord} (hnew : RecordOk text id new trace) :
    forall old : Option ArchivedAnalysisRecord,
      (forall r, old = some r -> RecordOk text id r trace) ->
        RecordOk text id
          (OpenStudioOperator.mergeEntry ArchivedAnalysisRecord.merge old new) trace
  | none, _ => hnew
  | some old, hold => by
      have hold' := hold old rfl
      constructor
      · intro name hname
        simp only [OpenStudioOperator.mergeEntry, ArchivedAnalysisRecord.merge,
          Option.or_eq_some_iff] at hname
        rcases hname with hname | ⟨_, hname⟩
        · exact hnew.named name hname
        · exact hold'.named name hname
      · intro hsome
        simp only [OpenStudioOperator.mergeEntry, ArchivedAnalysisRecord.merge,
          Option.isSome_or, Bool.or_eq_true] at hsome
        rcases hsome with hsome | hsome
        · exact hnew.verified hsome
        · exact hold'.verified hsome

/-- The events that neither open a tick nor write the status. -/
def Event.Plain : Event -> Prop
  | .tickStart _ => False
  | .store _ _ => False
  | _ => True

theorem not_clearsRecord_of_plain {event : Event} (hplain : event.Plain)
    (id : String) (time : Instant) (s : Status) :
    ¬ ClearsRecord id ⟨time, event, s⟩ := by
  intro hclears
  rcases hclears with ⟨⟨r, hevent⟩, _⟩
  simp only at hevent
  rw [hevent] at hplain
  exact hplain

theorem Event.Plain.not_tickStart {event : Event} (hplain : event.Plain)
    (config : OperatorConfig) : event ≠ .tickStart config := by
  intro hevent
  rw [hevent] at hplain
  exact hplain

theorem Listed.cons_of_plain {docs : List AnalysisDoc} {trace : Trace}
    (h : Listed docs trace) {e : Entry} (hplain : e.event.Plain) :
    Listed docs (e :: trace) := by
  rcases h with ⟨e', hmem, hevent⟩
  refine ⟨e', ?_, hevent⟩
  rw [currentTick_cons hplain.not_tickStart]
  exact List.mem_cons_of_mem e hmem

theorem Listed.commit {docs : List AnalysisDoc} {w : World}
    (h : Listed docs w.trace) (time : Instant) (op : StoreOp)
    (r : Except Exc Unit) (s : Status) :
    Listed docs (w.commit time op r s).trace := by
  rcases h with ⟨e, hmem, hevent⟩
  exact ⟨e, List.mem_cons_of_mem _ hmem, hevent⟩

theorem entryJustified_of_not_mutate {text : TextOps} {e : Entry}
    (he : forall m r, e.event ≠ .mutate m r) (before : Trace) :
    EntryJustified text e before :=
  ⟨fun _ r h => absurd h (he _ r), fun _ r h => absurd h (he _ r)⟩

section Steps

variable {text : TextOps} {config : OperatorConfig} {docs : List AnalysisDoc}
variable {known : List (String × ArchivedAnalysisRecord)} {w : World}

theorem SoundInTick.log (h : SoundInTick text config docs known w)
    {time : Instant} {event : Event} (hplain : event.Plain)
    (hjustified : EntryJustified text ⟨time, event, w.status⟩ w.trace) :
    SoundInTick text config docs known (w.log time event) where
  records := fun id record hget =>
    (h.records id record hget).cons (not_clearsRecord_of_plain hplain id time _)
  history := .cons hjustified h.history
  config := by
    rw [World.log_trace, currentConfig_cons hplain.not_tickStart]
    exact h.config
  listed := h.listed.cons_of_plain hplain
  known := fun id record hmem =>
    (h.known id record hmem).cons (not_clearsRecord_of_plain hplain id time _)

/-- A status call keeps the invariant when every record it leaves is tied to
the history and it does not clear a record the tick holds. -/
theorem SoundInTick.commit (h : SoundInTick text config docs known w)
    {time : Instant} {op : StoreOp} {r : Except Exc Unit} {s : Status}
    (hrecords : forall id record, s.archivedAnalyses.get? id = some record ->
      RecordOk text id record w.trace)
    (hknown : forall id record, (id, record) ∈ known ->
      op ≠ .clearArchivedAnalysis id) :
    SoundInTick text config docs known (w.commit time op r s) where
  records := by
    intro id record hget
    apply (hrecords id record hget).cons
    intro hclears
    have hnone : s.archivedAnalyses.get? id = none := hclears.2
    have hsome : s.archivedAnalyses.get? id = some record := hget
    rw [hnone] at hsome
    exact absurd hsome (by simp)
  history := by
    refine .cons (entryJustified_of_not_mutate ?_ _) h.history
    intro m r' hevent
    exact absurd hevent (by simp)
  config := h.config
  listed := h.listed.commit time op r s
  known := by
    intro id record hmem
    apply (h.known id record hmem).cons
    intro hclears
    rcases hclears with ⟨⟨r', hevent⟩, _⟩
    simp only [Event.store.injEq] at hevent
    exact hknown id record hmem hevent.1

theorem SoundInTick.forget (h : SoundInTick text config docs known w)
    {fewer : List (String × ArchivedAnalysisRecord)}
    (hfewer : forall entry, entry ∈ fewer -> entry ∈ known) :
    SoundInTick text config docs fewer w :=
  { h with known := fun id record hmem => h.known id record (hfewer _ hmem) }

theorem SoundInTick.learn (h : SoundInTick text config docs known w)
    {id : String} {record : ArchivedAnalysisRecord}
    (hrecord : RecordOk text id record w.trace) :
    SoundInTick text config docs ((id, record) :: known) w :=
  { h with
    known := by
      intro id' record' hmem
      rcases List.mem_cons.mp hmem with heq | hmem
      · cases heq
        exact hrecord
      · exact h.known id' record' hmem }

end Steps

/-!
## The calls of a tick
-/

section Calls

variable {text : TextOps} {config : OperatorConfig} {docs : List AnalysisDoc}
variable {known : List (String × ArchivedAnalysisRecord)}
variable {env : Env} {w : World}

/-- A call that is neither a mutation nor a status call keeps the invariant. -/
theorem preserves_call {alpha : Type} {answer : Env -> Trace -> Except Exc alpha}
    {event : Except Exc alpha -> Event} (hplain : forall r, (event r).Plain)
    (hquery : forall r m r', event r ≠ .mutate m r') :
    Prog.Preserves (SoundInTick text config docs known) (call answer event) env := by
  intro w h
  apply wp_call
  · intro a _
    exact h.log (hplain _) (entryJustified_of_not_mutate (hquery _) _)
  · intro e _
    exact h.log (hplain _) (entryJustified_of_not_mutate (hquery _) _)

theorem preserves_emit (type : EventType) (reason message : String) :
    Prog.Preserves (SoundInTick text config docs known)
      (emit type reason message) env := by
  apply preserves_call
  · intro _
    trivial
  · intro _ m r hevent
    exact absurd hevent (by simp)

theorem preserves_mutateUnless {dryRun : Bool} {m : Mutation}
    (hjustified : forall r w, SoundInTick text config docs known w ->
      EntryJustified text ⟨env.now, .mutate m r, w.status⟩ w.trace) :
    Prog.Preserves (SoundInTick text config docs known)
      (mutateUnless dryRun m) env := by
  intro w h
  unfold mutateUnless
  apply Prog.wp_ite
  · intro _
    rw [wp_note]
    exact h.log trivial (entryJustified_of_not_mutate (by simp) _)
  · intro _
    apply wp_call
    · intro _ _
      exact h.log trivial (hjustified _ w h)
    · intro _ _
      exact h.log trivial (hjustified _ w h)

theorem records_mapWrite (hleaves : env.Leaves Status.archivedAnalyses)
    (h : SoundInTick text config docs known w) {id : String}
    {encoded : Option ArchivedAnalysisRecord}
    (hencoded : forall record, encoded = some record ->
      RecordOk text id record w.trace)
    {r : Except Exc Unit} {s : Status}
    (hwrite : MapWrite env archivedAnalysesField id encoded r w.status s) :
    forall k record, s.archivedAnalyses.get? k = some record ->
      RecordOk text k record w.trace := by
  intro k record hget
  have hleavesField : env.Leaves archivedAnalysesField.read := hleaves
  rcases hwrite.entry_cases (hleavesField.entry k) hget with
    ⟨hk, new, hnew, hrecord⟩ | hold
  · rw [hk, hrecord]
    exact (hencoded new hnew).mergeEntry _ fun old hold => h.records id old hold
  · exact h.records k record hold

/-- Writing or clearing the record of `id`. -/
theorem wp_setMapEntry_sound (hleaves : env.Leaves Status.archivedAnalyses)
    (h : SoundInTick text config docs known w) {op : StoreOp} {id : String}
    {encoded : Option ArchivedAnalysisRecord}
    (hencoded : forall record, encoded = some record ->
      RecordOk text id record w.trace)
    (hknown : forall k record, (k, record) ∈ known ->
      op ≠ .clearArchivedAnalysis k) :
    Prog.wp (setMapEntry op archivedAnalysesField id encoded) env w
      (fun _ w' => SoundInTick text config docs known w')
      (fun _ w' => SoundInTick text config docs known w') := by
  have hcapped : forall (w' : World) (message : String) (r : Except Exc Unit),
      SoundInTick text config docs known w' ->
      SoundInTick text config docs known
        (w'.log env.now (.statusMapCapped .archivedAnalyses message r)) := by
    intro w' message r h'
    exact h'.log trivial (entryJustified_of_not_mutate (by simp) _)
  apply wp_setMapEntry
  · intro s hwrite
    exact h.commit (records_mapWrite hleaves h hencoded hwrite) hknown
  · intro s e hwrite
    exact h.commit (records_mapWrite hleaves h hencoded hwrite) hknown
  · intro w' message h'
    exact hcapped w' message _ h'
  · intro w' message e h'
    exact hcapped w' message _ h'

theorem wp_setArchivedAnalysis_sound (hleaves : env.Leaves Status.archivedAnalyses)
    (h : SoundInTick text config docs known w) {id : String}
    {record : ArchivedAnalysisRecord} (hrecord : RecordOk text id record w.trace) :
    Prog.wp (setArchivedAnalysis id record) env w
      (fun _ w' => SoundInTick text config docs known w')
      (fun _ w' => SoundInTick text config docs known w') := by
  apply wp_setMapEntry_sound hleaves h
  · intro record' heq
    rw [Option.some.injEq] at heq
    rw [← heq]
    exact hrecord
  · intro k _ _ hop
    exact absurd hop (by simp)

theorem preserves_clearArchivedAnalysis
    (hleaves : env.Leaves Status.archivedAnalyses) {id : String}
    (hknown : forall k record, (k, record) ∈ known -> k ≠ id) :
    Prog.Preserves (SoundInTick text config docs known)
      (clearArchivedAnalysis id) env := by
  intro w h
  apply wp_setMapEntry_sound hleaves h
  · intro record heq
    exact absurd heq (by simp)
  · intro k record hmem hop
    rw [StoreOp.clearArchivedAnalysis.injEq] at hop
    exact hknown k record hmem hop.symm

theorem wp_getArchivedAnalyses_sound (hleaves : env.Leaves Status.archivedAnalyses)
    (h : SoundInTick text config docs [] w) :
    Prog.wp getArchivedAnalyses env w
      (fun tracked w' => SoundInTick text config docs tracked.entries w')
      (fun _ w' => SoundInTick text config docs [] w') := by
  have hread : forall s r, env.Keeps w.status s ->
      SoundInTick text config docs [] (w.commit env.now .getArchivedAnalyses r s) := by
    intro s r hkeeps
    apply h.commit
    · rw [hkeeps _ Status.archivedAnalyses hleaves]
      exact h.records
    · intro id record hmem
      exact absurd hmem List.not_mem_nil
  unfold getArchivedAnalyses
  rw [Prog.wp_bind]
  apply wp_readStatus
  · intro s hkeeps
    have hsound := hread s (.ok ()) hkeeps
    refine { hsound with known := ?_ }
    intro id record hmem
    exact hsound.records id record ((Dict.mem_entries_iff_get? _ _ _).mp hmem)
  · intro s e hkeeps
    exact hread s (.error e) hkeeps

/-- Reading the Job of `id`: seeing it complete verifies `id`. -/
theorem wp_readJob_sound (h : SoundInTick text config docs known w) (id : String) :
    Prog.wp (readJob (archivalJobName text id)) env w
      (fun job? w' => SoundInTick text config docs known w' ∧
        forall job, job? = some job ->
          jobTerminalCondition job = some .complete -> Verified text id w'.trace)
      (fun _ w' => SoundInTick text config docs known w') := by
  have hlog : forall r, SoundInTick text config docs known
      (w.log env.now (.readJob (archivalJobName text id) r)) := by
    intro r
    exact h.log trivial (entryJustified_of_not_mutate (by simp) _)
  unfold readJob
  rw [Prog.wp_tryCatch, Prog.wp_bind]
  apply wp_call
  · intro job _
    refine ⟨hlog _, ?_⟩
    intro job' heq hcomplete
    rw [Option.some.injEq] at heq
    rw [← heq] at hcomplete
    exact .here ⟨job, rfl, completesFirst_of_terminalConditionOf _ hcomplete⟩
  · intro e _
    apply Prog.wp_ite
    · intro _
      exact ⟨hlog _, fun job heq => absurd heq (by simp)⟩
    · intro _
      exact hlog _

end Calls

/-!
## The steps of a tick
-/

theorem get?_completedById_foldl (id : String) (doc : AnalysisDoc) :
    forall (docs : List AnalysisDoc) (d : Dict String AnalysisDoc),
      (docs.foldl
        (fun d doc =>
          if truthy doc.id ∧ isCompleted doc then d.set (doc.id.getD "") doc else d)
        d).get? id = some doc ->
      d.get? id = some doc ∨
        (doc ∈ docs ∧ doc.id = some id ∧ doc.status = some "completed")
  | [], d, h => Or.inl h
  | head :: rest, d, h => by
      rw [List.foldl_cons] at h
      rcases get?_completedById_foldl id doc rest _ h with hget | ⟨hmem, hdoc⟩
      · split_ifs at hget with hlisted
        · rcases eq_or_ne id (head.id.getD "") with hid | hid
          · rw [hid, Dict.get?_set_self, Option.some.injEq] at hget
            subst hget
            refine Or.inr ⟨List.mem_cons_self, ?_, of_decide_eq_true hlisted.2⟩
            cases hheadId : head.id with
            | none => simp [hheadId, truthy] at hlisted
            | some name => rw [hid, hheadId, Option.getD_some]
          · rw [Dict.get?_set_of_ne _ _ hid] at hget
            exact Or.inl hget
        · exact Or.inl hget
      · exact Or.inr ⟨List.mem_cons_of_mem head hmem, hdoc⟩

/-- Every tracked completion is a document of the listing. -/
theorem get?_completedById {docs : List AnalysisDoc} {id : String}
    {doc : AnalysisDoc} (h : (completedById docs).get? id = some doc) :
    doc ∈ docs ∧ doc.id = some id ∧ doc.status = some "completed" := by
  rcases get?_completedById_foldl id doc docs Dict.empty h with hempty | hdoc
  · rw [Dict.get?_empty] at hempty
    exact absurd hempty (by simp)
  · exact hdoc

section TickSteps

variable {text : TextOps} {config : OperatorConfig} {docs : List AnalysisDoc}
variable {known : List (String × ArchivedAnalysisRecord)} {id : String}
variable {env : Env} {w : World}

theorem preserves_failArchival (hleaves : env.Leaves Status.archivedAnalyses)
    (hknown : forall k record, (k, record) ∈ known -> k ≠ id) (detail : String) :
    Prog.Preserves (SoundInTick text config docs known)
      (failArchival id detail) env := by
  apply Prog.Preserves.bind
  · exact preserves_emit _ _ _
  · intro _
    exact preserves_clearArchivedAnalysis hleaves hknown

theorem wp_deleteVerified_sound (hleaves : env.Leaves Status.archivedAnalyses)
    (harchive : config.storagePolicy.archiveToS3 = true)
    (hlisted : (completedById docs).contains id = true)
    {record : ArchivedAnalysisRecord} (hverified : record.verifiedAt.isSome)
    (h : SoundInTick text config docs ((id, record) :: known) w)
    (hknown : forall k record, (k, record) ∈ known -> k ≠ id)
    (justVerified : Bool) :
    Prog.wp (deleteVerified config id record justVerified) env w
      (fun _ w' => SoundInTick text config docs known w')
      (fun _ w' => SoundInTick text config docs known w') := by
  have hforget := h.forget fun entry => List.mem_cons_of_mem (id, record)
  unfold deleteVerified
  apply Prog.wp_ite
  · intro _
    exact hforget
  · intro hpurge
    apply Prog.wp_ite
    · intro _
      rw [Prog.wp_bind]
      apply Prog.wp_ite
      · intro _
        exact preserves_emit _ _ _ w hforget
      · intro _
        exact hforget
    · intro hdryRun
      have hjustified : DeleteJustified text id w.trace := by
        rw [Dict.contains_iff_mem_keys, Dict.mem_keys_iff_get?] at hlisted
        rcases hlisted with ⟨doc, hdoc⟩
        rcases get?_completedById hdoc with ⟨hmem, hid, hstatus⟩
        constructor
        · exact ⟨docs, doc, h.listed, hmem, hid, hstatus⟩
        · exact ⟨config, h.config, harchive, by simpa using hpurge,
            by simpa using hdryRun⟩
        · exact (h.known id record List.mem_cons_self).verified hverified
      have hdelete : forall r, SoundInTick text config docs known
          (w.log env.now (.mutate (.deleteAnalysis id) r)) := by
        intro r
        refine SoundInTick.log hforget (by trivial) ?_
        constructor
        · intro id' r' hevent
          cases hevent
          exact hjustified
        · intro manifest r' hevent
          exact absurd hevent (by simp)
      rw [Prog.wp_bind]
      apply wp_call
      · intro _ _
        have hrest : Prog.Preserves (SoundInTick text config docs known)
            (do
              emit .normal analysisDeletedEvent
                (s!"Analysis {id} deleted after verified archival to " ++
                  s!"{record.backend}:{showBucket record.bucket}/{id} — REST cascade frees NFS assets " ++
                  "+ Mongo documents")
              clearArchivedAnalysis id
              return true) env := by
          apply Prog.Preserves.bind
          · exact preserves_emit _ _ _
          · intro _
            apply Prog.Preserves.bind
            · exact preserves_clearArchivedAnalysis hleaves hknown
            · intro _
              exact Prog.Preserves.pure true
        exact hrest _ (hdelete _)
      · intro _ _
        exact hdelete _

theorem wp_recordVerified_sound (hleaves : env.Leaves Status.archivedAnalyses)
    (harchive : config.storagePolicy.archiveToS3 = true)
    (hlisted : (completedById docs).contains id = true)
    {verified : ArchivedAnalysisRecord} (hverified : verified.verifiedAt.isSome)
    (h : SoundInTick text config docs known w)
    (hrecord : RecordOk text id verified w.trace)
    (hknown : forall k record, (k, record) ∈ known -> k ≠ id)
    (message : String) (result : RetentionTickResult) :
    Prog.wp (recordVerified config id verified message result) env w
      (fun _ w' => SoundInTick text config docs known w')
      (fun _ w' => SoundInTick text config docs known w') := by
  have hforget : forall w', SoundInTick text config docs ((id, verified) :: known) w' ->
      SoundInTick text config docs known w' := by
    intro w' h'
    exact h'.forget fun entry => List.mem_cons_of_mem (id, verified)
  unfold recordVerified
  rw [Prog.wp_bind]
  -- the record just written is held in memory until the delete step
  apply Prog.wp_mono (wp_setArchivedAnalysis_sound hleaves (h.learn hrecord) hrecord)
  · intro _ w1 h1
    simp only [Prog.wp_bind]
    apply Prog.wp_mono (preserves_emit _ _ _ w1 h1)
    · intro _ w2 h2
      exact Prog.wp_mono
        (wp_deleteVerified_sound hleaves harchive hlisted hverified h2 hknown true)
        (fun _ _ h3 => h3) (fun _ _ h3 => h3)
    · intro _ w2 h2
      exact hforget w2 h2
  · intro _ w1 h1
    exact hforget w1 h1

theorem wp_reconcileTracked_sound (hleaves : env.Leaves Status.archivedAnalyses)
    (harchive : config.storagePolicy.archiveToS3 = true)
    {record : ArchivedAnalysisRecord}
    (h : SoundInTick text config docs ((id, record) :: known) w)
    (hknown : forall k record, (k, record) ∈ known -> k ≠ id)
    (result : RetentionTickResult) :
    Prog.wp (reconcileTracked config (completedById docs) id record result) env w
      (fun _ w' => SoundInTick text config docs known w')
      (fun _ w' => SoundInTick text config docs known w') := by
  have hforget := h.forget fun entry => List.mem_cons_of_mem (id, record)
  have hclear : Prog.Preserves (SoundInTick text config docs known)
      (do clearArchivedAnalysis id; return result) env :=
    Prog.Preserves.bind (preserves_clearArchivedAnalysis hleaves hknown)
      fun _ => Prog.Preserves.pure result
  have hfail : forall detail, Prog.Preserves (SoundInTick text config docs known)
      (do failArchival id detail; return result) env := by
    intro detail
    exact Prog.Preserves.bind (preserves_failArchival hleaves hknown detail)
      fun _ => Prog.Preserves.pure result
  unfold reconcileTracked
  simp only [Prog.wp_bind, Prog.wp_read]
  apply Prog.wp_ite
  · intro _
    exact hclear w hforget
  · intro hcontains
    have hlisted : (completedById docs).contains id = true := by
      simpa using hcontains
    apply Prog.wp_ite
    · intro hverified
      rw [Prog.wp_bind]
      exact Prog.wp_mono
        (wp_deleteVerified_sound hleaves harchive hlisted hverified h hknown false)
        (fun _ _ h' => h') (fun _ _ h' => h')
    · intro _
      cases hjobName : record.jobName with
      | none =>
          simp only
          apply Prog.wp_ite
          · intro _
            exact hforget
          · intro _
            exact hclear w hforget
      | some jobName =>
          have hname := (h.known id record List.mem_cons_self).named jobName hjobName
          simp only [hname, Prog.wp_bind]
          apply Prog.wp_mono (wp_readJob_sound hforget id)
          · intro job? w1 h1
            rcases h1 with ⟨h1, hcomplete⟩
            cases job? with
            | none => exact hfail _ w1 h1
            | some job =>
                simp only
                cases hterminal : jobTerminalCondition job with
                | none => exact h1
                | some terminal =>
                    cases terminal with
                    | failed => exact hfail _ w1 h1
                    | complete =>
                        apply wp_recordVerified_sound hleaves harchive hlisted rfl h1
                        · constructor
                          · intro name heq
                            exact (Option.some.inj heq).symm
                          · intro _
                            exact hcomplete job rfl hterminal
                        · exact hknown
          · intro _ w1 h1
            exact h1

/-- The first part of a spawn leaves the name in flight, not verified. -/
theorem recordOk_unverified {record : ArchivedAnalysisRecord} {trace : Trace}
    (hverified : record.verifiedAt = none)
    (hnamed : forall name, record.jobName = some name ->
      name = archivalJobName text id) :
    RecordOk text id record trace where
  named := hnamed
  verified := by
    intro hsome
    simp [hverified] at hsome

theorem buildArchivalJob_analysisId {policy : StoragePolicy} {ns : String}
    {datapointIds : List String} {manifest : ArchivalJob}
    (h : buildArchivalJob text id policy ns datapointIds = .ok manifest) :
    manifest.analysisId = id := by
  unfold buildArchivalJob at h
  cases hempty : id.isEmpty with
  | true => simp [hempty] at h
  | false =>
      cases hbackend : policy.backend.bind rcloneBackendType with
      | none => simp [hempty, hbackend] at h
      | some remoteType =>
          simp only [hempty, hbackend, Bool.false_eq_true, if_false] at h
          split_ifs at h
          rw [Except.ok.injEq] at h
          rw [← h]

theorem preserves_datapointIdsFor (payload : Option (List DatapointDoc)) :
    Prog.Preserves (SoundInTick text config docs known)
      (datapointIdsFor payload id) env := by
  unfold datapointIdsFor
  apply Prog.Preserves.bind
  · unfold datapointsPayload
    cases payload with
    | some listed => exact Prog.Preserves.pure listed
    | none =>
        apply preserves_call
        · intro _
          trivial
        · intro _ m r hevent
          exact absurd hevent (by simp)
  · intro listed
    exact Prog.Preserves.pure _

theorem preserves_spawnJob (hleaves : env.Leaves Status.archivedAnalyses)
    {doc : AnalysisDoc} (hdoc : (completedById docs).get? id = some doc)
    {clock : Instant} (hclock : completionTime doc = some clock)
    (hpast : clock <= env.now) (payload : Option (List DatapointDoc))
    (result : RetentionTickResult) :
    Prog.Preserves (SoundInTick text config docs known)
      (spawnJob text config id payload result) env := by
  rcases get?_completedById hdoc with ⟨hmem, hid, hstatus⟩
  intro w h
  unfold spawnJob
  simp only [Prog.wp_bind, Prog.wp_read]
  apply Prog.wp_mono (preserves_datapointIdsFor payload w h)
  · rintro ⟨datapointIds, listed⟩ w1 h1
    simp only
    split
    · exact h1
    · rename_i manifest hmanifest
      have hanalysisId := buildArchivalJob_analysisId hmanifest
      simp only [Prog.wp_bind]
      have hcreate : Prog.Preserves (SoundInTick text config docs known)
          (mutateUnless config.dryRun (.createJob manifest)) env := by
        apply preserves_mutateUnless
        intro r w' h'
        constructor
        · intro id' r' hevent
          exact absurd hevent (by simp)
        · intro manifest' r' hevent
          cases hevent
          rw [hanalysisId]
          exact ⟨docs, doc, clock, h'.listed, hmem, hid, hstatus, hclock, hpast⟩
      apply Prog.wp_mono (hcreate w1 h1)
      · intro _ w2 h2
        have hrecord : RecordOk text id
            { backend := config.storagePolicy.backend.getD ""
              bucket := config.storagePolicy.bucket
              jobName := if config.dryRun then none
                else some (archivalJobName text id)
              spawnedAt := some env.now } w2.trace := by
          apply recordOk_unverified rfl
          intro name hname
          simp only at hname
          split_ifs at hname
          exact (Option.some.inj hname).symm
        apply Prog.wp_mono (wp_setArchivedAnalysis_sound hleaves h2 hrecord)
        · intro _ w3 h3
          exact Prog.wp_mono (preserves_emit _ _ _ w3 h3)
            (fun _ _ h4 => h4) (fun _ _ h4 => h4)
        · intro _ w3 h3
          exact h3
      · intro _ w2 h2
        exact h2
  · intro _ w1 h1
    exact h1

theorem preserves_spawnArchival (hleaves : env.Leaves Status.archivedAnalyses)
    (harchive : config.storagePolicy.archiveToS3 = true)
    {doc : AnalysisDoc} (hdoc : (completedById docs).get? id = some doc)
    {clock : Instant} (hclock : completionTime doc = some clock)
    (hpast : clock <= env.now) (payload : Option (List DatapointDoc))
    (result : RetentionTickResult) :
    Prog.Preserves (SoundInTick text config docs [])
      (spawnArchival text config id payload result) env := by
  have hlisted : (completedById docs).contains id = true := by
    rw [Dict.contains_iff_mem_keys, Dict.mem_keys_iff_get?]
    exact ⟨doc, hdoc⟩
  intro w h
  unfold spawnArchival
  simp only [Prog.wp_bind, Prog.wp_read]
  apply Prog.wp_mono (wp_readJob_sound h id)
  · intro job? w1 h1
    rcases h1 with ⟨h1, hcomplete⟩
    cases job? with
    | none => exact preserves_spawnJob hleaves hdoc hclock hpast payload result w1 h1
    | some job =>
        simp only
        cases hterminal : jobTerminalCondition job with
        | none =>
            simp only [Prog.wp_bind]
            apply Prog.wp_mono (wp_setArchivedAnalysis_sound hleaves h1 ?_)
            · intro _ w2 h2
              exact h2
            · intro _ w2 h2
              exact h2
            · apply recordOk_unverified rfl
              intro name hname
              exact (Option.some.inj hname).symm
        | some terminal =>
            cases terminal with
            | complete =>
                simp only [Prog.wp_bind]
                apply Prog.wp_mono (wp_recordVerified_sound hleaves harchive hlisted rfl
                  h1 ?_ (fun _ _ hmem => absurd hmem List.not_mem_nil) _ _)
                · intro _ w2 h2
                  exact h2
                · intro _ w2 h2
                  exact h2
                · constructor
                  · intro name hname
                    exact (Option.some.inj hname).symm
                  · intro _
                    exact hcomplete job rfl hterminal
            | failed =>
                simp only [Prog.wp_bind]
                have hdeleteJob : Prog.Preserves (SoundInTick text config docs [])
                    (mutateUnless config.dryRun
                      (.deleteJob (archivalJobName text id))) env := by
                  apply preserves_mutateUnless
                  intro r w' _
                  exact ⟨fun _ _ hevent => absurd hevent (by simp),
                    fun _ _ hevent => absurd hevent (by simp)⟩
                apply Prog.wp_mono (hdeleteJob w1 h1)
                · intro _ w2 h2
                  exact preserves_spawnJob hleaves hdoc hclock hpast payload result
                    w2 h2
                · intro _ w2 h2
                  exact h2
  · intro _ w1 h1
    exact h1

end TickSteps

/-!
## Whole ticks and whole runs
-/

theorem dueAnalyses_spec {completed : Dict String AnalysisDoc}
    {tracked : Dict String ArchivedAnalysisRecord} {now : Instant}
    {retentionDays : Nat} {id : String}
    (h : id ∈ dueAnalyses completed tracked now (days retentionDays)) :
    exists doc clock, completed.get? id = some doc ∧
      completionTime doc = some clock ∧ clock <= now := by
  unfold dueAnalyses at h
  rw [List.mem_map] at h
  rcases h with ⟨⟨id', doc⟩, hmem, hid⟩
  rw [List.mem_filter] at hmem
  rcases hmem with ⟨hmem, hdue⟩
  simp only at hid
  subst hid
  rw [Bool.and_eq_true] at hdue
  rcases hdue with ⟨_, heligible⟩
  cases hclock : completionTime doc with
  | none => simp [eligible, hclock] at heligible
  | some clock =>
      have hage : days retentionDays <= now - clock := by
        simp only [eligible, hclock, Bool.if_false_right, Bool.and_eq_true,
          decide_eq_true_eq] at heligible
        exact heligible.2
      refine ⟨doc, clock, (Dict.mem_entries_iff_get? _ _ _).mp hmem, hclock, ?_⟩
      unfold days at hage
      lia

theorem wp_runRetentionTick_sound {text : TextOps} {config : OperatorConfig}
    {env : Env} {w : World} (hleaves : env.Leaves Status.archivedAnalyses)
    (hsound : Sound text w) (hconfig : currentConfig w.trace = some config) :
    Prog.wp (runRetentionTick text config) env w
      (fun _ w' => Sound text w') (fun _ w' => Sound text w') := by
  unfold runRetentionTick
  simp only [Prog.wp_bind, Prog.wp_read]
  apply Prog.wp_ite
  · intro _
    exact hsound
  · intro harchive
    apply Prog.wp_ite
    · intro _
      exact hsound
    · intro _
      have harchive' : config.storagePolicy.archiveToS3 = true := by
        simpa using harchive
      have hlog : forall r, Sound text (w.log env.now (.listAnalyses r)) := by
        intro r
        refine ⟨?_, .cons (entryJustified_of_not_mutate (by simp) _) hsound.history⟩
        intro id record hget
        exact (hsound.records id record hget).cons
          (not_clearsRecord_of_plain (by trivial) id env.now _)
      simp only [Prog.wp_bind]
      apply wp_call
      · intro docs _
        have hstart : SoundInTick text config docs []
            (w.log env.now (.listAnalyses (.ok docs))) :=
          { hlog (.ok docs) with
            config := hconfig
            listed := ⟨_, List.mem_cons_self, rfl⟩
            known := fun _ _ hmem => absurd hmem List.not_mem_nil }
        apply Prog.wp_mono (wp_getArchivedAnalyses_sound hleaves hstart)
        · intro tracked w1 h1
          apply Prog.wp_foldlM
            (fun rest _ w' => SoundInTick text config docs rest w' ∧
              (rest.map Prod.fst).Nodup)
          · rintro ⟨id, record⟩ rest result w2 ⟨h2, hnodup⟩
            rw [List.map_cons, List.nodup_cons] at hnodup
            have hknown : forall k r, (k, r) ∈ rest -> k ≠ id := by
              intro k r hmem hk
              exact hnodup.1 (List.mem_map.mpr ⟨(k, r), hmem, hk⟩)
            apply Prog.wp_mono
              (wp_reconcileTracked_sound hleaves harchive' h2 hknown result)
            · intro _ w3 h3
              exact ⟨h3, hnodup.2⟩
            · intro _ w3 h3
              exact h3.toSound
          · rintro result w2 ⟨h2, _⟩
            refine Prog.wp_mono (Prog.Preserves.foldlM ?_ (result, none) w2 h2)
              (fun _ _ h3 => h3.toSound) (fun _ _ h3 => h3.toSound)
            intro id hdue state
            rcases dueAnalyses_spec hdue with ⟨doc, clock, hdoc, hclock, hpast⟩
            exact preserves_spawnArchival hleaves harchive' hdoc hclock hpast
              state.2 state.1
          · exact ⟨h1, tracked.nodupKeys⟩
        · intro _ w1 h1
          exact h1.toSound
      · intro e _
        exact hlog (.error e)

/-- One tick keeps the invariant, whatever the answers and wherever it stops. -/
theorem runRetentionTick_sound {text : TextOps} {t : Tick} {w : World}
    (hleaves : t.env.Leaves Status.archivedAnalyses) (hsound : Sound text w) :
    Sound text (runTick (runRetentionTick text) t w) := by
  unfold runTick
  apply Prog.exec_of_wp
  unfold inTick
  rw [Prog.wp_bind, wp_note]
  apply wp_runRetentionTick_sound hleaves
  · refine ⟨?_, .cons (entryJustified_of_not_mutate (by simp) _) hsound.history⟩
    intro id record hget
    apply (hsound.records id record hget).cons
    rintro ⟨⟨r, hevent⟩, _⟩
    exact absurd hevent (by simp)
  · rfl

/-- Every run from an empty map satisfies the invariant. -/
theorem runRetentionTicks_sound {text : TextOps} {ticks : List Tick}
    (hleaves : forall t, t ∈ ticks -> t.env.Leaves Status.archivedAnalyses)
    {status : Status} (hempty : status.archivedAnalyses = Dict.empty) :
    Sound text (runTicks (runRetentionTick text) ticks { status := status }) := by
  apply runTicks_induction (Sound text)
  · constructor
    · intro id record hget
      rw [hempty, Dict.get?_empty] at hget
      exact absurd hget (by simp)
    · exact .nil
  · intro t w ht hsound
    exact runRetentionTick_sound (hleaves t ht) hsound

/-- The cardinal rule: every delete call of a run is preceded, in its tick, by
a listing of the analysis as completed under a policy that deletes, and rests
on a Job seen complete whose record was not cleared since. -/
theorem deleteAnalysis_justified (text : TextOps) (ticks : List Tick)
    (status : Status) (hempty : status.archivedAnalyses = Dict.empty)
    (hleaves : forall t, t ∈ ticks -> t.env.Leaves Status.archivedAnalyses) :
    forall after e before id r,
      (runTicks (runRetentionTick text) ticks { status := status }).trace =
        after ++ e :: before ->
      e.event = .mutate (.deleteAnalysis id) r ->
        DeleteJustified text id before := by
  intro after e before id r htrace hevent
  have hhistory : Throughout (EntryJustified text) _ :=
    (runRetentionTicks_sound hleaves hempty).history
  rw [htrace] at hhistory
  exact (hhistory.of_split after).1 id r hevent

/-- The text functions on the one id of the runs below. -/
def sampleText : TextOps where
  lower := fun s => String.ofList (s.toList.map Char.toLower)
  sha256Hex := fun s =>
    if s = "a" then
      "ca978112ca1bbdcafac231b39a23dc4da786eff8147c4e72b9807785afee48bb"
    else ""

def sampleConfig (purge : Bool) : OperatorConfig where
  storagePolicy :=
    { archiveToS3 := true
      backend := some "s3"
      bucket := some "bucket"
      secretRef := some "secret"
      purgeCompletedNfsFiles := purge }

def completeJob (createdAt : Instant) : Job where
  createdAt := createdAt
  conditions := [⟨some "Complete", some "True"⟩]

def sampleDoc (clock : Instant) : AnalysisDoc where
  id := some "a"
  status := some "completed"
  updatedAt := some clock

/-- A tick that lists the analysis `a` as completed. -/
def sampleTick (now clock : Instant) (purge : Bool) (job : Except Exc Job) :
    Tick where
  env :=
    { Env.quiet now with
      listAnalyses := fun _ => .ok [sampleDoc clock]
      readJob := fun _ _ => job }
  config := sampleConfig purge

def adoptingTicks : List Tick :=
  [sampleTick (days 10) (days 1) true (.ok (completeJob (days 9)))]

/-- One tick that adopts a complete Job and deletes. -/
def adoptingRun : Trace :=
  (runTicks (runRetentionTick sampleText) adoptingTicks {}).trace

theorem deleteAnalysis_justified_adopted :
    exists after e before,
      adoptingRun = after ++ e :: before ∧
      e.event = .mutate (.deleteAnalysis "a") (.ok ()) ∧
      DeleteJustified sampleText "a" before := by
  have hevent : (adoptingRun[2]?).map Entry.event =
      some (.mutate (.deleteAnalysis "a") (.ok ())) := by decide +kernel
  rw [Option.map_eq_some_iff] at hevent
  rcases hevent with ⟨e, he, hevent⟩
  refine ⟨_, e, _, eq_take_cons_drop he, hevent, ?_⟩
  apply deleteAnalysis_justified sampleText adoptingTicks {} rfl
  · intro t ht trace op n s
    rw [adoptingTicks, List.mem_singleton] at ht
    subst ht
    exact ⟨rfl, rfl⟩
  · exact eq_take_cons_drop he
  · exact hevent

/-!
## Freshness of the archive

Nothing compares the age of a Job with the completion clock of the document a
delete reads.  What the pipeline keeps is the order at the spawn: the Job is
younger than the completion the spawning tick saw.
-/

/-- The delete rests on this complete Job, read at the entry after `older`. -/
def RestsOn (text : TextOps) (id : String) (job : Job) (older before : Trace) :
    Prop :=
  exists newer e, before = newer ++ e :: older ∧
    e.event = .readJob (archivalJobName text id) (.ok job) ∧
    CompletesFirst job.conditions ∧ forall e', e' ∈ newer -> ¬ ClearsRecord id e'

/-- The tick at hand read a document of `id` with this completion clock. -/
def ReadsClock (id : String) (clock : Instant) (trace : Trace) : Prop :=
  exists docs doc, Listed docs trace ∧ doc ∈ docs ∧ doc.id = some id ∧
    doc.status = some "completed" ∧ completionTime doc = some clock

/-- The run's own create call of `id` that made this Job, at the entry after
`spawning`: the Job was created during or after the tick of the call. -/
def SpawnedBy (id : String) (job : Job) (spawning older : Trace) : Prop :=
  exists newer e manifest r, older = newer ++ e :: spawning ∧
    e.event = .mutate (.createJob manifest) r ∧ manifest.analysisId = id ∧
    e.time <= job.createdAt

/-- A Job the run spawned is not older than the completion its spawning tick
read, so it covers the document of the deleting tick unless the clock of that
document moved on after the spawn. -/
theorem deleteAnalysis_archive_fresh_at_spawn (text : TextOps)
    (ticks : List Tick) (status : Status)
    (hempty : status.archivedAnalyses = Dict.empty)
    (hleaves : forall t, t ∈ ticks -> t.env.Leaves Status.archivedAnalyses) :
    forall after e before id r,
      (runTicks (runRetentionTick text) ticks { status := status }).trace =
        after ++ e :: before ->
      e.event = .mutate (.deleteAnalysis id) r ->
        exists job older, RestsOn text id job older before ∧
          forall spawning, SpawnedBy id job spawning older ->
            exists spawnClock, ReadsClock id spawnClock spawning ∧
              spawnClock <= job.createdAt ∧
              forall clock, ReadsClock id clock before ->
                clock <= job.createdAt ∨ spawnClock < clock := by
  intro after e before id r htrace hevent
  have hhistory : Throughout (EntryJustified text) _ :=
    (runRetentionTicks_sound hleaves hempty).history
  rw [htrace] at hhistory
  have hverified := ((hhistory.of_split after).1 id r hevent).verified
  rcases hverified.exists_split with ⟨newer, seen, older, hbefore, hseen, hnewer⟩
  rcases hseen with ⟨job, hjob, hcomplete⟩
  refine ⟨job, older, ⟨newer, seen, hbefore, hjob, hcomplete, hnewer⟩, ?_⟩
  rintro spawning ⟨newer', create, manifest, r', holder, hcreate, hid, htime⟩
  -- the create call is further down the same history
  have hcreated : EntryJustified text create spawning := by
    apply Throughout.of_split (after ++ e :: newer ++ seen :: newer')
    rw [hbefore, holder] at hhistory
    simpa only [List.append_assoc, List.cons_append] using hhistory
  rcases hcreated.2 manifest r' hcreate with
    ⟨docs, doc, spawnClock, hlisted, hmem, hdocId, hstatus, hclock, hpast⟩
  rw [hid] at hdocId
  have hfresh : spawnClock <= job.createdAt := by lia
  refine ⟨spawnClock, ⟨docs, doc, hlisted, hmem, hdocId, hstatus, hclock⟩, hfresh, ?_⟩
  intro clock _
  rcases Int.lt_or_le spawnClock clock with hmoved | hsame
  · exact Or.inr hmoved
  · exact Or.inl (Int.le_trans hsame hfresh)

/-- The Job is spawned on day 10 and seen complete on day 11 under a policy that
does not purge; on day 30 the policy purges and the document carries the given
clock. -/
def purgeLaterTicks (clock : Instant) : List Tick :=
  [sampleTick (days 10) (days 1) false (.error (.apiException (some 404))),
    sampleTick (days 11) (days 1) false (.ok (completeJob (days 10))),
    sampleTick (days 30) clock true (.ok (completeJob (days 10)))]

def purgeLaterRun (clock : Instant) : Trace :=
  (runTicks (runRetentionTick sampleText) (purgeLaterTicks clock) {}).trace

theorem deleteAnalysis_archive_fresh_at_spawn_still :
    exists after e before,
      purgeLaterRun (days 1) = after ++ e :: before ∧
      e.event = .mutate (.deleteAnalysis "a") (.ok ()) ∧
      exists job older, RestsOn sampleText "a" job older before ∧
        forall spawning, SpawnedBy "a" job spawning older ->
          exists spawnClock, ReadsClock "a" spawnClock spawning ∧
            spawnClock <= job.createdAt ∧
            forall clock, ReadsClock "a" clock before ->
              clock <= job.createdAt ∨ spawnClock < clock := by
  have hevent : ((purgeLaterRun (days 1))[2]?).map Entry.event =
      some (.mutate (.deleteAnalysis "a") (.ok ())) := by decide +kernel
  rw [Option.map_eq_some_iff] at hevent
  rcases hevent with ⟨e, he, hevent⟩
  refine ⟨_, e, _, eq_take_cons_drop he, hevent, ?_⟩
  apply deleteAnalysis_archive_fresh_at_spawn sampleText (purgeLaterTicks (days 1)) {} rfl
  · intro t ht trace op n s
    simp only [purgeLaterTicks, List.mem_cons, List.not_mem_nil, or_false] at ht
    rcases ht with ht | ht | ht <;> subst ht <;> exact ⟨rfl, rfl⟩
  · exact eq_take_cons_drop he
  · exact hevent

/-- A Job that the entry read was created before the instant. -/
def Entry.readsJobBefore (limit : Instant) (e : Entry) : Bool :=
  match e.event with
  | .readJob _ (.ok job) => job.createdAt < limit
  | _ => true

/-- A re-run that completed again on day 20 is deleted on day 30 on the
strength of the Job of day 10. -/
theorem deleteAnalysis_on_older_archive :
    exists after e before,
      purgeLaterRun (days 20) = after ++ e :: before ∧
      e.event = .mutate (.deleteAnalysis "a") (.ok ()) ∧
      ReadsClock "a" (days 20) before ∧
      forall job older, RestsOn sampleText "a" job older before ->
        job.createdAt < days 20 := by
  have hevent : ((purgeLaterRun (days 20))[2]?).map Entry.event =
      some (.mutate (.deleteAnalysis "a") (.ok ())) := by decide +kernel
  have hlisted : ((currentTick ((purgeLaterRun (days 20)).drop 3)).any fun e =>
      e.event = .listAnalyses (.ok [sampleDoc (days 20)])) = true := by decide +kernel
  have hreads : ((purgeLaterRun (days 20)).drop 3).all (Entry.readsJobBefore (days 20)) =
      true := by decide +kernel
  rw [Option.map_eq_some_iff] at hevent
  rcases hevent with ⟨e, he, hevent⟩
  refine ⟨_, e, _, eq_take_cons_drop he, hevent, ?_, ?_⟩
  · rcases List.any_eq_true.mp hlisted with ⟨listing, hmem, hlisting⟩
    exact ⟨_, _, ⟨listing, hmem, of_decide_eq_true hlisting⟩, List.mem_cons_self,
      rfl, rfl, rfl⟩
  · intro job older hrests
    rcases hrests with ⟨newer, seen, hbefore, hseen, _⟩
    have hmem : seen ∈ (purgeLaterRun (days 20)).drop 3 := by
      rw [hbefore]
      exact List.mem_append_right newer List.mem_cons_self
    have hseenRead := List.all_eq_true.mp hreads seen hmem
    rw [Entry.readsJobBefore, hseen] at hseenRead
    exact of_decide_eq_true hseenRead

end OpenStudioOperator
