import OpenStudioOperator.RetentionSafety

/-!
# The recorded destination

A Job uploads to the place its manifest names.  A record written at the spawn
names the same place; one written at an adoption names the place of the current
policy, which may have changed since the Job was created.
-/

namespace OpenStudioOperator

open Foundation

/-!
## Jobs and their manifests
-/

/-- What the history does not tell about the Jobs: the manifests of those that
were there before it, and whether a create call that raised went through. -/
structure JobHistory where
  initial : String -> Option ArchivalJob
  landed : Trace -> Bool

/-- The manifest from which the Job of that name was created. -/
def JobHistory.manifest (jobs : JobHistory) (name : String) :
    Trace -> Option ArchivalJob
  | [] => jobs.initial name
  | e :: older =>
      match e.event with
      | .mutate (.createJob m) r =>
          if m.name = name ∧ (r = .ok () ∨ jobs.landed older = true) then some m
          else jobs.manifest name older
      | _ => jobs.manifest name older

theorem JobHistory.manifest_cons {jobs : JobHistory} {e : Entry}
    (he : forall m r, e.event ≠ .mutate (.createJob m) r) (name : String)
    (older : Trace) :
    jobs.manifest name (e :: older) = jobs.manifest name older := by
  rw [JobHistory.manifest]
  split
  · rename_i m r hevent
    exact absurd hevent (he m r)
  · rfl

/-- After a create call the name has the new manifest or the one before. -/
theorem JobHistory.manifest_create (jobs : JobHistory) (name : String) {e : Entry}
    {m : ArchivalJob} {r : Except Exc Unit}
    (he : e.event = .mutate (.createJob m) r) (older : Trace) :
    (m.name = name ∧ jobs.manifest name (e :: older) = some m) ∨
      jobs.manifest name (e :: older) = jobs.manifest name older := by
  rw [JobHistory.manifest]
  simp only [he]
  split_ifs with hnew
  · exact Or.inl ⟨hnew.1, rfl⟩
  · exact Or.inr rfl

/-- The manifest uploads to this bucket of this backend. -/
def UploadsTo (backend : String) (bucket : Option String) (m : ArchivalJob) : Prop :=
  m.backend = backend ∧ exists b ids, bucket = some b ∧
    m.archiveDestination = s!"{rcloneRemoteName}:{b}/{m.analysisId}" ∧
    m.script = archiveScript m.analysisId b ids

theorem buildArchivalJob_uploadsTo {text : TextOps} {id : String}
    {policy : StoragePolicy} {ns : String} {datapointIds : List String}
    {manifest : ArchivalJob}
    (h : buildArchivalJob text id policy ns datapointIds = .ok manifest) :
    manifest.name = archivalJobName text id ∧
      UploadsTo (policy.backend.getD "") policy.bucket manifest := by
  unfold buildArchivalJob at h
  cases hbackend : policy.backend.bind rcloneBackendType with
  | none =>
      rw [hbackend] at h
      split_ifs at h
  | some remoteType =>
      rw [hbackend] at h
      simp only at h
      split_ifs at h with _ hbucket
      cases hb : policy.bucket with
      | none =>
          rw [hb] at hbucket
          exact absurd rfl hbucket
      | some b =>
          rw [hb, Option.getD_some, Except.ok.injEq] at h
          rw [← h]
          refine ⟨rfl, rfl, b, datapointIds, rfl, ?_, ?_⟩
          · simp only
          · simp only

/-!
## The property
-/

/-- The newest call found the record's Job complete, and the Job was created
from a manifest that uploads to the recorded place. -/
def NamesUpload (jobs : JobHistory) (record : ArchivedAnalysisRecord)
    (before : Trace) : Prop :=
  exists name job e older, record.jobName = some name ∧ before = e :: older ∧
    e.event = .readJob name (.ok job) ∧ CompletesFirst job.conditions ∧
    forall m, jobs.manifest name before = some m ->
      UploadsTo record.backend record.bucket m

/-- As `NamesUpload`, at some earlier stage of the history. -/
def NamedUpload (jobs : JobHistory) (record : ArchivedAnalysisRecord)
    (trace : Trace) : Prop :=
  exists newer before, trace = newer ++ before ∧ NamesUpload jobs record before

/-- The text of the deletion Event. -/
def deletionMessage (analysisId : String) (record : ArchivedAnalysisRecord) :
    String :=
  let backend := record.backend
  let bucket := showBucket record.bucket
  s!"Analysis {analysisId} deleted after verified archival to " ++
    s!"{backend}:{bucket}/{analysisId} — REST cascade frees NFS assets " ++
    "+ Mongo documents"

/-- A record that becomes verified names the place its Job uploaded to, and a
deletion Event is built from such a record. -/
structure EntryPlaced (jobs : JobHistory) (initial : Status) (e : Entry)
    (before : Trace) : Prop where
  recorded : forall id record, e.status.archivedAnalyses.get? id = some record ->
    record.verifiedAt.isSome ->
    (forall old, (latestStatus initial before).archivedAnalyses.get? id = some old ->
      old.verifiedAt = none) ->
    NamesUpload jobs record before
  announced : forall type message r,
    e.event = .emit type analysisDeletedEvent message r ->
    exists id record suffix, NamedUpload jobs record before ∧
      message = deletionMessage id record ++ suffix

/-!
## The condition
-/

/-- The tick at hand found `id` due and did not track it. -/
def Due (id : String) (before : Trace) : Prop :=
  exists docs config snapshot, Listed docs before ∧
    currentConfig before = some config ∧ snapshot ∈ currentTick before ∧
    snapshot.event = .store .getArchivedAnalyses (.ok ()) ∧
    id ∈ dueAnalyses (completedById docs) snapshot.status.archivedAnalyses
      snapshot.time (days config.storagePolicy.retentionDays)

/-- A Job that a due analysis adopts uploads to the place of the policy, and
no Job is created under the name of an in-flight record of another place. -/
structure KeepsPlace (text : TextOps) (jobs : JobHistory) (e : Entry)
    (before : Trace) : Prop where
  adopts : forall id job config m,
    e.event = .readJob (archivalJobName text id) (.ok job) -> Due id before ->
    jobTerminalCondition job ≠ some .failed ->
    currentConfig before = some config ->
    jobs.manifest (archivalJobName text id) before = some m ->
    UploadsTo (config.storagePolicy.backend.getD "") config.storagePolicy.bucket m
  spawns : forall m r id record, e.event = .mutate (.createJob m) r ->
    e.status.archivedAnalyses.get? id = some record -> record.verifiedAt = none ->
    record.jobName = some m.name -> UploadsTo record.backend record.bucket m

/-!
## The invariant
-/

/-- What the history says about the place a record names. -/
structure RecordPlaced (jobs : JobHistory) (record : ArchivedAnalysisRecord)
    (trace : Trace) : Prop where
  inFlight : record.verifiedAt = none -> forall name m, record.jobName = some name ->
    jobs.manifest name trace = some m -> UploadsTo record.backend record.bucket m
  verified : record.verifiedAt.isSome -> NamedUpload jobs record trace

/-- The invariant between ticks. -/
structure Placed (jobs : JobHistory) (initial : Status) (w : World) : Prop where
  latest : latestStatus initial w.trace = w.status
  records : forall id record, w.status.archivedAnalyses.get? id = some record ->
    RecordPlaced jobs record w.trace
  history : Throughout (EntryPlaced jobs initial) w.trace

/-- What a tick has read before its first step, and what it takes as given. -/
structure TickView where
  text : TextOps
  jobs : JobHistory
  initial : Status
  config : OperatorConfig
  docs : List AnalysisDoc
  tracked : Dict String ArchivedAnalysisRecord
  now : Instant

/-- The analyses that the tick spawns or adopts. -/
def TickView.due (v : TickView) : List String :=
  dueAnalyses (completedById v.docs) v.tracked v.now
    (days v.config.storagePolicy.retentionDays)

/-- The invariant inside a tick, for the records still to be advanced and the
analyses still to be spawned. -/
structure PlacedInTick (v : TickView) (known : List (String × ArchivedAnalysisRecord))
    (todo : List String) (w : World) : Prop extends Placed v.jobs v.initial w where
  config : currentConfig w.trace = some v.config
  listed : Listed v.docs w.trace
  snapshot : exists e, e ∈ currentTick w.trace ∧
    e.event = .store .getArchivedAnalyses (.ok ()) ∧
    e.status.archivedAnalyses = v.tracked ∧ e.time = v.now
  known : forall id record, (id, record) ∈ known -> RecordPlaced v.jobs record w.trace
  free : forall id, id ∈ todo -> w.status.archivedAnalyses.get? id = none

/-- `P` holds unless the history has left the condition. -/
def OnCourse (text : TextOps) (jobs : JobHistory) (P : World -> Prop) (w : World) :
    Prop :=
  Throughout (KeepsPlace text jobs) w.trace -> P w

theorem NamedUpload.cons {jobs : JobHistory} {record : ArchivedAnalysisRecord}
    {trace : Trace} (h : NamedUpload jobs record trace) (e : Entry) :
    NamedUpload jobs record (e :: trace) := by
  rcases h with ⟨newer, before, htrace, hnamed⟩
  exact ⟨e :: newer, before, by rw [htrace, List.cons_append], hnamed⟩

theorem RecordPlaced.cons {jobs : JobHistory} {record : ArchivedAnalysisRecord}
    {trace : Trace} (h : RecordPlaced jobs record trace) {e : Entry}
    (he : forall m r, e.event ≠ .mutate (.createJob m) r) :
    RecordPlaced jobs record (e :: trace) where
  inFlight := by
    intro hnone name m hname hm
    rw [JobHistory.manifest_cons he] at hm
    exact h.inFlight hnone name m hname hm
  verified := fun hsome => (h.verified hsome).cons e

/-- A call that leaves the status verifies no record. -/
theorem entryPlaced_of_status {jobs : JobHistory} {initial : Status} {e : Entry}
    {before : Trace} (hstatus : latestStatus initial before = e.status)
    (hannounced : forall type message r,
      e.event = .emit type analysisDeletedEvent message r ->
      exists id record suffix, NamedUpload jobs record before ∧
        message = deletionMessage id record ++ suffix) :
    EntryPlaced jobs initial e before where
  recorded := by
    intro id record hget hsome hbefore
    rw [hstatus] at hbefore
    rw [hbefore record hget] at hsome
    cases hsome
  announced := hannounced

/-- The calls that neither announce a deletion nor touch a Job or the status. -/
structure Event.Aside (event : Event) : Prop where
  plain : event.Plain
  create : forall m r, event ≠ .mutate (.createJob m) r
  announce : forall type message r, event ≠ .emit type analysisDeletedEvent message r

section Steps

variable {v : TickView} {known : List (String × ArchivedAnalysisRecord)}
variable {todo : List String} {w : World} {time : Instant} {event : Event}

theorem PlacedInTick.log (h : PlacedInTick v known todo w) (hplain : event.Plain)
    (hcreate : forall m r, event ≠ .mutate (.createJob m) r)
    (hannounced : forall type message r,
      event = .emit type analysisDeletedEvent message r ->
      exists id record suffix, NamedUpload v.jobs record w.trace ∧
        message = deletionMessage id record ++ suffix) :
    PlacedInTick v known todo (w.log time event) where
  latest := rfl
  records := fun id record hget => (h.records id record hget).cons hcreate
  history := .cons (entryPlaced_of_status h.latest hannounced) h.history
  config := by
    rw [World.log_trace, currentConfig_cons hplain.not_tickStart]
    exact h.config
  listed := h.listed.cons_of_plain hplain
  snapshot := by
    rcases h.snapshot with ⟨e, hmem, he⟩
    refine ⟨e, ?_, he⟩
    rw [World.log_trace, currentTick_cons hplain.not_tickStart]
    exact List.mem_cons_of_mem _ hmem
  known := fun id record hmem => (h.known id record hmem).cons hcreate
  free := h.free

theorem PlacedInTick.aside (h : PlacedInTick v known todo w) (haside : event.Aside) :
    PlacedInTick v known todo (w.log time event) :=
  h.log haside.plain haside.create fun type message r hevent =>
    absurd hevent (haside.announce type message r)

/-- A create call, once no record in memory is in flight. -/
theorem PlacedInTick.create (h : PlacedInTick v [] todo w) {m : ArchivalJob}
    {r : Except Exc Unit}
    (hkeeps : KeepsPlace v.text v.jobs ⟨time, .mutate (.createJob m) r, w.status⟩
      w.trace) :
    PlacedInTick v [] todo (w.log time (.mutate (.createJob m) r)) where
  latest := rfl
  records := by
    intro id record hget
    constructor
    · intro hnone name m' hname hm'
      rcases v.jobs.manifest_create name
        (e := ⟨time, .mutate (.createJob m) r, w.status⟩) rfl w.trace with
        ⟨hm, hnew⟩ | hold
      · rw [World.log_trace, hnew, Option.some.injEq] at hm'
        rw [← hm']
        rw [← hm] at hname
        exact hkeeps.spawns m r id record rfl hget hnone hname
      · rw [World.log_trace, hold] at hm'
        exact (h.records id record hget).inFlight hnone name m' hname hm'
    · intro hsome
      exact ((h.records id record hget).verified hsome).cons _
  history := by
    refine .cons (entryPlaced_of_status h.latest ?_) h.history
    intro type message r' hevent
    cases hevent
  config := h.config
  listed := h.listed.cons_of_plain trivial
  snapshot := by
    rcases h.snapshot with ⟨e, hmem, he⟩
    exact ⟨e, List.mem_cons_of_mem _ hmem, he⟩
  known := fun id record hmem => absurd hmem List.not_mem_nil
  free := h.free

/-- A status call, by what it leaves of the records. -/
theorem PlacedInTick.commit (h : PlacedInTick v known todo w) {todo' : List String}
    {op : StoreOp} {r : Except Exc Unit} {s : Status}
    (hrecords : forall id record, s.archivedAnalyses.get? id = some record ->
      RecordPlaced v.jobs record w.trace ∧
        (w.status.archivedAnalyses.get? id = some record ∨
          (record.verifiedAt.isSome -> NamesUpload v.jobs record w.trace)))
    (hfree : forall id, id ∈ todo' -> s.archivedAnalyses.get? id = none) :
    PlacedInTick v known todo' (w.commit time op r s) where
  latest := rfl
  records := fun id record hget => (hrecords id record hget).1.cons (by simp)
  history := by
    refine .cons ⟨?_, ?_⟩ h.history
    · intro id record hget hsome hbefore
      rw [h.latest] at hbefore
      rcases (hrecords id record hget).2 with hold | hnew
      · rw [hbefore record hold] at hsome
        cases hsome
      · exact hnew hsome
    · intro type message r' hevent
      cases hevent
  config := h.config
  listed := h.listed.commit time op r s
  snapshot := by
    rcases h.snapshot with ⟨e, hmem, he⟩
    exact ⟨e, List.mem_cons_of_mem _ hmem, he⟩
  known := fun id record hmem => (h.known id record hmem).cons (by simp)
  free := hfree

theorem PlacedInTick.forget (h : PlacedInTick v known todo w)
    {fewer : List (String × ArchivedAnalysisRecord)}
    (hfewer : forall entry, entry ∈ fewer -> entry ∈ known) :
    PlacedInTick v fewer todo w :=
  { h with known := fun id record hmem => h.known id record (hfewer _ hmem) }

end Steps

/-- The invariant inside a tick, unless the history has left the condition. -/
def TickView.Holds (v : TickView) (known : List (String × ArchivedAnalysisRecord))
    (todo : List String) : World -> Prop :=
  OnCourse v.text v.jobs (PlacedInTick v known todo)

/-!
## The calls of a tick
-/

section Calls

variable {v : TickView} {known : List (String × ArchivedAnalysisRecord)}
variable {todo : List String} {env : Env} {w : World}

theorem TickView.Holds.aside (h : v.Holds known todo w) {time : Instant} {event : Event}
    (haside : event.Aside) : v.Holds known todo (w.log time event) :=
  fun hcourse => (h hcourse.tail).aside haside

theorem TickView.Holds.forget (h : v.Holds known todo w)
    {fewer : List (String × ArchivedAnalysisRecord)}
    (hfewer : forall entry, entry ∈ fewer -> entry ∈ known) :
    v.Holds fewer todo w :=
  fun hcourse => (h hcourse).forget hfewer

theorem holds_call_aside {alpha : Type} {answer : Env -> Trace -> Except Exc alpha}
    {event : Except Exc alpha -> Event} (haside : forall r, (event r).Aside) :
    Prog.Preserves (v.Holds known todo) (call answer event) env := by
  intro w h
  apply wp_call
  · intro a _
    exact h.aside (haside _)
  · intro e _
    exact h.aside (haside _)

theorem holds_emit_other (type : EventType) {reason : String}
    (hreason : reason ≠ analysisDeletedEvent) (message : String) :
    Prog.Preserves (v.Holds known todo) (emit type reason message) env := by
  apply holds_call_aside
  intro r
  refine ⟨trivial, by simp, ?_⟩
  intro type' message' r' hevent
  rw [Event.emit.injEq] at hevent
  exact hreason hevent.2.1

/-- A deletion Event for a record in memory. -/
theorem holds_emit_deleted {id : String} {record : ArchivedAnalysisRecord}
    (hmem : (id, record) ∈ known) (hsome : record.verifiedAt.isSome)
    {message suffix : String} (hmessage : message = deletionMessage id record ++ suffix)
    (type : EventType) :
    Prog.Preserves (v.Holds known todo) (emit type analysisDeletedEvent message) env := by
  intro w h
  have hlog : forall r, v.Holds known todo
      (w.log env.now (.emit type analysisDeletedEvent message r)) := by
    intro r hcourse
    have hin := h hcourse.tail
    apply PlacedInTick.log hin (by trivial) (by simp)
    intro type' message' r' hevent
    rw [Event.emit.injEq] at hevent
    refine ⟨id, record, suffix, (hin.known id record hmem).verified hsome, ?_⟩
    rw [← hevent.2.2.1]
    exact hmessage
  apply wp_call
  · intro _ _
    exact hlog _
  · intro _ _
    exact hlog _

/-- A record that was absent is so after any other write. -/
theorem get?_mapWrite_none (hleaves : env.Leaves Status.archivedAnalyses) {id k : String}
    {encoded : Option ArchivedAnalysisRecord} {r : Except Exc Unit} {s s' : Status}
    (hwrite : MapWrite env archivedAnalysesField id encoded r s s')
    (hk : k ≠ id ∨ encoded = none) (hnone : s.archivedAnalyses.get? k = none) :
    s'.archivedAnalyses.get? k = none := by
  have hleavesField : env.Leaves archivedAnalysesField.read := hleaves
  cases hget : s'.archivedAnalyses.get? k with
  | none => rfl
  | some value =>
      rcases hwrite.entry_cases (hleavesField.entry k) hget with
        ⟨hkey, new, hnew, _⟩ | hold
      · rcases hk with hne | hclear
        · exact absurd hkey hne
        · rw [hclear] at hnew
          cases hnew
      · have hsome : s.archivedAnalyses.get? k = some value := hold
        rw [hnone] at hsome
        cases hsome

theorem wp_setMapEntry_holds {todo' : List String} {op : StoreOp} {id : String}
    {encoded : Option ArchivedAnalysisRecord}
    (hcommit : forall r s,
      MapWrite env archivedAnalysesField id encoded r w.status s ->
      v.Holds known todo' (w.commit env.now op r s)) :
    Prog.wp (setMapEntry op archivedAnalysesField id encoded) env w
      (fun _ w' => v.Holds known todo' w') (fun _ w' => v.Holds known todo' w') := by
  apply wp_setMapEntry
  · intro s hwrite
    exact hcommit _ s hwrite
  · intro s e hwrite
    exact hcommit _ s hwrite
  · intro w' message h'
    exact h'.aside ⟨trivial, by simp, by simp⟩
  · intro w' message e h'
    exact h'.aside ⟨trivial, by simp, by simp⟩

theorem holds_clearArchivedAnalysis (hleaves : env.Leaves Status.archivedAnalyses)
    (id : String) :
    Prog.Preserves (v.Holds known todo) (clearArchivedAnalysis id) env := by
  intro w h
  apply wp_setMapEntry_holds
  intro r s hwrite hcourse
  have hin := h hcourse.tail
  have hleavesField : env.Leaves archivedAnalysesField.read := hleaves
  apply hin.commit
  · intro k record hget
    rcases hwrite.entry_cases (hleavesField.entry k) hget with ⟨_, new, hnew, _⟩ | hold
    · cases hnew
    · exact ⟨hin.records k record hold, Or.inl hold⟩
  · intro k hk
    exact get?_mapWrite_none hleaves hwrite (Or.inr rfl) (hin.free k hk)

theorem NamesUpload.mergeEntry {jobs : JobHistory} {new : ArchivedAnalysisRecord}
    {before : Trace} (h : NamesUpload jobs new before)
    (old : Option ArchivedAnalysisRecord) :
    NamesUpload jobs
      (OpenStudioOperator.mergeEntry ArchivedAnalysisRecord.merge old new) before := by
  rcases h with ⟨name, job, e, older, hname, hrest⟩
  cases old with
  | none => exact ⟨name, job, e, older, hname, hrest⟩
  | some old =>
      refine ⟨name, job, e, older, ?_, hrest⟩
      show new.jobName.or old.jobName = some name
      rw [hname, Option.some_or]

/-- Recording, once it is known where the record that is stored points. -/
theorem wp_setArchivedAnalysis_holds (hleaves : env.Leaves Status.archivedAnalyses)
    {todo' : List String} (h : v.Holds known todo w) {id : String}
    (htodo : forall k, k ∈ todo' -> k ∈ todo ∧ k ≠ id) {record : ArchivedAnalysisRecord}
    (hstored : OnCourse v.text v.jobs (fun w' => forall value,
      value = OpenStudioOperator.mergeEntry ArchivedAnalysisRecord.merge
        (archivedAnalysesField.entry id w'.status) record ->
      RecordPlaced v.jobs value w'.trace ∧
        (value.verifiedAt.isSome -> NamesUpload v.jobs value w'.trace)) w) :
    Prog.wp (setArchivedAnalysis id record) env w
      (fun _ w' => v.Holds known todo' w') (fun _ w' => v.Holds known todo' w') := by
  apply wp_setMapEntry_holds
  intro r s hwrite hcourse
  have hin := h hcourse.tail
  have hleavesField : env.Leaves archivedAnalysesField.read := hleaves
  apply hin.commit
  · intro k value hget
    rcases hwrite.entry_cases (hleavesField.entry k) hget with
      ⟨_, new, hnew, hvalue⟩ | hold
    · rw [← Option.some.inj hnew] at hvalue
      rcases hstored hcourse.tail value hvalue with ⟨hplaced, hnamed⟩
      exact ⟨hplaced, Or.inr hnamed⟩
    · exact ⟨hin.records k value hold, Or.inl hold⟩
  · intro k hk
    rcases htodo k hk with ⟨hmem, hne⟩
    exact get?_mapWrite_none hleaves hwrite (Or.inl hne) (hin.free k hmem)

/-- A merge keeps a verification. -/
theorem isSome_verifiedAt_mergeEntry {record : ArchivedAnalysisRecord}
    (hsome : record.verifiedAt.isSome) (old : Option ArchivedAnalysisRecord) :
    (OpenStudioOperator.mergeEntry ArchivedAnalysisRecord.merge old record).verifiedAt ≠
      none := by
  intro hnone
  have hrecord : record.verifiedAt = none := by
    cases old with
    | none => exact hnone
    | some old =>
        have hor : record.verifiedAt.or old.verifiedAt = none := hnone
        exact (Option.or_eq_none_iff.mp hor).1
  rw [hrecord] at hsome
  cases hsome

/-- Recording a verification. -/
theorem wp_setArchivedAnalysis_verified (hleaves : env.Leaves Status.archivedAnalyses)
    (h : v.Holds known todo w) {id : String} (hid : id ∉ todo)
    {record : ArchivedAnalysisRecord} (hsome : record.verifiedAt.isSome)
    (hnamed : OnCourse v.text v.jobs
      (fun w' => NamesUpload v.jobs record w'.trace) w) :
    Prog.wp (setArchivedAnalysis id record) env w
      (fun _ w' => v.Holds known todo w') (fun _ w' => v.Holds known todo w') := by
  apply wp_setArchivedAnalysis_holds hleaves h
  · intro k hk
    exact ⟨hk, ne_of_mem_of_not_mem hk hid⟩
  · intro hcourse value hvalue
    have hupload := (hnamed hcourse).mergeEntry (archivedAnalysesField.entry id w.status)
    rw [← hvalue] at hupload
    refine ⟨⟨?_, fun _ => ⟨[], w.trace, rfl, hupload⟩⟩, fun _ => hupload⟩
    intro hnone
    rw [hvalue] at hnone
    exact absurd hnone (isSome_verifiedAt_mergeEntry hsome _)

/-- Recording a spawn, or the adoption of a running Job. -/
theorem wp_setArchivedAnalysis_inFlight (hleaves : env.Leaves Status.archivedAnalyses)
    {id : String} (h : v.Holds known (id :: todo) w) (hid : id ∉ todo)
    {record : ArchivedAnalysisRecord} (hnone : record.verifiedAt = none)
    (hplace : OnCourse v.text v.jobs (fun w' => forall name m,
      record.jobName = some name -> v.jobs.manifest name w'.trace = some m ->
      UploadsTo record.backend record.bucket m) w) :
    Prog.wp (setArchivedAnalysis id record) env w
      (fun _ w' => v.Holds known todo w') (fun _ w' => v.Holds known todo w') := by
  apply wp_setArchivedAnalysis_holds hleaves h
  · intro k hk
    exact ⟨List.mem_cons_of_mem id hk, ne_of_mem_of_not_mem hk hid⟩
  · intro hcourse value hvalue
    have habsent : archivedAnalysesField.entry id w.status = none :=
      (h hcourse).free id List.mem_cons_self
    have hunverified : ¬ record.verifiedAt.isSome := by
      rw [hnone]
      exact Bool.false_ne_true
    rw [habsent, OpenStudioOperator.mergeEntry] at hvalue
    rw [hvalue]
    exact ⟨⟨fun _ => hplace hcourse, fun hsome => absurd hsome hunverified⟩,
      fun hsome => absurd hsome hunverified⟩

/-- Reading a Job puts its answer on top of the history. -/
theorem wp_readJob_holds (h : v.Holds known todo w) (name : String) :
    Prog.wp (readJob name) env w
      (fun job? w' => v.Holds known todo w' ∧ forall job, job? = some job ->
        w' = w.log env.now (.readJob name (.ok job)))
      (fun _ w' => v.Holds known todo w') := by
  have hlog : forall r, v.Holds known todo (w.log env.now (.readJob name r)) := by
    intro r
    exact h.aside ⟨trivial, by simp, by simp⟩
  unfold readJob
  rw [Prog.wp_tryCatch, Prog.wp_bind]
  apply wp_call
  · intro job _
    refine ⟨hlog _, ?_⟩
    intro job' heq
    rw [Option.some.injEq] at heq
    rw [heq]
  · intro e _
    apply Prog.wp_ite
    · intro _
      exact ⟨hlog _, fun job heq => absurd heq (by simp)⟩
    · intro _
      exact hlog _

end Calls

/-!
## The steps of a tick
-/

section TickSteps

variable {v : TickView} {known : List (String × ArchivedAnalysisRecord)}
variable {todo : List String} {id : String} {env : Env} {w : World}

theorem wp_deleteVerified_holds (hleaves : env.Leaves Status.archivedAnalyses)
    {record : ArchivedAnalysisRecord} (hsome : record.verifiedAt.isSome)
    (h : v.Holds ((id, record) :: known) todo w) (justVerified : Bool) :
    Prog.wp (deleteVerified v.config id record justVerified) env w
      (fun _ w' => v.Holds known todo w') (fun _ w' => v.Holds known todo w') := by
  have hforget : forall w', v.Holds ((id, record) :: known) todo w' ->
      v.Holds known todo w' :=
    fun w' h' => h'.forget fun entry => List.mem_cons_of_mem (id, record)
  have hemit : forall suffix, Prog.Preserves (v.Holds ((id, record) :: known) todo)
      (emit .normal analysisDeletedEvent (deletionMessage id record ++ suffix)) env := by
    intro suffix
    exact holds_emit_deleted List.mem_cons_self hsome rfl _
  unfold deleteVerified
  apply Prog.wp_ite
  · intro _
    exact hforget w h
  · intro _
    apply Prog.wp_ite
    · intro _
      rw [Prog.wp_bind]
      apply Prog.wp_ite
      · intro _
        exact Prog.wp_mono (hemit _ w h) (fun _ w' => hforget w') (fun _ w' => hforget w')
      · intro _
        exact hforget w h
    · intro _
      have hdelete : Prog.Preserves (v.Holds ((id, record) :: known) todo)
          (mutate (.deleteAnalysis id)) env :=
        holds_call_aside fun r => ⟨trivial, by simp, by simp⟩
      have hannounce : Prog.Preserves (v.Holds ((id, record) :: known) todo)
          (emit .normal analysisDeletedEvent (deletionMessage id record)) env :=
        holds_emit_deleted List.mem_cons_self hsome (String.append_empty).symm _
      have hrest : Prog.Preserves (v.Holds ((id, record) :: known) todo)
          (do
            mutate (.deleteAnalysis id)
            emit .normal analysisDeletedEvent (deletionMessage id record)
            clearArchivedAnalysis id
            return true) env := by
        apply Prog.Preserves.bind hdelete
        intro _
        apply Prog.Preserves.bind hannounce
        intro _
        apply Prog.Preserves.bind (holds_clearArchivedAnalysis hleaves id)
        intro _
        exact Prog.Preserves.pure true
      exact Prog.wp_mono (hrest w h) (fun _ w' => hforget w') (fun _ w' => hforget w')

theorem wp_recordVerified_holds (hleaves : env.Leaves Status.archivedAnalyses)
    (h : v.Holds known todo w) (hid : id ∉ todo) {verified : ArchivedAnalysisRecord}
    (hsome : verified.verifiedAt.isSome)
    (hnamed : OnCourse v.text v.jobs
      (fun w' => NamesUpload v.jobs verified w'.trace) w)
    (message : String) (result : RetentionTickResult) :
    Prog.wp (recordVerified v.config id verified message result) env w
      (fun _ w' => v.Holds known todo w') (fun _ w' => v.Holds known todo w') := by
  have hforget : forall w', v.Holds ((id, verified) :: known) todo w' ->
      v.Holds known todo w' :=
    fun w' h' => h'.forget fun entry => List.mem_cons_of_mem (id, verified)
  -- the record just written is held in memory until the delete step
  have hlearn : v.Holds ((id, verified) :: known) todo w := by
    intro hcourse
    refine { h hcourse with known := ?_ }
    intro id' record' hmem
    rcases List.mem_cons.mp hmem with heq | hmem
    · cases heq
      constructor
      · intro hnone
        rw [hnone] at hsome
        cases hsome
      · intro _
        exact ⟨[], w.trace, rfl, hnamed hcourse⟩
    · exact (h hcourse).known id' record' hmem
  unfold recordVerified
  rw [Prog.wp_bind]
  apply Prog.wp_mono (wp_setArchivedAnalysis_verified hleaves hlearn hid hsome hnamed)
  · intro _ w1 h1
    simp only [Prog.wp_bind]
    apply Prog.wp_mono (holds_emit_other _ (by decide) _ w1 h1)
    · intro _ w2 h2
      exact Prog.wp_mono (wp_deleteVerified_holds hleaves hsome h2 true)
        (fun _ _ h3 => h3) (fun _ _ h3 => h3)
    · intro _ w2 h2
      exact hforget w2 h2
  · intro _ w1 h1
    exact hforget w1 h1

theorem holds_failArchival (hleaves : env.Leaves Status.archivedAnalyses)
    (detail : String) :
    Prog.Preserves (v.Holds known todo) (failArchival id detail) env := by
  apply Prog.Preserves.bind
  · exact holds_emit_other _ (by decide) _
  · intro _
    exact holds_clearArchivedAnalysis hleaves id

/-- A verified record names the place its in-flight record named. -/
theorem wp_reconcileTracked_holds (hleaves : env.Leaves Status.archivedAnalyses)
    {record : ArchivedAnalysisRecord} (h : v.Holds ((id, record) :: known) todo w)
    (hid : id ∉ todo) (result : RetentionTickResult) :
    Prog.wp (reconcileTracked v.config (completedById v.docs) id record result) env w
      (fun _ w' => v.Holds known todo w') (fun _ w' => v.Holds known todo w') := by
  have hforget : forall w', v.Holds ((id, record) :: known) todo w' ->
      v.Holds known todo w' :=
    fun w' h' => h'.forget fun entry => List.mem_cons_of_mem (id, record)
  have hclear : Prog.Preserves (v.Holds known todo)
      (do clearArchivedAnalysis id; return result) env :=
    Prog.Preserves.bind (holds_clearArchivedAnalysis hleaves id)
      fun _ => Prog.Preserves.pure result
  have hfail : forall detail, Prog.Preserves (v.Holds known todo)
      (do failArchival id detail; return result) env := by
    intro detail
    exact Prog.Preserves.bind (holds_failArchival hleaves detail)
      fun _ => Prog.Preserves.pure result
  unfold reconcileTracked
  simp only [Prog.wp_bind, Prog.wp_read]
  apply Prog.wp_ite
  · intro _
    exact hclear w (hforget w h)
  · intro _
    apply Prog.wp_ite
    · intro hsome
      rw [Prog.wp_bind]
      exact Prog.wp_mono (wp_deleteVerified_holds hleaves hsome h false)
        (fun _ _ h' => h') (fun _ _ h' => h')
    · intro hunverified
      have hnone : record.verifiedAt = none := by
        rw [Option.isSome_iff_ne_none, not_not] at hunverified
        exact hunverified
      cases hjobName : record.jobName with
      | none =>
          simp only
          apply Prog.wp_ite
          · intro _
            exact hforget w h
          · intro _
            exact hclear w (hforget w h)
      | some jobName =>
          simp only [Prog.wp_bind]
          apply Prog.wp_mono (wp_readJob_holds h jobName)
          · intro job? w1 h1
            rcases h1 with ⟨h1, hread⟩
            cases job? with
            | none => exact hfail _ w1 (hforget w1 h1)
            | some job =>
                simp only
                cases hterminal : jobTerminalCondition job with
                | none => exact hforget w1 h1
                | some terminal =>
                    cases terminal with
                    | failed => exact hfail _ w1 (hforget w1 h1)
                    | complete =>
                        apply wp_recordVerified_holds hleaves (hforget w1 h1) hid rfl
                        intro hcourse
                        have hplaced := (h1 hcourse).known id record List.mem_cons_self
                        refine ⟨jobName, job,
                          ⟨env.now, .readJob jobName (.ok job), w.status⟩, w.trace,
                          rfl, ?_, rfl,
                          completesFirst_of_terminalConditionOf _ hterminal, ?_⟩
                        · rw [hread job rfl, World.log_trace]
                        · intro m hm
                          exact hplaced.inFlight hnone jobName m hjobName hm
          · intro _ w1 h1
            exact hforget w1 h1

theorem TickView.Holds.skip (h : v.Holds known (id :: todo) w) : v.Holds known todo w :=
  fun hcourse =>
    { h hcourse with
      free := fun k hk => (h hcourse).free k (List.mem_cons_of_mem id hk) }

theorem PlacedInTick.due (h : PlacedInTick v known todo w) (hdue : id ∈ v.due) :
    Due id w.trace := by
  rcases h.snapshot with ⟨e, hmem, hevent, htracked, htime⟩
  refine ⟨v.docs, v.config, e, h.listed, h.config, hmem, hevent, ?_⟩
  rw [htracked, htime]
  exact hdue

theorem holds_deleteJob (name : String) :
    Prog.Preserves (v.Holds known todo)
      (mutateUnless v.config.dryRun (.deleteJob name)) env := by
  have hdelete : Prog.Preserves (v.Holds known todo) (mutate (.deleteJob name)) env :=
    holds_call_aside fun r => ⟨trivial, by simp, by simp⟩
  intro w h
  unfold mutateUnless
  apply Prog.wp_ite
  · intro _
    rw [wp_note]
    exact h.aside ⟨trivial, by simp, by simp⟩
  · intro _
    exact hdelete w h

/-- The create call, or its suppression, before a spawn is recorded. -/
theorem wp_createJob_holds (h : v.Holds [] todo w) (manifest : ArchivalJob) :
    Prog.wp (mutateUnless v.config.dryRun (.createJob manifest)) env w
      (fun _ w' => v.Holds [] todo w' ∧ (v.config.dryRun = false ->
        v.jobs.manifest manifest.name w'.trace = some manifest))
      (fun _ w' => v.Holds [] todo w') := by
  have hcreate : forall r, v.Holds [] todo
      (w.log env.now (.mutate (.createJob manifest) r)) :=
    fun r hcourse => (h hcourse.tail).create hcourse.head
  unfold mutateUnless
  apply Prog.wp_ite
  · intro hdryRun
    rw [wp_note]
    refine ⟨h.aside ⟨trivial, by simp, by simp⟩, ?_⟩
    intro hlive
    rw [hdryRun] at hlive
    cases hlive
  · intro _
    apply wp_call
    · intro _ _
      refine ⟨hcreate _, fun _ => ?_⟩
      rw [World.log_trace, JobHistory.manifest]
      exact if_pos ⟨rfl, Or.inl rfl⟩
    · intro _ _
      exact hcreate _

/-- A spawned Job uploads to the place of the policy, as its record says. -/
theorem wp_spawnJob_holds (hleaves : env.Leaves Status.archivedAnalyses)
    (h : v.Holds [] (id :: todo) w) (hid : id ∉ todo)
    (payload : Option (List DatapointDoc)) (result : RetentionTickResult) :
    Prog.wp (spawnJob v.text v.config id payload result) env w
      (fun _ w' => v.Holds [] todo w') (fun _ w' => v.Holds [] todo w') := by
  have hlisted : Prog.Preserves (v.Holds [] (id :: todo))
      (datapointIdsFor payload id) env := by
    unfold datapointIdsFor datapointsPayload
    apply Prog.Preserves.bind
    · cases payload with
      | some listed => exact Prog.Preserves.pure listed
      | none => exact holds_call_aside fun r => ⟨trivial, by simp, by simp⟩
    · intro listed
      exact Prog.Preserves.pure _
  unfold spawnJob
  simp only [Prog.wp_bind, Prog.wp_read]
  apply Prog.wp_mono (hlisted w h)
  · rintro ⟨datapointIds, listed⟩ w1 h1
    simp only
    split
    · exact h1.skip
    · rename_i manifest hmanifest
      rcases buildArchivalJob_uploadsTo hmanifest with ⟨hname, huploads⟩
      simp only [Prog.wp_bind]
      apply Prog.wp_mono (wp_createJob_holds h1 manifest)
      · rintro _ w2 ⟨h2, hcreated⟩
        rw [hname] at hcreated
        apply Prog.wp_mono (wp_setArchivedAnalysis_inFlight hleaves h2 hid rfl ?_)
        · intro _ w3 h3
          exact Prog.wp_mono (holds_emit_other _ (by decide) _ w3 h3)
            (fun _ _ h4 => h4) (fun _ _ h4 => h4)
        · intro _ w3 h3
          exact h3
        · intro _ name m hjobName hm
          simp only at hjobName
          split_ifs at hjobName with hdryRun
          have hlive : v.config.dryRun = false := by simpa using hdryRun
          rw [← Option.some.inj hjobName, hcreated hlive, Option.some.injEq] at hm
          rw [← hm]
          exact huploads
      · intro _ w2 h2
        exact h2.skip
  · intro _ w1 h1
    exact h1.skip

/-- An adopted Job uploads to the place of the policy by the condition. -/
theorem wp_spawnArchival_holds (hleaves : env.Leaves Status.archivedAnalyses)
    (h : v.Holds [] (id :: todo) w) (hid : id ∉ todo) (hdue : id ∈ v.due)
    (payload : Option (List DatapointDoc)) (result : RetentionTickResult) :
    Prog.wp (spawnArchival v.text v.config id payload result) env w
      (fun _ w' => v.Holds [] todo w') (fun _ w' => v.Holds [] todo w') := by
  have hadopts : forall job, jobTerminalCondition job ≠ some .failed ->
      OnCourse v.text v.jobs (fun w' => forall m,
        v.jobs.manifest (archivalJobName v.text id) w'.trace = some m ->
        UploadsTo (v.config.storagePolicy.backend.getD "")
          v.config.storagePolicy.bucket m)
        (w.log env.now (.readJob (archivalJobName v.text id) (.ok job))) := by
    intro job hfailed hcourse m hm
    have hin := h hcourse.tail
    rw [World.log_trace, JobHistory.manifest_cons (by simp)] at hm
    exact hcourse.head.adopts id job v.config m rfl (hin.due hdue) hfailed hin.config hm
  unfold spawnArchival
  simp only [Prog.wp_bind, Prog.wp_read]
  apply Prog.wp_mono (wp_readJob_holds h (archivalJobName v.text id))
  · intro job? w1 h1
    rcases h1 with ⟨h1, hread⟩
    cases job? with
    | none => exact wp_spawnJob_holds hleaves h1 hid payload result
    | some job =>
        have hadopts' := hadopts job
        rw [← hread job rfl] at hadopts'
        simp only
        cases hterminal : jobTerminalCondition job with
        | none =>
            have hpolicy := hadopts' (by rw [hterminal]; simp)
            simp only [Prog.wp_bind]
            apply Prog.wp_mono (wp_setArchivedAnalysis_inFlight hleaves h1 hid rfl ?_)
            · intro _ w2 h2
              exact h2
            · intro _ w2 h2
              exact h2
            · intro hcourse name m hname hm
              rw [← Option.some.inj hname] at hm
              exact hpolicy hcourse m hm
        | some terminal =>
            cases terminal with
            | complete =>
                have hpolicy := hadopts' (by rw [hterminal]; simp)
                simp only [Prog.wp_bind]
                apply Prog.wp_mono
                  (wp_recordVerified_holds hleaves h1.skip hid rfl ?_ _ _)
                · intro _ w2 h2
                  exact h2
                · intro _ w2 h2
                  exact h2
                · intro hcourse
                  refine ⟨archivalJobName v.text id, job,
                    ⟨env.now, .readJob (archivalJobName v.text id) (.ok job), w.status⟩,
                    w.trace, rfl, ?_, rfl,
                    completesFirst_of_terminalConditionOf _ hterminal,
                    hpolicy hcourse⟩
                  rw [hread job rfl, World.log_trace]
            | failed =>
                simp only [Prog.wp_bind]
                apply Prog.wp_mono (holds_deleteJob (archivalJobName v.text id) w1 h1)
                · intro _ w2 h2
                  exact wp_spawnJob_holds hleaves h2 hid payload result
                · intro _ w2 h2
                  exact h2.skip
  · intro _ w1 h1
    exact h1.skip

end TickSteps

/-!
## Whole ticks and whole runs
-/

theorem nodup_dueAnalyses (completed : Dict String AnalysisDoc)
    (tracked : Dict String ArchivedAnalysisRecord) (now : Instant)
    (retention : Duration) : (dueAnalyses completed tracked now retention).Nodup := by
  unfold dueAnalyses
  exact completed.nodupKeys.sublist (List.filter_sublist.map Prod.fst)

theorem not_tracked_of_mem_dueAnalyses {completed : Dict String AnalysisDoc}
    {tracked : Dict String ArchivedAnalysisRecord} {now : Instant}
    {retention : Duration} {id : String}
    (h : id ∈ dueAnalyses completed tracked now retention) :
    tracked.get? id = none := by
  unfold dueAnalyses at h
  rw [List.mem_map] at h
  rcases h with ⟨⟨id', doc⟩, hmem, hid⟩
  rw [List.mem_filter, Bool.and_eq_true] at hmem
  simp only at hid
  subst hid
  have huntracked : tracked.contains id' = false := by simpa using hmem.2.1
  cases hget : tracked.get? id' with
  | none => rfl
  | some record =>
      have hcontains : tracked.contains id' = true := by
        rw [Dict.contains_iff_mem_keys, Dict.mem_keys_iff_get?]
        exact ⟨record, hget⟩
      rw [huntracked] at hcontains
      cases hcontains

section Runs

variable {text : TextOps} {jobs : JobHistory} {initial : Status}

theorem Placed.log {w : World} (h : Placed jobs initial w) {time : Instant}
    {event : Event} (hcreate : forall m r, event ≠ .mutate (.createJob m) r)
    (hannounce : forall type message r, event ≠ .emit type analysisDeletedEvent message r) :
    Placed jobs initial (w.log time event) where
  latest := rfl
  records := fun id record hget => (h.records id record hget).cons hcreate
  history := by
    refine .cons (entryPlaced_of_status h.latest ?_) h.history
    intro type message r hevent
    exact absurd hevent (hannounce type message r)

/-- The snapshot leaves the status, and the tick starts from what it says. -/
theorem Placed.commit_snapshot {w : World} (h : Placed jobs initial w) {time : Instant}
    {r : Except Exc Unit} {s : Status}
    (hsame : s.archivedAnalyses = w.status.archivedAnalyses) :
    Placed jobs initial (w.commit time .getArchivedAnalyses r s) where
  latest := rfl
  records := by
    intro id record hget
    rw [World.commit_status, hsame] at hget
    exact (h.records id record hget).cons (by simp)
  history := by
    refine .cons ⟨?_, ?_⟩ h.history
    · intro id record hget hsome hbefore
      have hget' : w.status.archivedAnalyses.get? id = some record := by
        rw [← hsame]
        exact hget
      rw [h.latest] at hbefore
      rw [hbefore record hget'] at hsome
      cases hsome
    · intro type message r' hevent
      cases hevent

theorem wp_runRetentionTick_placed {config : OperatorConfig} {env : Env} {w : World}
    (hleaves : env.Leaves Status.archivedAnalyses)
    (h : OnCourse text jobs (Placed jobs initial) w)
    (hconfig : currentConfig w.trace = some config) :
    Prog.wp (runRetentionTick text config) env w
      (fun _ w' => OnCourse text jobs (Placed jobs initial) w')
      (fun _ w' => OnCourse text jobs (Placed jobs initial) w') := by
  unfold runRetentionTick
  simp only [Prog.wp_bind, Prog.wp_read]
  apply Prog.wp_ite
  · intro _
    exact h
  · intro _
    apply Prog.wp_ite
    · intro _
      exact h
    · intro _
      have hlog : forall r, OnCourse text jobs (Placed jobs initial)
          (w.log env.now (.listAnalyses r)) :=
        fun r hcourse => (h hcourse.tail).log (by simp) (by simp)
      simp only [Prog.wp_bind]
      apply wp_call
      · intro docs _
        unfold getArchivedAnalyses
        rw [Prog.wp_bind]
        apply wp_readStatus
        · intro s hkeeps
          have hsame := hkeeps _ Status.archivedAnalyses hleaves
          let v : TickView :=
            ⟨text, jobs, initial, config, docs, s.archivedAnalyses, env.now⟩
          have hstart : v.Holds s.archivedAnalyses.entries v.due
              ((w.log env.now (.listAnalyses (.ok docs))).commit env.now
                .getArchivedAnalyses (.ok ()) s) := by
            intro hcourse
            have hlogged := hlog (.ok docs) hcourse.tail
            have hplaced := @Placed.commit_snapshot _ _ _ hlogged env.now (.ok ()) _ hsame
            refine
              { hplaced with
                config := hconfig
                listed := ⟨_, List.mem_cons_of_mem _ List.mem_cons_self, rfl⟩
                snapshot := ⟨_, List.mem_cons_self, rfl, rfl, rfl⟩
                known := ?_
                free := ?_ }
            · intro id record hmem
              exact hplaced.records id record ((Dict.mem_entries_iff_get? _ _ _).mp hmem)
            · intro id hmem
              exact not_tracked_of_mem_dueAnalyses hmem
          have htracked : forall id record, (id, record) ∈ s.archivedAnalyses.entries ->
              id ∉ v.due := by
            intro id record hmem hdue
            have hget := (Dict.mem_entries_iff_get? _ _ _).mp hmem
            have hnone : s.archivedAnalyses.get? id = none :=
              not_tracked_of_mem_dueAnalyses hdue
            rw [hnone] at hget
            cases hget
          rw [Prog.wp_pure]
          apply Prog.wp_foldlM
            (fun rest _ w' => v.Holds rest v.due w' ∧
              forall id record, (id, record) ∈ rest -> id ∉ v.due)
          · rintro ⟨id, record⟩ rest result w2 ⟨h2, hrest⟩
            apply Prog.wp_mono (wp_reconcileTracked_holds (v := v) hleaves h2
              (hrest id record List.mem_cons_self) result)
            · intro _ w3 h3
              exact ⟨h3, fun k r hmem => hrest k r (List.mem_cons_of_mem _ hmem)⟩
            · intro _ w3 h3 hcourse
              exact (h3 hcourse).toPlaced
          · rintro result w2 ⟨h2, _⟩
            apply Prog.wp_foldlM
              (fun rest _ w' => v.Holds [] rest w' ∧ rest.Nodup ∧
                forall id, id ∈ rest -> id ∈ v.due)
            · rintro id rest state w3 ⟨h3, hnodup, hdue⟩
              rw [List.nodup_cons] at hnodup
              apply Prog.wp_mono (wp_spawnArchival_holds (v := v) hleaves h3 hnodup.1
                (hdue id List.mem_cons_self) state.2 state.1)
              · intro _ w4 h4
                exact ⟨h4, hnodup.2, fun k hk => hdue k (List.mem_cons_of_mem id hk)⟩
              · intro _ w4 h4 hcourse
                exact (h4 hcourse).toPlaced
            · rintro state w3 ⟨h3, _⟩ hcourse
              exact (h3 hcourse).toPlaced
            · exact ⟨h2, nodup_dueAnalyses _ _ _ _, fun _ hmem => hmem⟩
          · exact ⟨hstart, htracked⟩
        · intro s e hkeeps hcourse
          exact (hlog (.ok docs) hcourse.tail).commit_snapshot
            (hkeeps _ Status.archivedAnalyses hleaves)
      · intro e _
        exact hlog (.error e)

/-- One tick keeps the invariant, whatever the answers and wherever it stops. -/
theorem runRetentionTick_placed {t : Tick} {w : World}
    (hleaves : t.env.Leaves Status.archivedAnalyses)
    (h : OnCourse text jobs (Placed jobs initial) w) :
    OnCourse text jobs (Placed jobs initial) (runTick (runRetentionTick text) t w) := by
  unfold runTick
  apply Prog.exec_of_wp
  unfold inTick
  rw [Prog.wp_bind, wp_note]
  apply wp_runRetentionTick_placed hleaves
  · intro hcourse
    have hplaced : Placed jobs initial { w with protectedKeys := t.registry } :=
      ⟨(h hcourse.tail).latest, (h hcourse.tail).records, (h hcourse.tail).history⟩
    exact hplaced.log (by simp) (by simp)
  · rfl

end Runs

/-- As long as no Job of another place is adopted, and none is created under the
name of an in-flight record of another place, every record that becomes
verified names the place its Job uploaded to, and so does every deletion Event. -/
theorem archive_destination_real (text : TextOps) (jobs : JobHistory)
    (ticks : List Tick) (status : Status)
    (hempty : status.archivedAnalyses = Dict.empty)
    (hleaves : forall t, t ∈ ticks -> t.env.Leaves Status.archivedAnalyses)
    (hcourse : Throughout (KeepsPlace text jobs)
      (runTicks (runRetentionTick text) ticks { status := status }).trace) :
    Throughout (EntryPlaced jobs status)
      (runTicks (runRetentionTick text) ticks { status := status }).trace := by
  have hrun : OnCourse text jobs (Placed jobs status)
      (runTicks (runRetentionTick text) ticks { status := status }) := by
    apply runTicks_induction (OnCourse text jobs (Placed jobs status))
    · intro _
      refine ⟨rfl, ?_, .nil⟩
      intro id record hget
      rw [hempty, Dict.get?_empty] at hget
      cases hget
    · intro t w ht hplaced
      exact runRetentionTick_placed (hleaves t ht) hplaced
  exact (hrun hcourse).history

def noEarlierJobs : JobHistory where
  initial := fun _ => none
  landed := fun _ => false

def bucketConfig (bucket : String) : OperatorConfig where
  storagePolicy :=
    { archiveToS3 := true
      backend := some "s3"
      bucket := some bucket
      secretRef := some "secret"
      purgeCompletedNfsFiles := true }

/-- A server on which recording an archive fails. -/
def losingServer : StoreOp -> Server Status Exc
  | .setArchivedAnalysis _ _ =>
      { quietServer with read := fun _ => some (.apiException (some 500)) }
  | _ => quietServer

/-- The Job of `a` is created on day 10 and its record lost; on day 11 it is
complete and the policy names this bucket. -/
def lostRecordTicks (bucket : String) : List Tick :=
  [{ env :=
      { Env.quiet (days 10) with
        listAnalyses := fun _ => .ok [sampleDoc (days 1)]
        server := fun _ op => losingServer op }
     config := bucketConfig "first" },
    { env :=
      { Env.quiet (days 11) with
        listAnalyses := fun _ => .ok [sampleDoc (days 1)]
        readJob := fun _ _ => .ok (completeJob (days 10)) }
      config := bucketConfig bucket }]

def lostRecordRun (bucket : String) : Trace :=
  (runTicks (runRetentionTick sampleText) (lostRecordTicks bucket) {}).trace

theorem lostRecordTicks_leaves (bucket : String) :
    forall t, t ∈ lostRecordTicks bucket -> t.env.Leaves Status.archivedAnalyses := by
  intro t ht trace op n s
  simp only [lostRecordTicks, List.mem_cons, List.not_mem_nil, or_false] at ht
  rcases ht with ht | ht
  · subst ht
    cases op <;> exact ⟨rfl, rfl⟩
  · subst ht
    exact ⟨rfl, rfl⟩

/-- A call of a run under one policy, before any record is in flight. -/
def Entry.underOnePolicy (e : Entry) (before : Trace) : Bool :=
  (currentConfig before).all (· = bucketConfig "first") &&
    match e.event with
    | .readJob name _ =>
        (noEarlierJobs.manifest name before).all fun m =>
          .ok m = buildArchivalJob sampleText "a" (bucketConfig "first").storagePolicy
            "default" []
    | .mutate (.createJob _) _ => e.status.archivedAnalyses = Dict.empty
    | _ => true

theorem keepsPlace_of_underOnePolicy {e : Entry} {before : Trace}
    (h : e.underOnePolicy before = true) :
    KeepsPlace sampleText noEarlierJobs e before := by
  unfold Entry.underOnePolicy at h
  rw [Bool.and_eq_true] at h
  rcases h with ⟨hpolicy, hcall⟩
  constructor
  · intro id job config m hevent _ _ hconfig hm
    rw [hconfig, Option.all_some, decide_eq_true_eq] at hpolicy
    simp only [hevent, hm, Option.all_some, decide_eq_true_eq] at hcall
    rw [hpolicy]
    exact (buildArchivalJob_uploadsTo hcall.symm).2
  · intro m r id record hevent hget
    simp only [hevent, decide_eq_true_eq] at hcall
    rw [hcall, Dict.get?_empty] at hget
    cases hget

theorem archive_destination_real_readopted :
    Throughout (EntryPlaced noEarlierJobs {}) (lostRecordRun "first") := by
  apply archive_destination_real sampleText noEarlierJobs (lostRecordTicks "first") {} rfl
  · exact lostRecordTicks_leaves "first"
  · have hchecked : Throughout (fun e before => e.underOnePolicy before = true)
        (lostRecordRun "first") := by decide +kernel
    exact hchecked.mono fun _ _ => keepsPlace_of_underOnePolicy

/-- What the adoption on day 11 records. -/
def misplacedRecord : ArchivedAnalysisRecord where
  backend := "s3"
  bucket := some "second"
  verifiedAt := some (days 11)
  jobName := some "oscm-archive-a-ca978112"
  spawnedAt := some (days 11)

/-- The Job uploaded to the first bucket and the record of its adoption names the
second one. -/
theorem archive_destination_real_counterexample :
    (forall t, t ∈ lostRecordTicks "second" ->
      t.env.Leaves Status.archivedAnalyses) ∧
    ¬ Throughout (EntryPlaced noEarlierJobs {}) (lostRecordRun "second") := by
  refine ⟨lostRecordTicks_leaves "second", ?_⟩
  intro hplaced
  have hrecorded : ((lostRecordRun "second")[4]?).bind
      (fun e => e.status.archivedAnalyses.get? "a") = some misplacedRecord := by
    decide +kernel
  have hbefore : (latestStatus {} ((lostRecordRun "second").drop 5)).archivedAnalyses =
      Dict.empty := by decide +kernel
  have hcreated : (noEarlierJobs.manifest "oscm-archive-a-ca978112"
      ((lostRecordRun "second").drop 5)).map (fun m => (m.archiveDestination, m.analysisId)) =
        some ("archive:first/a", "a") := by decide +kernel
  rw [Option.bind_eq_some_iff] at hrecorded
  rcases hrecorded with ⟨e, he, hget⟩
  rw [eq_take_cons_drop he] at hplaced
  have hentry := hplaced.of_split _
  have hnamed : NamesUpload noEarlierJobs misplacedRecord
      ((lostRecordRun "second").drop 5) := by
    apply hentry.recorded "a" misplacedRecord hget rfl
    intro old hold
    rw [hbefore, Dict.get?_empty] at hold
    cases hold
  rcases hnamed with ⟨name, job, read, older, hname, _, _, _, huploads⟩
  rw [← Option.some.inj hname] at huploads
  rw [Option.map_eq_some_iff] at hcreated
  rcases hcreated with ⟨m, hm, hplace⟩
  rcases huploads m hm with ⟨_, b, ids, hb, hdestination, _⟩
  rw [Prod.mk.injEq] at hplace
  rw [hplace.1, hplace.2, ← Option.some.inj hb] at hdestination
  exact absurd hdestination (by decide)

end OpenStudioOperator
