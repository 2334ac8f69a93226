import Historian.JournalRuns
import Historian.RootReopen

namespace Historian

open Wire Checks Files

/-- A call of a method, and whether it has succeeded. -/
structure StoreEvent where
  op : StoreOp
  answered : Bool

/-- The outcomes that the methods were given to commit. -/
def submittedBy (events : List StoreEvent) : List PendingRetryOutcome :=
  events.flatMap fun event => event.op.submitted

/-- The outcomes that the methods have reported as committed. -/
def acknowledgedBy (events : List StoreEvent) : List PendingRetryOutcome :=
  events.flatMap fun event => if event.answered then event.op.submitted else []

/-- The steps of `StoreState.Reachable`, with the calls that they are of. -/
inductive StoreState.Step (config : ManifestStoreConfig) :
    StoreState → List StoreEvent → StoreState → Prop
  | opened {d : StoreDirectory} {mode : ActiveJournalOpenMode} {store : ManifestStore}
      {effects : List StoreEffect}
      (opens : ManifestStore.open { config with mode := mode } d = (.ok store, effects)) :
    Step config (.stopped d) [] (.running store (applyAll d effects))
  | openStopped {d : StoreDirectory} {mode : ActiveJournalOpenMode} {done : List StoreEffect}
      (stops : done <+: (ManifestStore.open { config with mode := mode } d).2) :
    Step config (.stopped d) [] (.stopped (applyAll d done))
  | stepped {store : ManifestStore} {d : StoreDirectory} {op : StoreOp} (allowed : op.Allowed) :
    Step config (.running store d) [⟨op, (op.run store d).result.isOk⟩]
      (.running (op.run store d).store (applyAll d (op.run store d).effects))
  | stepStopped {store : ManifestStore} {d : StoreDirectory} {op : StoreOp}
      {done : List StoreEffect} (allowed : op.Allowed) (stops : done <+: (op.run store d).effects) :
    Step config (.running store d) [⟨op, false⟩] (.stopped (applyAll d done))
  | torn {d d' : StoreDirectory} (tears : Torn config d d') :
    Step config (.stopped d) [] (.stopped d')

/-- A store over any of its steps, with all calls. -/
abbrev StoreHistory (config : ManifestStoreConfig) :
    StoreState → List StoreEvent → StoreState → Prop :=
  CommitLog.Runs (StoreState.Step config)

/-- Every reachable state has a history, from a directory without a manifest on. -/
theorem StoreState.Reachable.history {config : ManifestStoreConfig} {state : StoreState}
    (h : state.Reachable config) : ∃ d events, Unmanifested d ∧
      StoreHistory config (.stopped d) events state := by
  induction h with
  | @fresh d manifests => exact ⟨d, [], manifests, .refl⟩
  | opened _ opens ih =>
    obtain ⟨d, events, hd, hhistory⟩ := ih
    exact ⟨d, _, hd, hhistory.tail (.opened opens)⟩
  | openStopped _ stops ih =>
    obtain ⟨d, events, hd, hhistory⟩ := ih
    exact ⟨d, _, hd, hhistory.tail (.openStopped stops)⟩
  | stepped _ allowed ih =>
    obtain ⟨d, events, hd, hhistory⟩ := ih
    exact ⟨d, _, hd, hhistory.tail (.stepped allowed)⟩
  | stepStopped _ allowed stops ih =>
    obtain ⟨d, events, hd, hhistory⟩ := ih
    exact ⟨d, _, hd, hhistory.tail (.stepStopped allowed stops)⟩
  | torn _ tears ih =>
    obtain ⟨d, events, hd, hhistory⟩ := ih
    exact ⟨d, _, hd, hhistory.tail (.torn tears)⟩

theorem StoreState.Reachable.follow {config : ManifestStoreConfig} {state next : StoreState}
    {events : List StoreEvent} (h : state.Reachable config)
    (hhistory : StoreHistory config state events next) : next.Reachable config := by
  induction hhistory with
  | refl => exact h
  | tail _ last ih =>
    cases last with
    | opened opens => exact ih.opened opens
    | openStopped stops => exact ih.openStopped stops
    | stepped allowed => exact ih.stepped allowed
    | stepStopped allowed stops => exact ih.stepStopped allowed stops
    | torn tears => exact ih.torn tears

section Modes

variable {config : ManifestStoreConfig} {mode : ActiveJournalOpenMode} {d : StoreDirectory}
  {store : ManifestStore} {state : RootState}

/-- What a directory denotes does not depend on the mode of an open. -/
theorem ManifestStore.mirrors_mode :
    store.Mirrors { config with mode := mode } d ↔ store.Mirrors config d :=
  ⟨fun h => ⟨h.root, h.spelled.ofConfig rfl rfl⟩, fun h => ⟨h.root, h.spelled.ofConfig rfl rfl⟩⟩

theorem ManifestStore.faithful_mode :
    store.Faithful { config with mode := mode } d ↔ store.Faithful config d :=
  ⟨fun h => ⟨mirrors_mode.mp h.mirrors, h.linked⟩, fun h => ⟨mirrors_mode.mpr h.mirrors, h.linked⟩⟩

theorem RootState.denoted_mode :
    state.Denoted { config with mode := mode } d ↔ state.Denoted config d := by
  unfold RootState.Denoted
  simp only [ManifestStore.mirrors_mode]

theorem RootState.First.ofMode (h : state.First { config with mode := mode }) :
    state.First config :=
  ⟨h.generation, h.registryGeneration, h.cutoff, h.sequenceFloor, h.catalogReference, h.recovery,
    h.registry, h.replay, h.guard, h.catalog⟩

end Modes

/-- The log that a state of a store shows: none before the first root; else the state that its
directory denotes, which a usable store has in memory. -/
def StoreState.Shows (config : ManifestStoreConfig) : StoreState → Option RootState → Prop
  | .stopped d, none => Unmanifested d
  | .stopped d, some state => state.Denoted config d
  | .running _ _, none => False
  | .running store d, some state =>
    state.Denoted config d ∧ ManifestStore.UsableFaithful config store d

section Steps

variable {config : ManifestStoreConfig} {mode : ActiveJournalOpenMode} {d d' : StoreDirectory}
  {store : ManifestStore} {state : RootState} {done : List StoreEffect}

/-- What an open makes of the log, when it succeeds and wherever it stops. -/
theorem RootState.Denoted.open (h : state.Denoted config d) :
    (∀ done, done <+: (ManifestStore.open { config with mode := mode } d).2 →
      state.Resumed config (applyAll d done)) ∧
    ∀ next effects, ManifestStore.open { config with mode := mode } d = (.ok next, effects) →
      next.Faithful config (applyAll d effects) ∧
        (next.rootState = state ∨ state.Recovers next.rootState) := by
  obtain ⟨store, hmirrors, hlinked, rfl⟩ := h
  have hstore : store.Faithful { config with mode := mode } d :=
    ManifestStore.faithful_mode.mpr ⟨hmirrors, hlinked⟩
  have hopen := hstore.open
  refine ⟨?_, ?_⟩
  · intro done hdone
    have hresumed := throughout_iff.mp hopen.throughout done hdone
    unfold RootState.Resumed at hresumed ⊢
    simpa only [RootState.denoted_mode] using hresumed
  · intro next effects hopens
    have hreopens := hopen.result next (by rw [hopens])
    rw [hopens] at hreopens
    exact ⟨ManifestStore.faithful_mode.mp hreopens.faithful, hreopens.state⟩

theorem Unmanifested.opens (h : Unmanifested d) :
    (∀ done, done <+: (ManifestStore.open { config with mode := mode } d).2 →
      Begins config (applyAll d done)) ∧
    ∀ next effects, ManifestStore.open { config with mode := mode } d = (.ok next, effects) →
      next.Faithful config (applyAll d effects) ∧ next.rootState.First config := by
  have hopen : Action.Ensures _ (ManifestStore.open { config with mode := mode }) _ d := h.begin
  refine ⟨?_, ?_⟩
  · intro done hdone
    rcases throughout_iff.mp hopen.throughout done hdone with hnone | ⟨state, hfirst, hdenoted⟩
    · exact Or.inl hnone
    · exact Or.inr ⟨state, hfirst.ofMode, RootState.denoted_mode.mp hdenoted⟩
  · intro next effects hopens
    obtain ⟨hfaithful, hfirst⟩ := hopen.result next (by rw [hopens])
    rw [hopens] at hfaithful
    exact ⟨ManifestStore.faithful_mode.mp hfaithful, hfirst.ofMode⟩

/-- A tear changes no file of a root. -/
theorem Torn.lookup (h : Torn config d d') {name : Artifact} (hname : name.IsRootFile) :
    d'.lookup name = d.lookup name := by
  obtain ⟨generation, file, bytes, -, rfl, -⟩ := h
  refine Finmap.lookup_insert_of_ne _ ?_
  rintro rfl
  exact hname

theorem Torn.denoted (h : Torn config d d') (hdenoted : state.Denoted config d) :
    state.Denoted config d' := by
  obtain ⟨store, hmirrors, hlinked, hstate⟩ := hdenoted
  exact ⟨store, hmirrors.same fun name hname => h.lookup hname.rootFile, hlinked, hstate⟩

theorem RootState.Carried.runs {batch : List PendingRetryOutcome}
    (h : state.Carried config batch d) :
    ∃ entries next, CommitLog.Runs (StoreCommits config) (some state) entries (some next) ∧
      next.Denoted config d ∧ List.Sublist entries batch := by
  rcases h with hsame | ⟨next, hcommits, hnext⟩
  · exact ⟨[], state, .refl, hsame, List.nil_sublist _⟩
  · exact ⟨batch, next, .single (.commit hcommits), hnext, List.Sublist.refl _⟩

/-- A log commits all that the calls report and nothing that they were not given. -/
def CommitsCalls (events : List StoreEvent) (entries : List PendingRetryOutcome) : Prop :=
  List.Sublist (acknowledgedBy events) entries ∧ List.Sublist entries (submittedBy events)

theorem CommitsCalls.append {events more : List StoreEvent}
    {entries rest : List PendingRetryOutcome} (h : CommitsCalls events entries)
    (hmore : CommitsCalls more rest) : CommitsCalls (events ++ more) (entries ++ rest) := by
  unfold CommitsCalls acknowledgedBy submittedBy at *
  rw [List.flatMap_append, List.flatMap_append]
  exact ⟨h.1.append hmore.1, h.2.append hmore.2⟩

theorem commitsCalls_nil : CommitsCalls [] [] := ⟨List.Sublist.refl _, List.Sublist.refl _⟩

theorem commitsCalls_unanswered {op : StoreOp} {entries : List PendingRetryOutcome}
    (h : List.Sublist entries op.submitted) : CommitsCalls [⟨op, false⟩] entries := by
  unfold CommitsCalls acknowledgedBy submittedBy
  simpa using h

theorem commitsCalls_all (op : StoreOp) (answered : Bool) :
    CommitsCalls [⟨op, answered⟩] op.submitted := by
  unfold CommitsCalls acknowledgedBy submittedBy
  cases answered with
  | false => simp
  | true => simp

theorem commitsCalls_nothing {op : StoreOp} (h : op.submitted = []) (answered : Bool) :
    CommitsCalls [⟨op, answered⟩] [] := by
  have hall := commitsCalls_all op answered
  rwa [h] at hall

/-- What a method of a usable store makes of the log, whatever it reports. -/
theorem ManifestStore.Faithful.run (h : store.Faithful config d) (op : StoreOp) :
    ∃ entries next,
      CommitLog.Runs (StoreCommits config) (some store.rootState) entries (some next) ∧
      next.Denoted config (applyAll d (op.run store d).effects) ∧
      CommitsCalls [⟨op, (op.run store d).result.isOk⟩] entries := by
  have hcarried := (h.keeps_run op).throughout.after
  obtain ⟨entries, next, hruns, hnext, hentries⟩ := hcarried.runs
  cases hanswer : (op.run store d).result with
  | error e => exact ⟨entries, next, hruns, hnext, commitsCalls_unanswered hentries⟩
  | ok _ =>
    cases op with
    | syncPending pending =>
      cases hresult : (store.syncPending pending d).result with
      | error e =>
        simp only [StoreOp.run, Answer.forget, hresult] at hanswer
        cases hanswer
      | ok answer =>
        rcases h.syncPending_ok hresult with rfl | ⟨next, hcommits, hnext⟩
        · rw [List.sublist_nil.mp hentries] at hruns
          exact ⟨[], next, hruns, hnext, commitsCalls_nothing rfl _⟩
        · exact ⟨pending, next, .single (.commit hcommits), hnext, commitsCalls_all _ _⟩
    | _ =>
      rw [List.sublist_nil.mp hentries] at hruns
      exact ⟨[], next, hruns, hnext, commitsCalls_nothing rfl _⟩

/-- An unusable store answers no synchronisation. -/
theorem ManifestStore.commitsCalls_unusable {error : ManifestStoreError}
    (h : store.ensureUsable = .error error) (op : StoreOp) :
    CommitsCalls [⟨op, (op.run store d).result.isOk⟩] [] := by
  cases op with
  | syncPending pending =>
    have hplan : store.planSync pending = .error error := by
      rw [planSync, h]
      rfl
    have hrefused : (StoreOp.run store d (.syncPending pending)).result.isOk = false := by
      simp only [StoreOp.run, Answer.forget, ManifestStore.syncPending, hplan]
      rfl
    rw [hrefused]
    exact commitsCalls_unanswered (List.nil_sublist _)
  | _ => exact commitsCalls_nothing rfl _

/-- Every step of a store is a run of the log, which commits all that the step reports and nothing
that it was not given. -/
theorem StoreState.Shows.step {state next : StoreState} {log : Option RootState}
    {events : List StoreEvent} (h : state.Shows config log)
    (hstep : state.Step config events next) :
    ∃ entries log', CommitLog.Runs (StoreCommits config) log entries log' ∧
      next.Shows config log' ∧ CommitsCalls events entries := by
  cases hstep with
  | @opened d mode store effects opens =>
    cases log with
    | none =>
      obtain ⟨hfaithful, hfirst⟩ := (Unmanifested.opens h).2 store effects opens
      exact ⟨[], some store.rootState, .single (.genesis hfirst),
        ⟨hfaithful.denoted, fun _ => hfaithful⟩, commitsCalls_nil⟩
    | some state =>
      obtain ⟨hfaithful, hstate⟩ := (RootState.Denoted.open h).2 store effects opens
      refine ⟨[], some store.rootState, ?_, ⟨hfaithful.denoted, fun _ => hfaithful⟩,
        commitsCalls_nil⟩
      rcases hstate with hsame | hrecovers
      · rw [hsame]
        exact .refl
      · exact .single (.commit hrecovers.commits)
  | @openStopped d mode done stops =>
    cases log with
    | none =>
      rcases (Unmanifested.opens h).1 done stops with hnone | ⟨first, hfirst, hdenoted⟩
      · exact ⟨[], none, .refl, hnone, commitsCalls_nil⟩
      · exact ⟨[], some first, .single (.genesis hfirst), hdenoted, commitsCalls_nil⟩
    | some state =>
      rcases (RootState.Denoted.open h).1 done stops with hdenoted | ⟨next, hrecovers, hdenoted⟩
      · exact ⟨[], some state, .refl, hdenoted, commitsCalls_nil⟩
      · exact ⟨[], some next, .single (.commit hrecovers.commits), hdenoted, commitsCalls_nil⟩
  | @stepped store d op allowed =>
    cases log with
    | none => exact h.elim
    | some state =>
      obtain ⟨hdenoted, husable⟩ := h
      cases hcheck : store.ensureUsable with
      | ok =>
        have hfaithful := husable hcheck
        rw [← hdenoted.unique hfaithful.denoted]
        obtain ⟨entries, next, hruns, hnext, hcalls⟩ := hfaithful.run op
        exact ⟨entries, some next, hruns, ⟨hnext, (hfaithful.keeps_run op).ends⟩, hcalls⟩
      | error e =>
        have hcalls := ManifestStore.commitsCalls_unusable (d := d) hcheck op
        obtain ⟨hstore, heffects⟩ := ManifestStore.run_unusable hcheck op d
        rw [hstore, heffects]
        exact ⟨[], some state, .refl, ⟨hdenoted, husable⟩, hcalls⟩
  | @stepStopped store d op done allowed stops =>
    cases log with
    | none => exact h.elim
    | some state =>
      obtain ⟨hdenoted, husable⟩ := h
      cases hcheck : store.ensureUsable with
      | ok =>
        have hfaithful := husable hcheck
        have hcarried := throughout_iff.mp (hfaithful.keeps_run op).throughout done stops
        rw [hdenoted.unique hfaithful.denoted] at hcarried
        obtain ⟨entries, next, hruns, hnext, hentries⟩ := hcarried.runs
        exact ⟨entries, some next, hruns, hnext, commitsCalls_unanswered hentries⟩
      | error e =>
        have heffects := (ManifestStore.run_unusable hcheck op d).2
        rw [heffects, List.prefix_nil] at stops
        rw [stops]
        exact ⟨[], some state, .refl, hdenoted, commitsCalls_unanswered (List.nil_sublist _)⟩
  | @torn d d' tears =>
    cases log with
    | none =>
      refine ⟨[], none, .refl, ?_, commitsCalls_nil⟩
      intro slot
      have hsame : d'.lookup (.manifest slot) = d.lookup (.manifest slot) := tears.lookup trivial
      exact hsame.trans (h slot)
    | some state => exact ⟨[], some state, .refl, tears.denoted h, commitsCalls_nil⟩

/-- Over its whole history a store is a run of the log. -/
theorem StoreState.Shows.history {state next : StoreState} {log : Option RootState}
    {events : List StoreEvent} (h : state.Shows config log)
    (hhistory : StoreHistory config state events next) :
    ∃ entries log', CommitLog.Runs (StoreCommits config) log entries log' ∧
      next.Shows config log' ∧ CommitsCalls events entries :=
  hhistory.simulates commitsCalls_nil (fun _ _ _ _ hfirst hsecond => hfirst.append hsecond)
    (fun _ _ _ _ hshows hstep => hshows.step hstep) h

end Steps

section Runs

variable {config : ManifestStoreConfig} {state next : RootState} {log : Option RootState}
  {entries : List PendingRetryOutcome}

/-- A log goes on from a root with roots that extend it. -/
def LogExtends : Option RootState → Option RootState → Prop
  | none, _ => True
  | some _, none => False
  | some state, some next => next.Extends state

theorem LogExtends.refl (log : Option RootState) : LogExtends log log := by
  cases log with
  | none => trivial
  | some state => exact RootState.Extends.refl state

theorem LogExtends.trans {first second third : Option RootState} (h : LogExtends first second)
    (hnext : LogExtends second third) : LogExtends first third := by
  cases first with
  | none => trivial
  | some state =>
    cases second with
    | none => exact h.elim
    | some middle =>
      cases third with
      | none => exact hnext.elim
      | some last => exact RootState.Extends.trans h hnext

theorem StoreCommits.logExtends {before after : Option RootState}
    {batch : List PendingRetryOutcome} (h : StoreCommits config before batch after) :
    LogExtends before after := by
  cases h with
  | genesis => trivial
  | commit commits => exact commits.extends

theorem logExtends_of_runs (h : CommitLog.Runs (StoreCommits config) (some state) entries log) :
    ∃ later, log = some later ∧ later.Extends state := by
  have hextends := h.relates LogExtends.refl (fun _ _ _ => LogExtends.trans)
    fun _ _ _ hcommits => hcommits.logExtends
  cases log with
  | none => exact hextends.elim
  | some later => exact ⟨later, rfl, hextends⟩

/-- Every log of a store numbers its outcomes from one on. -/
theorem numbered_of_runs (h : CommitLog.Runs (StoreCommits config) none entries log) :
    entries.map (·.appendSequence.val) = List.range' 1 entries.length ∧
      committedSequence log = entries.length := by
  have hstep : ∀ before batch after, StoreCommits config before batch after →
      batch.map (·.appendSequence.val) =
          List.range' (committedSequence before + 1) batch.length ∧
        committedSequence after = committedSequence before + batch.length :=
    fun _ _ _ hcommits => hcommits.numbered
  obtain ⟨hnumbers, hcount⟩ := h.numbered hstep
  have hstart : committedSequence none = 0 := rfl
  rw [hstart] at hnumbers hcount
  refine ⟨hnumbers, ?_⟩
  omega

end Runs

section States

variable {config : ManifestStoreConfig} {state : StoreState}

/-- Every reachable state shows a log. -/
theorem StoreState.Reachable.shows (h : state.Reachable config) :
    ∃ entries log, CommitLog.Runs (StoreCommits config) none entries log ∧
      state.Shows config log := by
  obtain ⟨d, events, hd, hhistory⟩ := h.history
  have hstart : (StoreState.stopped d).Shows config none := hd
  obtain ⟨entries, log, hruns, hshows, -⟩ := hstart.history hhistory
  exact ⟨entries, log, hruns, hshows⟩

theorem StoreState.Shows.usable {store : ManifestStore} {d : StoreDirectory} {root : RootState}
    (h : (StoreState.running store d).Shows config (some root))
    (husable : store.ensureUsable = .ok ()) : store.rootState = root :=
  RootState.Denoted.unique h.1 (h.2 husable).denoted

/-- A state shows one log at most. -/
theorem StoreState.Shows.unique {log other : Option RootState} (h : state.Shows config log)
    (hother : state.Shows config other) : other = log := by
  cases state with
  | stopped d =>
    cases log with
    | none =>
      cases other with
      | none => rfl
      | some root => exact absurd h (RootState.Denoted.manifested hother)
    | some root =>
      cases other with
      | none => exact absurd hother (RootState.Denoted.manifested h)
      | some root' => exact congrArg some (RootState.Denoted.unique h hother)
  | running store d =>
    cases log with
    | none => exact h.elim
    | some root =>
      cases other with
      | none => exact hother.elim
      | some root' => exact congrArg some (RootState.Denoted.unique h.1 hother.1)

/-- A usable store shows what it has in memory. -/
theorem StoreState.Reachable.faithful {store : ManifestStore} {d : StoreDirectory}
    (h : (StoreState.running store d).Reachable config) (husable : store.ensureUsable = .ok ()) :
    store.Faithful config d := by
  obtain ⟨entries, log, -, hshows⟩ := h.shows
  cases log with
  | none => exact hshows.elim
  | some root => exact hshows.2 husable

theorem StoreState.Reachable.showsMemory {store : ManifestStore} {d : StoreDirectory}
    (h : (StoreState.running store d).Reachable config) (husable : store.ensureUsable = .ok ()) :
    (StoreState.running store d).Shows config (some store.rootState) :=
  ⟨(h.faithful husable).denoted, fun _ => h.faithful husable⟩

end States

section Sample

/-- What a method makes of a store and of its directory. -/
def StoreOp.leaves (op : StoreOp) (store : ManifestStore) (d : StoreDirectory) :
    ManifestStore × StoreDirectory :=
  ((op.run store d).store, applyAll d (op.run store d).effects)

theorem StoreHistory.leaves {config : ManifestStoreConfig} {start : StoreState}
    {store : ManifestStore} {d : StoreDirectory} {events : List StoreEvent}
    (h : StoreHistory config start events (.running store d)) (op : StoreOp)
    (allowed : op.Allowed) :
    StoreHistory config start (events ++ [⟨op, (op.run store d).result.isOk⟩])
      (.running (op.leaves store d).1 (op.leaves store d).2) := h.tail (.stepped allowed)

theorem pair_of_fst {α β : Type} {p : α × β} {x : α} (h : p.1 = x) : p = (x, p.2) := by
  rw [← h]

def sampleOutcome : PendingRetryOutcome := ⟨sampleAdmission.retry, 1, 841⟩

/-- A new store that has registered a series and appended a frame of it. -/
def sampleAppended (store : ManifestStore) (frame : PreparedFrameV1) :
    ManifestStore × StoreDirectory :=
  let registered := sampleRegister.leaves store (applyAll ∅ sampleOpened.2)
  (StoreOp.append frame).leaves registered.1 registered.2

/-- The store behind the commit of its first outcome. -/
def sampleCommitted (store : ManifestStore) (frame : PreparedFrameV1) :
    ManifestStore × StoreDirectory :=
  (StoreOp.syncPending [sampleOutcome]).leaves (sampleAppended store frame).1
    (sampleAppended store frame).2

/-- The open behind it. -/
def sampleReopening (store : ManifestStore) (frame : PreparedFrameV1) :
    Except ManifestStoreError ManifestStore × List StoreEffect :=
  ManifestStore.open { sampleStoreConfig with mode := .openExisting }
    (sampleCommitted store frame).2

/-- A store commits its first outcome, is dropped and is opened again. -/
theorem sampleSession : ∃ store frame reopened,
    ManifestStore.open { sampleStoreConfig with mode := .createNew } ∅ =
      (.ok store, sampleOpened.2) ∧
    frame.Built ∧
    ((StoreOp.syncPending [sampleOutcome]).run (sampleAppended store frame).1
      (sampleAppended store frame).2).result.isOk = true ∧
    (sampleCommitted store frame).1.ensureUsable = .ok () ∧
    sampleReopening store frame = (.ok reopened, (sampleReopening store frame).2) ∧
    reopened.ensureUsable = .ok () := by
  have hruns : (sampleOpened.1.toOption.any fun store => sampleFrame.toOption.any fun frame =>
      (sampleReopening store frame).1.toOption.any fun reopened => decide
        (((StoreOp.syncPending [sampleOutcome]).run (sampleAppended store frame).1
          (sampleAppended store frame).2).result.isOk = true ∧
        (sampleCommitted store frame).1.ensureUsable = .ok () ∧
        reopened.ensureUsable = .ok ())) = true := by decide +kernel
  obtain ⟨store, hstore, hruns⟩ := exists_ok_any hruns
  obtain ⟨frame, hframe, hruns⟩ := exists_ok_any hruns
  obtain ⟨reopened, hreopened, hruns⟩ := exists_ok_any hruns
  obtain ⟨hanswered, husable, hagain⟩ := of_decide_eq_true hruns
  refine ⟨store, frame, reopened, ?_, sampleFrame_built hframe, hanswered, husable, ?_, hagain⟩
  · exact pair_of_fst hstore
  · exact pair_of_fst hreopened

theorem sampleCommitted_history {store : ManifestStore} {frame : PreparedFrameV1}
    (hopens : ManifestStore.open { sampleStoreConfig with mode := .createNew } ∅ =
      (.ok store, sampleOpened.2)) (hframe : frame.Built)
    (hanswered : ((StoreOp.syncPending [sampleOutcome]).run (sampleAppended store frame).1
      (sampleAppended store frame).2).result.isOk = true) :
    ∃ before, submittedBy before = [] ∧ acknowledgedBy before = [] ∧
      StoreHistory sampleStoreConfig (.stopped ∅)
        (before ++ [⟨.syncPending [sampleOutcome], true⟩])
        (.running (sampleCommitted store frame).1 (sampleCommitted store frame).2) := by
  have hopened : StoreHistory sampleStoreConfig (.stopped ∅) []
      (.running store (applyAll ∅ sampleOpened.2)) := .tail .refl (.opened hopens)
  have happended := (hopened.leaves sampleRegister trivial).leaves (.append frame) hframe
  have hcommitted := happended.leaves (.syncPending [sampleOutcome]) trivial
  unfold sampleAppended at hanswered
  rw [hanswered] at hcommitted
  exact ⟨_, rfl, by simp [acknowledgedBy, StoreOp.submitted, sampleRegister], hcommitted⟩

theorem sampleCommitted_reachable {store : ManifestStore} {frame : PreparedFrameV1}
    {events : List StoreEvent}
    (hhistory : StoreHistory sampleStoreConfig (.stopped ∅) events
      (.running (sampleCommitted store frame).1 (sampleCommitted store frame).2)) :
    (StoreState.running (sampleCommitted store frame).1
      (sampleCommitted store frame).2).Reachable sampleStoreConfig :=
  (StoreState.Reachable.fresh fun _ => Finmap.lookup_empty _).follow hhistory

end Sample

/-- Whatever stops a store and however often, its directory denotes the root of exactly one log.
The log holds everything that the store has reported as committed and nothing that it was not
given, in this order, and numbers it without a hole or a repetition. -/
theorem store_history_is_log (config : ManifestStoreConfig) {d : StoreDirectory}
    {state : StoreState} {events : List StoreEvent} (hd : Unmanifested d)
    (hhistory : StoreHistory config (.stopped d) events state) :
    ∃ committed log, CommitLog.Runs (StoreCommits config) none committed log ∧
      state.Shows config log ∧ (∀ other, state.Shows config other → other = log) ∧
      List.Sublist (acknowledgedBy events) committed ∧
      List.Sublist committed (submittedBy events) ∧
      committed.map (·.appendSequence.val) = List.range' 1 committed.length ∧
      committedSequence log = committed.length := by
  have hstart : (StoreState.stopped d).Shows config none := hd
  obtain ⟨committed, log, hruns, hshows, hacknowledged, hsubmitted⟩ := hstart.history hhistory
  obtain ⟨hnumbers, hcount⟩ := numbered_of_runs hruns
  exact ⟨committed, log, hruns, hshows, fun _ hother => hshows.unique hother, hacknowledged,
    hsubmitted, hnumbers, hcount⟩

/-- The outcome that a new store reports as committed is the one of its log. -/
theorem store_history_is_log_sample : ∃ events state log,
    StoreHistory sampleStoreConfig (.stopped ∅) events state ∧
      acknowledgedBy events = [sampleOutcome] ∧
      CommitLog.Runs (StoreCommits sampleStoreConfig) none [sampleOutcome] log ∧
      state.Shows sampleStoreConfig log ∧
      (∀ other, state.Shows sampleStoreConfig other → other = log) ∧
      committedSequence log = 1 := by
  obtain ⟨store, frame, -, hopens, hframe, hanswered, -⟩ := sampleSession
  obtain ⟨before, hsubmitted, hacknowledged, hhistory⟩ :=
    sampleCommitted_history hopens hframe hanswered
  have hnone : Unmanifested ∅ := fun _ => Finmap.lookup_empty _
  obtain ⟨committed, log, hruns, hshows, hunique, hbelow, habove, -, hcount⟩ :=
    store_history_is_log sampleStoreConfig hnone hhistory
  have hall : acknowledgedBy (before ++ [⟨.syncPending [sampleOutcome], true⟩]) =
      [sampleOutcome] := by
    unfold acknowledgedBy at hacknowledged ⊢
    rw [List.flatMap_append, hacknowledged]
    rfl
  have hgiven : submittedBy (before ++ [⟨.syncPending [sampleOutcome], true⟩]) =
      [sampleOutcome] := by
    unfold submittedBy at hsubmitted ⊢
    rw [List.flatMap_append, hsubmitted]
    rfl
  rw [hall] at hbelow
  rw [hgiven] at habove
  have hsame : committed = [sampleOutcome] := habove.antisymm hbelow
  rw [hsame] at hruns hcount
  exact ⟨_, _, log, hhistory, hall, hruns, hshows, hunique, hcount⟩

/-- Nothing that a usable store has in memory is lost: whatever happens to it and to its directory
from then on, the registered revisions, the sealed generations and the durable cutoff are in every
later root. -/
theorem usable_memory_is_never_lost (config : ManifestStoreConfig) {store : ManifestStore}
    {d : StoreDirectory} {next : StoreState} {events : List StoreEvent}
    (hreachable : (StoreState.running store d).Reachable config)
    (husable : store.ensureUsable = .ok ())
    (hhistory : StoreHistory config (.running store d) events next) :
    ∃ later, next.Shows config (some later) ∧ later.Extends store.rootState ∧
      ∀ reopened d', next = .running reopened d' → reopened.ensureUsable = .ok () →
        reopened.rootState = later := by
  obtain ⟨entries, log, hruns, hshows, -⟩ := (hreachable.showsMemory husable).history hhistory
  obtain ⟨later, rfl, hextends⟩ := logExtends_of_runs hruns
  refine ⟨later, hshows, hextends, ?_⟩
  rintro reopened d' rfl hreopened
  exact hshows.usable hreopened

/-- The new store, dropped behind its commit and opened again, has not lost it. -/
theorem usable_memory_is_never_lost_sample : ∃ store d reopened d',
    (StoreState.running store d).Reachable sampleStoreConfig ∧
      (StoreState.running reopened d').Shows sampleStoreConfig (some reopened.rootState) ∧
      reopened.rootState.Extends store.rootState := by
  obtain ⟨store, frame, reopened, hopens, hframe, hanswered, husable, hreopens, hagain⟩ :=
    sampleSession
  obtain ⟨before, -, -, hcommitted⟩ := sampleCommitted_history hopens hframe hanswered
  have hreachable := sampleCommitted_reachable hcommitted
  have hdropped : StoreHistory sampleStoreConfig (.running (sampleCommitted store frame).1
      (sampleCommitted store frame).2) [⟨.rotate, false⟩]
      (.stopped (sampleCommitted store frame).2) :=
    .tail .refl (@StoreState.Step.stepStopped _ _ _ .rotate [] trivial List.nil_prefix)
  have hhistory : StoreHistory sampleStoreConfig (.running (sampleCommitted store frame).1
      (sampleCommitted store frame).2) [⟨.rotate, false⟩] (.running reopened (applyAll
        (sampleCommitted store frame).2 (sampleReopening store frame).2)) :=
    hdropped.tail (.opened hreopens)
  obtain ⟨later, hshows, hextends, hlater⟩ :=
    usable_memory_is_never_lost sampleStoreConfig hreachable husable hhistory
  have hsame := hlater reopened _ rfl hagain
  rw [← hsame] at hshows hextends
  exact ⟨_, _, reopened, _, hreachable, hshows, hextends⟩

section Rest

variable {config : ManifestStoreConfig}

/-- What happens to a store that no method is called on: it is dropped, its journal is torn, and it
is opened, with success or up to a stop. -/
inductive StoreState.Rests (config : ManifestStoreConfig) : StoreState → StoreState → Prop
  | dropped {store : ManifestStore} {d : StoreDirectory} :
    Rests config (.running store d) (.stopped d)
  | torn {d d' : StoreDirectory} (tears : Torn config d d') :
    Rests config (.stopped d) (.stopped d')
  | opened {d : StoreDirectory} {mode : ActiveJournalOpenMode} {store : ManifestStore}
      {effects : List StoreEffect}
      (opens : ManifestStore.open { config with mode := mode } d = (.ok store, effects)) :
    Rests config (.stopped d) (.running store (applyAll d effects))
  | openStopped {d : StoreDirectory} {mode : ActiveJournalOpenMode} {done : List StoreEffect}
      (stops : done <+: (ManifestStore.open { config with mode := mode } d).2) :
    Rests config (.stopped d) (.stopped (applyAll d done))

/-- Two roots that differ in their number and in their last recovery only. -/
structure RootState.SameContents (later earlier : RootState) : Prop where
  record : later.record = { earlier.record with
    generation := later.record.generation
    recovery := later.record.recovery }
  registry : later.registry = earlier.registry
  retry : later.retry = earlier.retry
  catalog : later.catalog = earlier.catalog

theorem RootState.Recovers.sameContents {state next : RootState} (h : state.Recovers next) :
    next.SameContents state := by
  obtain ⟨reference, generation, -, rfl⟩ := h
  exact ⟨rfl, rfl, rfl, rfl⟩

theorem RootState.SameContents.trans {first second third : RootState}
    (h : second.SameContents first) (hnext : third.SameContents second) :
    third.SameContents first := by
  refine ⟨?_, hnext.registry.trans h.registry, hnext.retry.trans h.retry,
    hnext.catalog.trans h.catalog⟩
  rw [hnext.record, h.record]

/-- A rest leaves the contents of the root. -/
theorem StoreState.Shows.rests {state next : StoreState} {root : RootState}
    (h : state.Shows config (some root)) (hrests : state.Rests config next) :
    ∃ later, next.Shows config (some later) ∧ later.SameContents root := by
  have hsame : root.SameContents root := ⟨rfl, rfl, rfl, rfl⟩
  cases hrests with
  | dropped => exact ⟨root, h.1, hsame⟩
  | torn tears => exact ⟨root, tears.denoted h, hsame⟩
  | @opened d mode store effects opens =>
    obtain ⟨hfaithful, hstate⟩ := (RootState.Denoted.open h).2 store effects opens
    refine ⟨store.rootState, ⟨hfaithful.denoted, fun _ => hfaithful⟩, ?_⟩
    rcases hstate with heq | hrecovers
    · rw [heq]
      exact hsame
    · exact hrecovers.sameContents
  | @openStopped d mode done stops =>
    rcases (RootState.Denoted.open h).1 done stops with hdenoted | ⟨later, hrecovers, hdenoted⟩
    · exact ⟨root, hdenoted, hsame⟩
    · exact ⟨later, hdenoted, hrecovers.sameContents⟩

end Rest

/-- A store that is dropped and opened again, over any number of stops, torn journals and opens
that did not finish, has the registry, the retry state, the catalog, the cutoff and the floor that
it was dropped with. -/
theorem reopened_store_is_unchanged (config : ManifestStoreConfig) {store reopened : ManifestStore}
    {d d' : StoreDirectory} (hreachable : (StoreState.running store d).Reachable config)
    (husable : store.ensureUsable = .ok ())
    (hrests : Relation.ReflTransGen (StoreState.Rests config) (.running store d)
      (.running reopened d'))
    (hreopened : reopened.ensureUsable = .ok ()) :
    reopened.rootState.SameContents store.rootState := by
  have hrun : ∀ next, Relation.ReflTransGen (StoreState.Rests config) (.running store d) next →
      ∃ later, next.Shows config (some later) ∧ later.SameContents store.rootState := by
    intro next hnext
    induction hnext with
    | refl => exact ⟨_, hreachable.showsMemory husable, rfl, rfl, rfl, rfl⟩
    | tail _ hlast ih =>
      obtain ⟨middle, hmiddle, hsame⟩ := ih
      obtain ⟨later, hlater, hnext⟩ := hmiddle.rests hlast
      exact ⟨later, hlater, hsame.trans hnext⟩
  obtain ⟨later, hshows, hsame⟩ := hrun _ hrests
  rw [hshows.usable hreopened]
  exact hsame

theorem reopened_store_is_unchanged_sample : ∃ store d reopened d',
    (StoreState.running store d).Reachable sampleStoreConfig ∧
      Relation.ReflTransGen (StoreState.Rests sampleStoreConfig) (.running store d)
        (.running reopened d') ∧
      reopened.rootState.SameContents store.rootState := by
  obtain ⟨store, frame, reopened, hopens, hframe, hanswered, husable, hreopens, hagain⟩ :=
    sampleSession
  obtain ⟨before, -, -, hcommitted⟩ := sampleCommitted_history hopens hframe hanswered
  have hreachable := sampleCommitted_reachable hcommitted
  have hrests : Relation.ReflTransGen (StoreState.Rests sampleStoreConfig)
      (.running (sampleCommitted store frame).1 (sampleCommitted store frame).2)
      (.running reopened (applyAll (sampleCommitted store frame).2
        (sampleReopening store frame).2)) :=
    (Relation.ReflTransGen.single .dropped).tail (.opened hreopens)
  exact ⟨_, _, reopened, _, hreachable, hrests,
    reopened_store_is_unchanged sampleStoreConfig hreachable husable hrests hagain⟩

end Historian
