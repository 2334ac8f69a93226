import Historian.CollectionLaw
import Historian.IngressDrain
import Historian.KeyedMax

namespace Historian

open Wire Checks KeyedMax IngressState

theorem ProducerPosition.lt_irrefl (p : ProducerPosition) : ¬p.lt p = true := by
  rw [lt_iff]
  simp

/-- Positions are ordered linearly. -/
theorem ProducerPosition.eq_of_not_lt {a b : ProducerPosition} (h : ¬a.lt b = true)
    (h' : ¬b.lt a = true) : a = b := by
  obtain ⟨epoch, sequence⟩ := a
  obtain ⟨epoch', sequence'⟩ := b
  simp only [lt_iff, Fin.lt_def, Fin.ext_iff] at h h'
  simp only [ProducerPosition.mk.injEq, Fin.ext_iff]
  omega

namespace PublishedObservation

def seriesId (published : PublishedObservation) : SeriesId := published.series.seriesId

/-- A later observation of the same series. -/
def Below (a b : PublishedObservation) : Prop :=
  a.series = b.series ∧ a.position.lt b.position = true

theorem Below.trans (a b c : PublishedObservation) (h : a.Below b) (h' : b.Below c) : a.Below c :=
  ⟨h.1.trans h'.1, ProducerPosition.lt_trans h.2 h'.2⟩

theorem Below.asymm (a b : PublishedObservation) (h : a.Below b) : ¬b.Below a :=
  fun h' => ProducerPosition.lt_irrefl a.position (ProducerPosition.lt_trans h.2 h'.2)

end PublishedObservation

/-- The entry is up to date with a candidate. -/
abbrev Shows (entries : List PublishedObservation) (candidate : PublishedObservation) : Prop :=
  Covered PublishedObservation.seriesId PublishedObservation.Below entries candidate

/-- What one handled admission makes of the published entries. -/
inductive Publishes (entries : List PublishedObservation) :
    Option PublishedObservation → List PublishedObservation → Prop
  | absent : Publishes entries none entries
  | shown (candidate : PublishedObservation) (h : Shows entries candidate) :
    Publishes entries (some candidate) entries
  | replaced (candidate : PublishedObservation) (index : Nat) (old : PublishedObservation)
      (hindex : entries[index]? = some old) (hbelow : old.Below candidate) :
    Publishes entries (some candidate) (entries.set index candidate)
  | added (candidate : PublishedObservation)
      (hfree : ∀ entry ∈ entries, entry.seriesId ≠ candidate.seriesId)
      (hroom : entries.length < maxPublishedSeries) :
    Publishes entries (some candidate) (entries ++ [candidate])

/-- A candidate that is shown, or none, changes nothing. -/
theorem Publishes.unchanged {entries : List PublishedObservation}
    {candidate : Option PublishedObservation} (h : ∀ new ∈ candidate, Shows entries new) :
    Publishes entries candidate entries := by
  cases candidate with
  | none => exact .absent
  | some new => exact .shown new (h new rfl)

theorem Publishes.length_le {entries entries' : List PublishedObservation}
    {candidate : Option PublishedObservation} (h : Publishes entries candidate entries')
    (hle : entries.length ≤ maxPublishedSeries) : entries'.length ≤ maxPublishedSeries := by
  cases h with
  | absent => exact hle
  | shown candidate hshows => exact hle
  | replaced candidate index old hindex hbelow =>
    rw [List.length_set]
    exact hle
  | added candidate hfree hroom =>
    rw [List.length_append, List.length_singleton]
    exact hroom

/-- What is shown stays shown. -/
theorem Publishes.shows {entries entries' : List PublishedObservation}
    {candidate : Option PublishedObservation} (h : Publishes entries candidate entries')
    {shown : PublishedObservation} (hshown : Shows entries shown) : Shows entries' shown := by
  cases h with
  | absent => exact hshown
  | shown candidate hshows => exact hshown
  | replaced candidate index old hindex hbelow =>
    exact hshown.replace PublishedObservation.Below.trans hindex
      (congrArg SeriesMetadata.seriesId hbelow.1) hbelow
  | added candidate hfree hroom => exact hshown.push _

/-- The published entries are the greatest of the candidates. -/
theorem Publishes.greatest {offered entries entries' : List PublishedObservation}
    {candidate : Option PublishedObservation} (h : Publishes entries candidate entries')
    (hgreatest : Greatest PublishedObservation.seriesId PublishedObservation.Below offered
      entries) :
    Greatest PublishedObservation.seriesId PublishedObservation.Below
      (offered ++ candidate.toList) entries' := by
  cases h with
  | absent =>
    rw [Option.toList_none, List.append_nil]
    exact hgreatest
  | shown candidate hshows => exact hgreatest.skip hshows
  | replaced candidate index old hindex hbelow =>
    exact hgreatest.replace PublishedObservation.Below.trans hindex
      (congrArg SeriesMetadata.seriesId hbelow.1) hbelow
  | added candidate hfree hroom => exact hgreatest.push hfree

namespace LatestState

/-- One admission is handled: its publication is planned, staged and committed. -/
def handle (latest : LatestState) (admission : CanonicalAdmission) : Option LatestState :=
  match latest.plan (IngressState.candidateOf admission) with
  | none => none
  | some plan =>
    let (preparation, staged) := latest.stage plan
    if staged.canComplete preparation then some (staged.commit preparation) else none

/-- The admissions are handled one after the other; nothing is published behind a fault. -/
def handleAll (latest : LatestState) : List CanonicalAdmission → Option LatestState
  | [] => some latest
  | admission :: rest => (latest.handle admission).bind fun next => next.handleAll rest

theorem handleAll_append (latest : LatestState) (first second : List CanonicalAdmission) :
    latest.handleAll (first ++ second) =
      (latest.handleAll first).bind fun next => next.handleAll second := by
  induction first generalizing latest with
  | nil => rfl
  | cons admission rest ih =>
    rw [List.cons_append, handleAll, handleAll]
    cases latest.handle admission with
    | none => rfl
    | some next => exact ih next

/-- What a plan makes of the entries that it was made for. -/
def Plans (current : LatestSnapshot) (candidate : Option PublishedObservation) :
    PublicationPlan → Prop
  | .noChange => ∀ new ∈ candidate, Shows current.entries new
  | .advance base (some index) new => base = current ∧ candidate = some new ∧
      ∃ old, current.entries[index]? = some old ∧ old.Below new
  | .advance base none new => base = current ∧ candidate = some new ∧
      (∀ entry ∈ current.entries, entry.seriesId ≠ new.seriesId) ∧
      current.entries.length < maxPublishedSeries

theorem planExisting_plans {current : LatestSnapshot} {index : Nat}
    {published candidate : PublishedObservation} {plan : PublicationPlan}
    (hindex : current.entries[index]? = some published)
    (h : planExisting current index published candidate = some plan) :
    Plans current (some candidate) plan := by
  have hshown : ∀ hseries : published.series = candidate.series,
      candidate = published ∨ candidate.Below published →
      ∀ new ∈ some candidate, Shows current.entries new := by
    intro hseries hbelow new hnew
    rw [← Option.some.inj hnew]
    exact ⟨published, List.mem_of_getElem? hindex, congrArg SeriesMetadata.seriesId hseries,
      hbelow⟩
  unfold planExisting at h
  split at h
  next => cases h
  next hseries =>
    have hseries := not_not.mp hseries
    split at h
    next hlater =>
      cases h
      exact ⟨rfl, rfl, published, hindex, hseries, hlater⟩
    next hlater =>
      split at h
      next hearlier =>
        cases h
        exact hshown hseries (Or.inr ⟨hseries.symm, hearlier⟩)
      next hearlier =>
        split at h
        next hsame =>
          cases h
          have hposition := ProducerPosition.eq_of_not_lt hlater hearlier
          refine hshown hseries (Or.inl ?_)
          obtain ⟨series, observation, position⟩ := candidate
          obtain ⟨series', observation', position'⟩ := published
          simp_all
        next => cases h

theorem plan_plans {latest : LatestState} {candidate : Option PublishedObservation}
    {plan : PublicationPlan} (h : latest.plan candidate = some plan) :
    latest.isSealed = false ∧
      ∃ current, latest.current = some current ∧ Plans current candidate plan := by
  unfold LatestState.plan at h
  split at h
  next => cases h
  next current hcurrent =>
    split at h
    next => cases h
    next hopen =>
      refine ⟨by simpa using hopen, current, hcurrent, ?_⟩
      split at h
      next =>
        cases h
        intro new hnew
        cases hnew
      next candidate =>
        split at h
        next index hfind =>
          split at h
          next published hindex => exact planExisting_plans hindex h
          next => cases h
        next hfind =>
          split at h
          next => cases h
          next hroom =>
            cases h
            refine ⟨rfl, rfl, ?_, Nat.lt_of_not_le hroom⟩
            intro entry hentry hsame
            have hnone := List.findIdx?_eq_none_iff.mp hfind entry hentry
            exact of_decide_eq_false hnone hsame

/-- What a plan becomes when it is staged. -/
theorem stage_plans {latest : LatestState} {current : LatestSnapshot}
    {candidate : Option PublishedObservation} {plan : PublicationPlan}
    (h : Plans current candidate plan) :
    (latest.stage plan = (.noChange, latest) ∧
        ∀ new ∈ candidate, Shows current.entries new) ∨
      ∃ entries, latest.stage plan =
          (.advance current ⟨current.storeId, entries, latest.allocations⟩,
            { latest with allocations := latest.allocations + 1 }) ∧
        Publishes current.entries candidate entries := by
  cases plan with
  | noChange => exact Or.inl ⟨rfl, h⟩
  | advance base index new =>
    refine Or.inr ?_
    cases index with
    | some index =>
      obtain ⟨rfl, rfl, old, hindex, hbelow⟩ := h
      exact ⟨_, rfl, .replaced new index old hindex hbelow⟩
    | none =>
      obtain ⟨rfl, rfl, hfree, hroom⟩ := h
      exact ⟨_, rfl, .added new hfree hroom⟩

/-- A handled admission publishes what it makes of the current entries. -/
theorem handle_publishes {latest next : LatestState} {admission : CanonicalAdmission}
    (h : latest.handle admission = some next) :
    latest.isSealed = false ∧ next.isSealed = false ∧ ∃ current later,
      latest.current = some current ∧ next.current = some later ∧
      later.storeId = current.storeId ∧
      Publishes current.entries (IngressState.candidateOf admission) later.entries := by
  unfold handle at h
  split at h
  next => cases h
  next plan hplan =>
    obtain ⟨hopen, current, hcurrent, hplans⟩ := plan_plans hplan
    refine ⟨hopen, ?_⟩
    obtain ⟨hstage, hpublishes⟩ | ⟨entries, hstage, hpublishes⟩ := stage_plans hplans
    · rw [hstage] at h
      dsimp only at h
      split at h
      next =>
        cases h
        exact ⟨hopen, current, current, hcurrent, hcurrent, rfl, .unchanged hpublishes⟩
      next => cases h
    · rw [hstage] at h
      dsimp only at h
      split at h
      next =>
        cases h
        exact ⟨hopen, current, _, hcurrent, rfl, rfl, hpublishes⟩
      next => cases h

/-- Every key has one entry, so it is found by its key. -/
theorem findIdx?_entry {entries : List PublishedObservation}
    (hdistinct : (entries.map PublishedObservation.seriesId).Nodup) {index : Nat}
    {entry : PublishedObservation} (hindex : entries[index]? = some entry) {seriesId : SeriesId}
    (hseries : entry.seriesId = seriesId) :
    entries.findIdx? (·.series.seriesId = seriesId) = some index := by
  obtain ⟨hlt, hentry⟩ := List.getElem?_eq_some_iff.mp hindex
  rw [List.findIdx?_eq_some_iff_getElem]
  refine ⟨hlt, ?_, ?_⟩
  · rw [hentry]
    exact decide_eq_true hseries
  · intro j hj hsame
    have hsame : entries[j].seriesId = seriesId := of_decide_eq_true hsame
    have hrange : j < (entries.map PublishedObservation.seriesId).length := by
      rw [List.length_map]
      omega
    have heq : (entries.map PublishedObservation.seriesId)[j]? =
        (entries.map PublishedObservation.seriesId)[index]? := by
      rw [List.getElem?_map, List.getElem?_map, hindex, List.getElem?_eq_getElem (by omega)]
      simp [hsame, hseries]
    have hplace : j = index := (List.getElem?_inj hrange hdistinct).mp heq
    omega

/-- The plan that the entries call for is the one that is made. -/
theorem plan_publishes {latest : LatestState} {current : LatestSnapshot}
    {candidate : Option PublishedObservation} {entries : List PublishedObservation}
    (hcurrent : latest.current = some current) (hopen : latest.isSealed = false)
    (hdistinct : (current.entries.map PublishedObservation.seriesId).Nodup)
    (h : Publishes current.entries candidate entries) :
    ∃ plan, latest.plan candidate = some plan ∧
      (plan = .noChange ∧ entries = current.entries ∨
        ∃ index new, plan = .advance current index new ∧
          entries = index.elim (current.entries ++ [new]) fun i => current.entries.set i new) := by
  unfold LatestState.plan
  rw [hcurrent]
  dsimp only
  rw [if_neg (by rw [hopen]; decide)]
  cases h with
  | absent => exact ⟨_, rfl, Or.inl ⟨rfl, rfl⟩⟩
  | shown candidate hshows =>
    obtain ⟨entry, hentry, hseries, hbelow⟩ := hshows
    obtain ⟨index, hindex⟩ := List.getElem?_of_mem hentry
    have hseries : entry.seriesId = candidate.series.seriesId := hseries
    dsimp only
    rw [findIdx?_entry hdistinct hindex hseries]
    dsimp only
    rw [hindex]
    dsimp only
    unfold planExisting
    refine ⟨.noChange, ?_, Or.inl ⟨rfl, rfl⟩⟩
    rcases hbelow with rfl | hbelow
    · have hrefl := ProducerPosition.lt_irrefl candidate.position
      rw [if_neg (fun hne => hne rfl), if_neg hrefl, if_neg hrefl, if_pos rfl]
    · have hnot : ¬entry.position.lt candidate.position = true := fun hlt =>
        ProducerPosition.lt_irrefl _ (ProducerPosition.lt_trans hlt hbelow.2)
      rw [if_neg (fun hne => hne hbelow.1.symm), if_neg hnot, if_pos hbelow.2]
  | replaced candidate index old hindex hbelow =>
    dsimp only
    rw [findIdx?_entry hdistinct hindex (congrArg SeriesMetadata.seriesId hbelow.1)]
    dsimp only
    rw [hindex]
    dsimp only
    unfold planExisting
    refine ⟨_, ?_, Or.inr ⟨some index, candidate, rfl, rfl⟩⟩
    rw [if_neg (fun hne => hne hbelow.1), if_pos hbelow.2]
  | added candidate hfree hroom =>
    have hnone : current.entries.findIdx?
        (·.series.seriesId = candidate.series.seriesId) = none := by
      rw [List.findIdx?_eq_none_iff]
      intro entry hentry
      exact decide_eq_false (hfree entry hentry)
    dsimp only
    rw [hnone]
    dsimp only
    refine ⟨_, ?_, Or.inr ⟨none, candidate, rfl, rfl⟩⟩
    rw [if_neg (by omega)]

theorem handle_of_publishes {latest : LatestState} {current : LatestSnapshot}
    {admission : CanonicalAdmission} {entries : List PublishedObservation}
    (hcurrent : latest.current = some current) (hopen : latest.isSealed = false)
    (hdistinct : (current.entries.map PublishedObservation.seriesId).Nodup)
    (h : Publishes current.entries (IngressState.candidateOf admission) entries) :
    ∃ next later, latest.handle admission = some next ∧ next.current = some later ∧
      later.entries = entries := by
  obtain ⟨plan, hplan, ⟨rfl, hsame⟩ | ⟨index, new, rfl, hsame⟩⟩ :=
    plan_publishes hcurrent hopen hdistinct h
  · refine ⟨latest, current, ?_, hcurrent, hsame.symm⟩
    unfold handle
    rw [hplan]
    dsimp only [stage]
    have hcan : latest.canComplete .noChange = true := by
      unfold canComplete
      rw [hopen, hcurrent]
    rw [if_pos hcan]
    rfl
  · refine ⟨{ latest with
      current := some ⟨current.storeId, entries, latest.allocations⟩
      allocations := latest.allocations + 1 }, _, ?_, rfl, rfl⟩
    unfold handle
    rw [hplan]
    dsimp only [stage]
    have hcan : ∀ later, ({ latest with allocations := latest.allocations + 1 } :
        LatestState).canComplete (.advance current later) = true := by
      intro later
      unfold canComplete
      dsimp only
      rw [hopen, hcurrent]
      simp [LatestSnapshot.sharesEntriesWith]
    rw [if_pos (hcan _), hsame]
    cases index with
    | none => rfl
    | some index => rfl

/-- Handling keeps the greatest candidates, one for each series. -/
theorem handleAll_greatest {latest final : LatestState} {current : LatestSnapshot}
    {offered : List PublishedObservation} {admissions : List CanonicalAdmission}
    (hcurrent : latest.current = some current) (hopen : latest.isSealed = false)
    (hgreatest : Greatest PublishedObservation.seriesId PublishedObservation.Below offered
      current.entries)
    (hle : current.entries.length ≤ maxPublishedSeries)
    (h : latest.handleAll admissions = some final) :
    final.isSealed = false ∧ ∃ last, final.current = some last ∧
      last.storeId = current.storeId ∧ last.entries.length ≤ maxPublishedSeries ∧
      Greatest PublishedObservation.seriesId PublishedObservation.Below
        (offered ++ admissions.filterMap IngressState.candidateOf) last.entries := by
  induction admissions generalizing latest current offered with
  | nil =>
    cases h
    rw [List.filterMap_nil, List.append_nil]
    exact ⟨hopen, current, hcurrent, rfl, hle, hgreatest⟩
  | cons admission rest ih =>
    obtain ⟨next, hhandle, hrest⟩ := Option.bind_eq_some_iff.mp h
    obtain ⟨-, hopen, before, later, hbefore, hlater, hstore, hpublishes⟩ :=
      handle_publishes hhandle
    rw [hcurrent, Option.some.injEq] at hbefore
    rw [← hbefore] at hpublishes hstore
    obtain ⟨hopen, last, hlast, hsame, hle, hgreatest⟩ := ih hlater hopen
      (hpublishes.greatest hgreatest) (hpublishes.length_le hle) hrest
    refine ⟨hopen, last, hlast, hsame.trans hstore, hle, ?_⟩
    have hoffered : (admission :: rest).filterMap IngressState.candidateOf =
        (IngressState.candidateOf admission).toList ++
          rest.filterMap IngressState.candidateOf := by
      rw [List.filterMap_cons]
      cases IngressState.candidateOf admission <;> rfl
    rw [hoffered, ← List.append_assoc]
    exact hgreatest

theorem handleAll_new {storeId : StoreId} {final : LatestState}
    {admissions : List CanonicalAdmission}
    (h : (LatestState.new storeId).handleAll admissions = some final) :
    final.isSealed = false ∧ ∃ last, final.current = some last ∧ last.storeId = storeId ∧
      last.entries.length ≤ maxPublishedSeries ∧
      Greatest PublishedObservation.seriesId PublishedObservation.Below
        (admissions.filterMap IngressState.candidateOf) last.entries := by
  have hempty : (⟨storeId, [], 0⟩ : LatestSnapshot).entries.length ≤ maxPublishedSeries :=
    Nat.zero_le _
  exact handleAll_greatest rfl rfl .nil hempty h

end LatestState

/-- In a valid envelope the positions increase from the first observation to the last, or there
are none. -/
theorem CollectionEnvelope.positions (envelope : CollectionEnvelope) :
    (∀ observation ∈ envelope.observations, observation.producerPosition = none) ∨
      envelope.observations.Pairwise Observation.Before ∧
        ∀ observation ∈ envelope.observations, observation.producerPosition ≠ none := by
  obtain ⟨series, evidence, hvalid⟩ := envelope
  cases evidence with
  | noChange interval => exact Or.inl fun _ h => (List.not_mem_nil h).elim
  | observed observations gaps =>
    change (∀ observation ∈ observations, _) ∨ observations.Pairwise _ ∧ _
    have hvalid : validateObserved series.collectionMode observations gaps = .ok () := hvalid
    cases observations with
    | nil => exact Or.inl fun _ h => (List.not_mem_nil h).elim
    | cons first rest =>
      unfold validateObserved at hvalid
      by_cases hfirst : first.positioned = true
      · simp only [List.head?_cons, Option.map_some, hfirst, if_true, then_ok, refuse_ok,
          forM_ok, uniform_iff] at hvalid
        obtain ⟨-, -, -, -, huniform, hordered, -⟩ := hvalid
        have hbefore : (first :: rest).Pairwise Observation.Before := by
          rw [← windows_pairwise fun (a b c : Observation)
            (h : a.Before b) (h' : b.Before c) => h.trans h']
          intro pair hpair
          exact validatePositionOrder_ok.mp (hordered pair hpair)
        exact Or.inr ⟨hbefore, fun o ho => (huniform o ho).mpr trivial⟩
      · rw [Bool.not_eq_true] at hfirst
        simp only [List.head?_cons, Option.map_some, hfirst, Option.some.injEq,
          Bool.false_eq_true, if_false, then_ok, refuse_ok, uniform_iff, iff_false,
          not_not] at hvalid
        exact Or.inl hvalid.2.2.2.2.1

namespace IngressState

/-- The candidate is an observation of the envelope, with its position. -/
theorem candidateOf_mem {admission : CanonicalAdmission} {candidate : PublishedObservation}
    (h : candidateOf admission = some candidate) :
    candidate.series = admission.envelope.series ∧
      candidate.observation ∈ admission.envelope.observations ∧
      candidate.observation.producerPosition = some candidate.position := by
  unfold candidateOf at h
  obtain ⟨observation, hlast, h⟩ := Option.bind_eq_some_iff.mp h
  obtain ⟨position, hposition, h⟩ := Option.bind_eq_some_iff.mp h
  cases h
  exact ⟨rfl, List.mem_of_getLast? hlast, hposition⟩

/-- The candidate has the greatest position of its envelope. -/
theorem candidateOf_greatest {admission : CanonicalAdmission} {observation : Observation}
    {position : ProducerPosition} (hobservation : observation ∈ admission.envelope.observations)
    (hposition : observation.producerPosition = some position) :
    ∃ candidate, candidateOf admission = some candidate ∧
      (observation = candidate.observation ∧ position = candidate.position ∨
        position.lt candidate.position = true) := by
  rcases admission.envelope.positions with hnone | ⟨hbefore, hall⟩
  · rw [hnone observation hobservation] at hposition
    cases hposition
  · have hne := List.ne_nil_of_mem hobservation
    obtain ⟨front, last, hsplit⟩ := (List.eq_nil_or_concat' _).resolve_left hne
    have hmem : last ∈ admission.envelope.observations := by
      rw [hsplit]
      exact List.mem_append_right _ (List.mem_singleton_self last)
    obtain ⟨greatest, hgreatest⟩ := Option.ne_none_iff_exists'.mp (hall last hmem)
    have hcandidate : candidateOf admission =
        some ⟨admission.envelope.series, last, greatest⟩ := by
      unfold candidateOf
      rw [hsplit, List.getLast?_append]
      simp [hgreatest]
    refine ⟨_, hcandidate, ?_⟩
    rw [hsplit] at hobservation hbefore
    rcases List.mem_append.mp hobservation with hfront | hlast
    · obtain ⟨p, q, hp, hq, hlt⟩ :=
        (List.pairwise_append.mp hbefore).2.2 _ hfront last (List.mem_singleton_self last)
      rw [hposition, Option.some.injEq] at hp
      rw [hgreatest, Option.some.injEq] at hq
      rw [hp, hq]
      exact Or.inr hlt
    · have hsame := List.mem_singleton.mp hlast
      rw [hsame, hgreatest, Option.some.injEq] at hposition
      exact Or.inl ⟨hsame, hposition.symm⟩

end IngressState

/-- The entries are the observations with the greatest positions of the handled admissions. -/
structure GreatestPositions (admissions : List CanonicalAdmission)
    (entries : List PublishedObservation) : Prop where
  distinct : (entries.map PublishedObservation.seriesId).Nodup
  bounded : entries.length ≤ maxPublishedSeries
  present : ∀ seriesId, (∃ entry ∈ entries, entry.seriesId = seriesId) ↔
    ∃ admission ∈ admissions, admission.envelope.series.seriesId = seriesId ∧
      ∃ observation ∈ admission.envelope.observations, observation.producerPosition ≠ none
  comes : ∀ entry ∈ entries, ∃ admission ∈ admissions, entry.series = admission.envelope.series ∧
    entry.observation ∈ admission.envelope.observations ∧
    entry.observation.producerPosition = some entry.position
  greatest : ∀ entry ∈ entries, ∀ admission ∈ admissions,
    admission.envelope.series.seriesId = entry.seriesId →
    ∀ observation ∈ admission.envelope.observations, ∀ position,
      observation.producerPosition = some position → admission.envelope.series = entry.series ∧
        (observation = entry.observation ∧ position = entry.position ∨
          position.lt entry.position = true)

/-- The last observations decide, because each has the greatest position of its envelope. -/
theorem GreatestPositions.of_greatest {admissions : List CanonicalAdmission}
    {entries : List PublishedObservation}
    (h : Greatest PublishedObservation.seriesId PublishedObservation.Below
      (admissions.filterMap IngressState.candidateOf) entries)
    (hle : entries.length ≤ maxPublishedSeries) : GreatestPositions admissions entries := by
  have hcomes : ∀ entry ∈ entries, ∃ admission ∈ admissions,
      IngressState.candidateOf admission = some entry := by
    intro entry hentry
    exact List.mem_filterMap.mp (h.offers entry hentry)
  have hoffered : ∀ admission ∈ admissions, ∀ candidate,
      IngressState.candidateOf admission = some candidate →
      candidate ∈ admissions.filterMap IngressState.candidateOf := by
    intro admission hadmission candidate hcandidate
    exact List.mem_filterMap.mpr ⟨admission, hadmission, hcandidate⟩
  refine ⟨h.distinct, hle, ?_, ?_, ?_⟩
  · intro seriesId
    constructor
    · intro hentry
      obtain ⟨entry, hentry, hseries⟩ := hentry
      obtain ⟨admission, hadmission, hcandidate⟩ := hcomes entry hentry
      obtain ⟨hmetadata, hmem, hposition⟩ := IngressState.candidateOf_mem hcandidate
      refine ⟨admission, hadmission, ?_, entry.observation, hmem, ?_⟩
      · rw [← hmetadata]
        exact hseries
      · rw [hposition]
        simp
    · intro hadmission
      obtain ⟨admission, hadmission, hseries, observation, hobservation, hpositioned⟩ := hadmission
      obtain ⟨position, hposition⟩ := Option.ne_none_iff_exists'.mp hpositioned
      obtain ⟨candidate, hcandidate, -⟩ :=
        IngressState.candidateOf_greatest hobservation hposition
      obtain ⟨entry, hentry, hkey, -⟩ :=
        h.covers candidate (hoffered admission hadmission candidate hcandidate)
      obtain ⟨hmetadata, -, -⟩ := IngressState.candidateOf_mem hcandidate
      refine ⟨entry, hentry, hkey.trans ?_⟩
      rw [← hseries, ← hmetadata]
      rfl
  · intro entry hentry
    obtain ⟨admission, hadmission, hcandidate⟩ := hcomes entry hentry
    exact ⟨admission, hadmission, IngressState.candidateOf_mem hcandidate⟩
  · intro entry hentry admission hadmission hseries observation hobservation position hposition
    obtain ⟨candidate, hcandidate, hlast⟩ :=
      IngressState.candidateOf_greatest hobservation hposition
    obtain ⟨hmetadata, -, -⟩ := IngressState.candidateOf_mem hcandidate
    have hkey : entry.seriesId = candidate.seriesId := by
      rw [← hseries, ← hmetadata]
      rfl
    rcases h.le hentry (hoffered admission hadmission candidate hcandidate) hkey with heq | hbelow
    · rw [← hmetadata, ← heq]
      exact ⟨rfl, hlast⟩
    · refine ⟨hmetadata.symm.trans hbelow.1, Or.inr ?_⟩
      rcases hlast with ⟨-, hsame⟩ | hlt
      · rw [hsame]
        exact hbelow.2
      · exact ProducerPosition.lt_trans hlt hbelow.2

/-- The latest observations change neither their name nor, unless they become unavailable, what
they show. -/
def LatestState.Keeps (latest next : LatestState) : Prop :=
  next.allocations = latest.allocations ∧
    (next.current = latest.current ∨ next.current = none)

/-- A snapshot is in its array, and the next array has another name. -/
def LatestState.Located (heap : Nat → List PublishedObservation) (latest : LatestState)
    (snapshot : LatestSnapshot) : Prop :=
  snapshot.allocation < latest.allocations ∧ snapshot.entries = heap snapshot.allocation

namespace IngressState

variable {state next : IngressState}

theorem latest_same (h : next.latest = state.latest) : state.latest.Keeps next.latest := by
  rw [h]
  exact ⟨rfl, Or.inl rfl⟩

theorem latest_stopAll (before : IngressState) (h : before.latest.allocations =
    state.latest.allocations) : state.latest.Keeps before.stopAll.latest := ⟨h, Or.inr rfl⟩

theorem latest_reserve (command : IngressCommand) (measured : Except JournalV1Error Nat) :
    (state.reserve command measured).2.latest = state.latest := by
  cases hreserve : state.reserve command measured with
  | mk reservation next =>
    obtain ⟨_, -, rfl | ⟨outcome, -, rfl⟩⟩ | ⟨_, _, -, -, -, rfl⟩ := reserve_next hreserve
    · rfl
    · rfl
    · rfl

theorem latest_enqueue (slotIndex terminal : Nat) (prepared : PreparedAdmissionV1)
    (command : IngressCommand) :
    state.latest.Keeps (state.enqueue slotIndex terminal prepared command).2.latest := by
  unfold IngressState.enqueue
  split
  next =>
    split
    next => exact latest_same rfl
    next => exact latest_stopAll state rfl
  next => exact latest_stopAll state rfl

theorem latest_rollbackPreparation (slotIndex : Nat) :
    (state.rollbackPreparation slotIndex).latest = state.latest := by
  unfold IngressState.rollbackPreparation
  split
  next => rfl
  next => rfl

theorem latest_takeNext : state.latest.Keeps state.takeNext.2.latest := by
  have hseal : state.latest.Keeps state.latest.seal.2 := by
    unfold LatestState.seal
    split
    next => exact ⟨rfl, Or.inl rfl⟩
    next => exact ⟨rfl, Or.inl rfl⟩
  unfold IngressState.takeNext
  split
  next =>
    dsimp only
    split
    next => exact latest_same rfl
    next =>
      split
      next => exact latest_same rfl
      next =>
        split
        next => exact latest_same rfl
        next => exact latest_same rfl
  next =>
    dsimp only
    split
    next => exact hseal
    next =>
      split
      next => exact latest_same rfl
      next => exact latest_same rfl

theorem latest_finishBatch {committed : ManifestCommit} {entries : List DurableBatchEntry} :
    state.latest.Keeps (finishBatch committed state entries).2.latest := by
  induction entries generalizing state with
  | nil => exact latest_same rfl
  | cons entry rest ih =>
    unfold finishBatch
    split
    next => exact latest_stopAll state rfl
    next slot hslot =>
      dsimp only
      split
      next => exact ih
      next => exact latest_stopAll _ rfl

theorem latest_completeDurableBatch (entries : List DurableBatchEntry)
    (committed : ManifestCommit) (retry : RetryStateSnapshot) :
    state.latest.Keeps (state.completeDurableBatch entries committed retry).2.latest := by
  obtain hstopped | ⟨heq, -⟩ := @completeDurableBatch_checked state entries committed retry
  · rw [hstopped]
    exact latest_stopAll state rfl
  · rw [heq]
    exact @latest_finishBatch { state with retry := retry } committed entries

end IngressState

/-- A command that is ready to publish is at its place, and will publish what is due. -/
def InFlightCommand.Prepared (heap : Nat → List PublishedObservation) (latest : LatestState) :
    InFlightCommand → Prop
  | .published _ admission _ .noChange => ∀ current, latest.current = some current →
      ∀ new ∈ IngressState.candidateOf admission, Shows current.entries new
  | .published _ admission _ (.advance base next) => latest.Located heap base ∧
      latest.Located heap next ∧
      Publishes base.entries (IngressState.candidateOf admission) next.entries
  | _ => True

namespace Runtime

/-- The admission whose handled stage this step completes. -/
def completes (runtime : Runtime) : RuntimeEvent → Option CanonicalAdmission
  | .completeHandled inFlight =>
    match runtime.writer[inFlight]? with
    | some (.published slotIndex admission append preparation) =>
      if (runtime.shared.completeHandled slotIndex admission append preparation).1
      then some admission else none
    | _ => none
  | _ => none

/-- The handled admissions of a run, in their order. -/
def handled (runtime : Runtime) : List RuntimeEvent → List CanonicalAdmission
  | [] => []
  | event :: rest =>
    match runtime.step event with
    | some next => (runtime.completes event).toList ++ next.handled rest
    | none => []

/-- What one step does to the latest observations and to the commands that publish. -/
inductive LatestStep (runtime next : Runtime) : Option CanonicalAdmission → Prop
  | keeps (latest : runtime.shared.latest.Keeps next.shared.latest)
      (writer : ∀ command ∈ next.writer, command ∈ runtime.writer ∨
        ∀ heap latest, command.Prepared heap latest) :
      LatestStep runtime next none
  | prepares (inFlight slotIndex : Nat) (admission : CanonicalAdmission)
      (append : AppendIdentity) (plan : PublicationPlan)
      (hplan : runtime.shared.latest.plan (candidateOf admission) = some plan)
      (latest : next.shared.latest = (runtime.shared.latest.stage plan).2)
      (writer : next.writer = runtime.writer.set inFlight
        (.published slotIndex admission append (runtime.shared.latest.stage plan).1)) :
      LatestStep runtime next none
  | commits (slotIndex : Nat) (admission : CanonicalAdmission) (append : AppendIdentity)
      (preparation : PreparedPublication)
      (hready : InFlightCommand.published slotIndex admission append preparation ∈ runtime.writer)
      (hcan : runtime.shared.latest.canComplete preparation = true)
      (latest : next.shared.latest = runtime.shared.latest.commit preparation)
      (writer : ∀ command ∈ next.writer, command ∈ runtime.writer) :
      LatestStep runtime next (some admission)

theorem step_latest {runtime next : Runtime} {event : RuntimeEvent}
    (hstep : runtime.step event = some next) :
    LatestStep runtime next (runtime.completes event) := by
  cases event with
  | enter command =>
    cases hstep
    exact .keeps (latest_same rfl) fun _ h => Or.inl h
  | check submit =>
    simp only [Runtime.step] at hstep
    split at hstep
    next =>
      cases hstep
      unfold Runtime.check
      split
      next => exact .keeps (latest_same rfl) fun _ h => Or.inl h
      next => exact .keeps (latest_same rfl) fun _ h => Or.inl h
    next => cases hstep
  | measure submit =>
    simp only [Runtime.step] at hstep
    split at hstep
    next =>
      cases hstep
      exact .keeps (latest_same rfl) fun _ h => Or.inl h
    next => cases hstep
  | reserve submit =>
    simp only [Runtime.step] at hstep
    split at hstep
    next command measured _ =>
      cases hstep
      have hlatest : (runtime.shared.reserve command measured).2.latest = runtime.shared.latest :=
        latest_reserve command measured
      unfold Runtime.reserve
      split
      next hreserve =>
        rw [hreserve] at hlatest
        exact .keeps (latest_same hlatest) fun _ h => Or.inl h
      next hreserve =>
        rw [hreserve] at hlatest
        exact .keeps (latest_same hlatest) fun _ h => Or.inl h
    next => cases hstep
  | prepare submit =>
    simp only [Runtime.step] at hstep
    split at hstep
    next =>
      cases hstep
      exact .keeps (latest_same rfl) fun _ h => Or.inl h
    next => cases hstep
  | enqueue submit =>
    simp only [Runtime.step] at hstep
    split at hstep
    next command slotIndex terminal prepared _ =>
      cases hstep
      exact .keeps (latest_enqueue slotIndex terminal prepared command) fun _ h => Or.inl h
    next => cases hstep
  | rollback submit =>
    simp only [Runtime.step] at hstep
    split at hstep
    next command slotIndex error _ =>
      cases hstep
      exact .keeps (latest_same (latest_rollbackPreparation slotIndex)) fun _ h => Or.inl h
    next => cases hstep
  | takeNext =>
    cases hstep
    have hlatest : runtime.shared.latest.Keeps runtime.shared.takeNext.2.latest := latest_takeNext
    unfold Runtime.takeNext
    split
    next htake =>
      rw [htake] at hlatest
      refine .keeps hlatest ?_
      intro command hcommand
      rcases List.mem_append.mp hcommand with hold | hnew
      · exact Or.inl hold
      · rw [List.mem_singleton.mp hnew]
        exact Or.inr fun _ _ => trivial
    next htake =>
      rw [htake] at hlatest
      exact .keeps hlatest fun _ h => Or.inl h
  | append inFlight identity =>
    simp only [Runtime.step] at hstep
    split at hstep
    next =>
      cases hstep
      refine .keeps (latest_same rfl) ?_
      intro command hcommand
      rcases List.mem_or_eq_of_mem_set hcommand with hold | hnew
      · exact Or.inl hold
      · rw [hnew]
        exact Or.inr fun _ _ => trivial
    next => cases hstep
  | publish inFlight =>
    simp only [Runtime.step] at hstep
    split at hstep
    next slotIndex admission append _ =>
      cases hstep
      unfold Runtime.publish IngressState.preparePublication
      split
      next preparation shared hprepare =>
        split at hprepare
        next =>
          split at hprepare
          next =>
            split at hprepare
            next plan hplan =>
              cases hprepare
              exact .prepares inFlight slotIndex admission append plan hplan rfl rfl
            next => cases hprepare
          next => cases hprepare
        next => cases hprepare
      next shared hprepare =>
        have hshared : shared = runtime.shared := by
          split at hprepare
          next =>
            split at hprepare
            next =>
              split at hprepare
              next => cases hprepare
              next =>
                cases hprepare
                rfl
            next =>
              cases hprepare
              rfl
          next =>
            cases hprepare
            rfl
        rw [hshared]
        exact .keeps (latest_stopAll _ rfl) fun _ h => Or.inl (List.mem_of_mem_eraseIdx h)
    next => cases hstep
  | completeHandled inFlight =>
    simp only [Runtime.step] at hstep
    split at hstep
    next slotIndex admission append preparation hready =>
      cases hstep
      have hcompletes : runtime.completes (.completeHandled inFlight) =
          if (runtime.shared.completeHandled slotIndex admission append preparation).1
          then some admission else none := by simp only [completes, hready]
      rw [hcompletes]
      have herased : ∀ command ∈ runtime.writer.eraseIdx inFlight, command ∈ runtime.writer :=
        fun _ h => List.mem_of_mem_eraseIdx h
      unfold IngressState.completeHandled
      split
      next => exact .keeps (latest_stopAll _ rfl) fun _ h => Or.inl (herased _ h)
      next slot _ =>
        split
        next => exact .keeps (latest_stopAll _ rfl) fun _ h => Or.inl (herased _ h)
        next hvalid =>
          simp only [not_or, not_not] at hvalid
          dsimp only
          split
          next =>
            change LatestStep _ _ (some admission)
            exact .commits slotIndex admission append preparation
              (List.mem_of_getElem? hready) hvalid.2 rfl herased
          next =>
            change LatestStep _ _ none
            refine .keeps (latest_stopAll _ ?_) fun _ h => Or.inl (herased _ h)
            cases preparation <;> rfl
    next => cases hstep
  | drop inFlight =>
    simp only [Runtime.step] at hstep
    split at hstep
    next =>
      cases hstep
      exact .keeps (latest_stopAll _ rfl) fun _ h => Or.inl (List.mem_of_mem_eraseIdx h)
    next => cases hstep
  | completeDurableBatch entries committed retry =>
    cases hstep
    exact .keeps (latest_completeDurableBatch entries committed retry) fun _ h => Or.inl h
  | closeAdmission =>
    cases hstep
    exact .keeps (latest_same rfl) fun _ h => Or.inl h
  | stop =>
    cases hstep
    exact .keeps (latest_stopAll _ rfl) fun _ h => Or.inl h

/-- A command stays ready while the latest observations keep what they show. -/
theorem prepared_keeps {heap : Nat → List PublishedObservation} {latest next : LatestState}
    (h : latest.Keeps next) {command : InFlightCommand} (hready : command.Prepared heap latest) :
    command.Prepared heap next := by
  cases command with
  | taken slotIndex prepared => trivial
  | appended slotIndex admission append => trivial
  | published slotIndex admission append preparation =>
    cases preparation with
    | noChange =>
      intro current hcurrent
      rcases h.2 with hsame | hnone
      · rw [hsame] at hcurrent
        exact hready current hcurrent
      · rw [hnone] at hcurrent
        cases hcurrent
    | advance base later =>
      obtain ⟨hbase, hlater, hpublishes⟩ := hready
      refine ⟨⟨?_, hbase.2⟩, ⟨?_, hlater.2⟩, hpublishes⟩
      · rw [h.1]
        exact hbase.1
      · rw [h.1]
        exact hlater.1

/-- What is published is what the handled admissions make of nothing. -/
structure Publishing (storeId : StoreId) (admissions : List CanonicalAdmission)
    (heap : Nat → List PublishedObservation) (runtime : Runtime) : Prop where
  published : ∀ current, runtime.shared.latest.current = some current →
    runtime.shared.latest.Located heap current ∧
    ∃ latest later, (LatestState.new storeId).handleAll admissions = some latest ∧
      latest.current = some later ∧ later.entries = current.entries
  ready : ∀ command ∈ runtime.writer, command.Prepared heap runtime.shared.latest

variable {storeId : StoreId} {admissions : List CanonicalAdmission}
  {heap : Nat → List PublishedObservation} {runtime next : Runtime}

/-- A new array changes none of the others. -/
theorem located_update {latest : LatestState} {snapshot : LatestSnapshot}
    (h : latest.Located heap snapshot) (entries : List PublishedObservation) :
    LatestState.Located (Function.update heap latest.allocations entries)
      { latest with allocations := latest.allocations + 1 } snapshot := by
  refine ⟨Nat.lt_succ_of_lt h.1, ?_⟩
  rw [Function.update_of_ne (Nat.ne_of_lt h.1)]
  exact h.2

theorem prepared_update {latest : LatestState} {command : InFlightCommand}
    (h : command.Prepared heap latest) (entries : List PublishedObservation) :
    command.Prepared (Function.update heap latest.allocations entries)
      { latest with allocations := latest.allocations + 1 } := by
  cases command with
  | taken slotIndex prepared => trivial
  | appended slotIndex admission append => trivial
  | published slotIndex admission append preparation =>
    cases preparation with
    | noChange => exact h
    | advance base later =>
      obtain ⟨hbase, hlater, hpublishes⟩ := h
      exact ⟨located_update hbase entries, located_update hlater entries, hpublishes⟩

theorem Publishing.keeps (h : runtime.Publishing storeId admissions heap)
    (latest : runtime.shared.latest.Keeps next.shared.latest)
    (writer : ∀ command ∈ next.writer, command ∈ runtime.writer ∨
      ∀ heap latest, command.Prepared heap latest) :
    next.Publishing storeId admissions heap := by
  refine ⟨?_, ?_⟩
  · intro current hcurrent
    rcases latest.2 with hsame | hnone
    · rw [hsame] at hcurrent
      obtain ⟨hlocated, hfold⟩ := h.published current hcurrent
      refine ⟨⟨?_, hlocated.2⟩, hfold⟩
      rw [latest.1]
      exact hlocated.1
    · rw [hnone] at hcurrent
      cases hcurrent
  · intro command hcommand
    rcases writer command hcommand with hold | hfree
    · exact prepared_keeps latest (h.ready command hold)
    · exact hfree heap next.shared.latest

/-- A publication is prepared against the entries that are current. -/
theorem Publishing.prepares (h : runtime.Publishing storeId admissions heap)
    {inFlight slotIndex : Nat} {admission : CanonicalAdmission} {append : AppendIdentity}
    {plan : PublicationPlan}
    (hplan : runtime.shared.latest.plan (candidateOf admission) = some plan)
    (latest : next.shared.latest = (runtime.shared.latest.stage plan).2)
    (writer : next.writer = runtime.writer.set inFlight
      (.published slotIndex admission append (runtime.shared.latest.stage plan).1)) :
    ∃ heap, next.Publishing storeId admissions heap := by
  obtain ⟨-, current, hcurrent, hplans⟩ := LatestState.plan_plans hplan
  obtain ⟨hstage, hshown⟩ | ⟨entries, hstage, hpublishes⟩ := LatestState.stage_plans hplans
  · rw [hstage] at latest writer
    refine ⟨heap, ?_, ?_⟩
    · rw [latest]
      exact h.published
    · intro command hcommand
      rw [writer] at hcommand
      rw [latest]
      rcases List.mem_or_eq_of_mem_set hcommand with hold | hnew
      · exact h.ready command hold
      · rw [hnew]
        intro found hfound
        rw [hcurrent, Option.some.injEq] at hfound
        rw [← hfound]
        exact hshown
  · rw [hstage] at latest writer
    refine ⟨Function.update heap runtime.shared.latest.allocations entries, ?_, ?_⟩
    · intro found hfound
      rw [latest] at hfound ⊢
      obtain ⟨hlocated, hfold⟩ := h.published found hfound
      exact ⟨located_update hlocated entries, hfold⟩
    · intro command hcommand
      rw [writer] at hcommand
      rw [latest]
      rcases List.mem_or_eq_of_mem_set hcommand with hold | hnew
      · exact prepared_update (h.ready command hold) entries
      · rw [hnew]
        refine ⟨located_update (h.published current hcurrent).1 entries,
          ⟨Nat.lt_succ_self _, ?_⟩, hpublishes⟩
        rw [Function.update_self]

/-- The fold handles the admission that completes. -/
theorem handleAll_snoc {latest : LatestState} {later : LatestSnapshot}
    {admission : CanonicalAdmission} {entries : List PublishedObservation}
    (hfold : (LatestState.new storeId).handleAll admissions = some latest)
    (hlater : latest.current = some later)
    (hpublishes : Publishes later.entries (candidateOf admission) entries) :
    ∃ latest later, (LatestState.new storeId).handleAll (admissions ++ [admission]) = some latest ∧
      latest.current = some later ∧ later.entries = entries := by
  obtain ⟨hopen, last, hlast, -, -, hgreatest⟩ := LatestState.handleAll_new hfold
  rw [hlater, Option.some.injEq] at hlast
  rw [← hlast] at hgreatest
  obtain ⟨next, final, hhandle, hfinal, hentries⟩ :=
    LatestState.handle_of_publishes hlater hopen hgreatest.distinct hpublishes
  refine ⟨next, final, ?_, hfinal, hentries⟩
  rw [LatestState.handleAll_append, hfold]
  change (latest.handle admission).bind _ = some next
  rw [hhandle]
  rfl

/-- A publication completes against the entries that it was prepared for. -/
theorem Publishing.commits (h : runtime.Publishing storeId admissions heap) {slotIndex : Nat}
    {admission : CanonicalAdmission} {append : AppendIdentity} {preparation : PreparedPublication}
    (hready : InFlightCommand.published slotIndex admission append preparation ∈ runtime.writer)
    (hcan : runtime.shared.latest.canComplete preparation = true)
    (latest : next.shared.latest = runtime.shared.latest.commit preparation)
    (writer : ∀ command ∈ next.writer, command ∈ runtime.writer) :
    next.Publishing storeId (admissions ++ [admission]) heap := by
  have hprepared := h.ready _ hready
  cases preparation with
  | noChange =>
    have latest : next.shared.latest = runtime.shared.latest := latest
    refine ⟨?_, ?_⟩
    · intro current hcurrent
      rw [latest] at hcurrent ⊢
      obtain ⟨hlocated, fold, later, hfold, hlater, hentries⟩ := h.published current hcurrent
      refine ⟨hlocated, handleAll_snoc hfold hlater ?_⟩
      rw [hentries]
      exact .unchanged (hprepared current hcurrent)
    · intro command hcommand
      rw [latest]
      exact h.ready command (writer command hcommand)
  | advance base following =>
    obtain ⟨hbase, hfollowing, hpublishes⟩ := hprepared
    obtain ⟨current, hcurrent, hshares⟩ : ∃ current, runtime.shared.latest.current = some current ∧
        current.sharesEntriesWith base = true := by
      unfold LatestState.canComplete at hcan
      split at hcan
      next current _ hcurrent => exact ⟨current, hcurrent, hcan⟩
      next => cases hcan
    have hallocation : current.allocation = base.allocation := (of_decide_eq_true hshares).2
    obtain ⟨hlocated, fold, later, hfold, hlater, hentries⟩ := h.published current hcurrent
    have hsame : current.entries = base.entries := by
      rw [hlocated.2, hbase.2, hallocation]
    rw [← hsame] at hpublishes
    have latest : next.shared.latest = { runtime.shared.latest with current := some following } :=
      latest
    refine ⟨?_, ?_⟩
    · intro found hfound
      rw [latest] at hfound ⊢
      rw [← Option.some.inj hfound]
      refine ⟨hfollowing, handleAll_snoc hfold hlater ?_⟩
      rw [hentries]
      exact hpublishes
    · intro command hcommand
      rw [latest]
      have hcommand := h.ready command (writer command hcommand)
      cases command with
      | taken slotIndex prepared => trivial
      | appended slotIndex admission append => trivial
      | published slotIndex other append preparation =>
        cases preparation with
        | noChange =>
          intro found hfound new hnew
          rw [← Option.some.inj hfound]
          exact hpublishes.shows (hcommand current hcurrent new hnew)
        | advance base' next' => exact hcommand

theorem Publishing.step (h : runtime.Publishing storeId admissions heap) {event : RuntimeEvent}
    (hstep : runtime.step event = some next) :
    ∃ heap, next.Publishing storeId (admissions ++ (runtime.completes event).toList) heap := by
  have hlatest := step_latest hstep
  generalize runtime.completes event = completed at hlatest ⊢
  cases hlatest with
  | keeps latest writer =>
    rw [Option.toList_none, List.append_nil]
    exact ⟨heap, h.keeps latest writer⟩
  | prepares inFlight slotIndex admission append plan hplan latest writer =>
    rw [Option.toList_none, List.append_nil]
    exact h.prepares hplan latest writer
  | commits slotIndex admission append preparation hready hcan latest writer =>
    exact ⟨heap, h.commits hready hcan latest writer⟩

theorem Publishing.run {events : List RuntimeEvent} {final : Runtime}
    (h : runtime.Publishing storeId admissions heap) (hrun : runtime.run events = some final) :
    ∃ heap, final.Publishing storeId (admissions ++ runtime.handled events) heap := by
  induction events generalizing runtime admissions heap with
  | nil =>
    cases hrun
    rw [handled, List.append_nil]
    exact ⟨heap, h⟩
  | cons event rest ih =>
    simp only [Runtime.run] at hrun
    split at hrun
    next next hstep =>
      obtain ⟨heap, hnext⟩ := h.step hstep
      have hhandled : runtime.handled (event :: rest) =
          (runtime.completes event).toList ++ next.handled rest := by
        rw [handled, hstep]
      rw [hhandled, ← List.append_assoc]
      exact ih hnext hrun
    next => cases hrun

end Runtime

/-- Handling any sequence of admissions without a fault publishes, for each series that had a
position, the observation with the greatest one, whatever the order was; a fault changes
nothing. In every run of the runtime what is published is what the handled admissions make. -/
theorem latest_greatest_positions :
    (∀ (storeId : StoreId) (admissions : List CanonicalAdmission) (latest : LatestState),
      (LatestState.new storeId).handleAll admissions = some latest →
      (∃ snapshot, latest.current = some snapshot ∧ snapshot.storeId = storeId ∧
        GreatestPositions admissions snapshot.entries) ∧
      ∀ (others : List CanonicalAdmission) (final : LatestState), admissions.Perm others →
        (LatestState.new storeId).handleAll others = some final →
        ∃ snapshot last, latest.current = some snapshot ∧ final.current = some last ∧
          snapshot.entries.Perm last.entries) ∧
    (∀ (state : IngressState) (slotIndex : Nat) (admission : CanonicalAdmission),
      (state.preparePublication slotIndex admission).1 = none →
        (state.preparePublication slotIndex admission).2 = state) ∧
    ∀ (retry : RetryStateSnapshot) (start runtime : Runtime) (events : List RuntimeEvent)
      (snapshot : LatestSnapshot), start.Opened retry → start.run events = some runtime →
      runtime.shared.latest.current = some snapshot →
      GreatestPositions (start.handled events) snapshot.entries ∧
      ∃ latest last,
        (LatestState.new start.shared.storeId).handleAll (start.handled events) = some latest ∧
        latest.current = some last ∧ last.entries = snapshot.entries := by
  refine ⟨?_, ?_, ?_⟩
  · intro storeId admissions latest hfold
    obtain ⟨-, snapshot, hcurrent, hstore, hle, hgreatest⟩ := LatestState.handleAll_new hfold
    refine ⟨⟨snapshot, hcurrent, hstore, GreatestPositions.of_greatest hgreatest hle⟩, ?_⟩
    intro others final hperm hothers
    obtain ⟨-, last, hlast, -, -, hgreatest'⟩ := LatestState.handleAll_new hothers
    refine ⟨snapshot, last, hcurrent, hlast, ?_⟩
    refine hgreatest.perm PublishedObservation.Below.asymm hgreatest' ?_
    intro published
    exact (hperm.filterMap candidateOf).mem_iff
  · intro state slotIndex admission hfault
    unfold preparePublication at hfault ⊢
    split
    next slot hslot =>
      rw [hslot] at hfault
      dsimp only at hfault
      split
      next hphase =>
        rw [if_pos hphase] at hfault
        split
        next plan hplan =>
          rw [hplan] at hfault
          cases hfault
        next => rfl
      next => rfl
    next => rfl
  · intro retry start runtime events snapshot hopened hrun hcurrent
    obtain ⟨storeId, byteLimits, hinstall, -, hwriter, -⟩ := hopened
    have hshared : start.shared.latest = .new start.shared.storeId := by
      unfold installOpenedRetry at hinstall
      split at hinstall
      next => cases hinstall
      next =>
        rw [← Option.some.inj hinstall]
        rfl
    have hstart : start.Publishing start.shared.storeId [] fun _ => [] := by
      refine ⟨?_, ?_⟩
      · intro current hcurrent
        rw [hshared] at hcurrent ⊢
        rw [← Option.some.inj hcurrent]
        exact ⟨⟨Nat.zero_lt_one, rfl⟩, _, _, rfl, rfl, rfl⟩
      · intro command hcommand
        rw [hwriter] at hcommand
        cases hcommand
    obtain ⟨heap, hfinal⟩ := hstart.run hrun
    rw [List.nil_append] at hfinal
    obtain ⟨-, latest, last, hfold, hlast, hentries⟩ := hfinal.published snapshot hcurrent
    refine ⟨?_, latest, last, hfold, hlast, hentries⟩
    obtain ⟨-, found, hfound, -, hle, hgreatest⟩ := LatestState.handleAll_new hfold
    rw [hlast, Option.some.injEq] at hfound
    rw [← hfound, hentries] at hle hgreatest
    exact GreatestPositions.of_greatest hgreatest hle

/-- The sample admission with a position. -/
def samplePositioned (position : ProducerPosition)
    (h : validateObserved .sampled
      [{ sampleObservation with producerPosition := some position }] [] = .ok ()) :
    CanonicalAdmission :=
  { sampleAdmission with envelope := ⟨sampleEnvelope.series,
      .observed [{ sampleObservation with producerPosition := some position }] [], h⟩ }

def sampleHandled : List CanonicalAdmission :=
  [samplePositioned ⟨1, 5⟩ (by decide +kernel), samplePositioned ⟨1, 3⟩ (by decide +kernel),
    samplePositioned ⟨1, 8⟩ (by decide +kernel), sampleAdmission]

/-- The positions come out of order, and the greatest of them is published in either order. -/
theorem latest_greatest_positions_sample :
    ∃ latest snapshot final last,
      (LatestState.new (sampleIdentity 1)).handleAll sampleHandled = some latest ∧
      (LatestState.new (sampleIdentity 1)).handleAll sampleHandled.reverse = some final ∧
      latest.current = some snapshot ∧ final.current = some last ∧
      snapshot.entries.map (·.position) = [⟨1, 8⟩] ∧ snapshot.entries.Perm last.entries ∧
      GreatestPositions sampleHandled snapshot.entries := by
  have hreached : ((LatestState.new (sampleIdentity 1)).handleAll sampleHandled).any
      (fun latest => latest.current.any (fun snapshot =>
        snapshot.entries.map (·.position) = [⟨1, 8⟩])) = true := by decide +kernel
  have hagain : ((LatestState.new (sampleIdentity 1)).handleAll sampleHandled.reverse).isSome =
      true := by decide +kernel
  obtain ⟨latest, hlatest, hreached⟩ := (Option.any_eq_true _ _).mp hreached
  obtain ⟨shown, hshown, hreached⟩ := (Option.any_eq_true _ _).mp hreached
  obtain ⟨final, hfinal⟩ := Option.isSome_iff_exists.mp hagain
  obtain ⟨⟨snapshot, hsnapshot, -, hgreatest⟩, hperm⟩ :=
    latest_greatest_positions.1 (sampleIdentity 1) sampleHandled latest hlatest
  obtain ⟨first, last, hfirst, hlast, hsame⟩ :=
    hperm sampleHandled.reverse final (List.reverse_perm _).symm hfinal
  rw [hsnapshot, Option.some.injEq] at hshown hfirst
  rw [← hshown] at hreached
  rw [← hfirst] at hsame
  exact ⟨latest, snapshot, final, last, hlatest, hfinal, hsnapshot, hlast,
    of_decide_eq_true hreached, hsame, hgreatest⟩

end Historian
