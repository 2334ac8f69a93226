import Historian.StorePlans
import Historian.StoreRun

namespace Historian

open Wire Checks Files

/-- The file has the length and the checksum that a reference gives for it. -/
def Described (d : StoreDirectory) (name : Artifact) (length : Nat) (checksum : U32) : Prop :=
  ∃ bytes, d.lookup name = some bytes ∧ bytes.length = length ∧ crc32c bytes = checksum

/-- Every file that a root refers to is there as the root describes it. A recovery report has one
length only. -/
structure ManifestRecord.Held (root : ManifestRecord) (d : StoreDirectory) : Prop where
  registry : Described d (.registry root.registry.slot) root.registry.length.val
    root.registry.checksum
  retry : Described d (.retry root.retry.state.slot) root.retry.length.val root.retry.checksum
  catalog : ∀ reference ∈ root.catalog,
    Described d (.catalog reference.slot) reference.length.val reference.checksum
  recovery : ∀ reference ∈ root.recovery,
    Described d (.recovery reference.slot) recoveryStateLen reference.checksum

/-- The names of the files that a root refers to. -/
def ManifestRecord.Refers (root : ManifestRecord) : Artifact → Prop
  | .registry slot => slot = root.registry.slot
  | .retry slot => slot = root.retry.state.slot
  | .catalog slot => ∃ reference ∈ root.catalog, slot = reference.slot
  | .recovery slot => ∃ reference ∈ root.recovery, slot = reference.slot
  | _ => False

/-- The names that the selection of a root and its files depend on. -/
def ManifestRecord.Names (root : ManifestRecord) (name : Artifact) : Prop :=
  root.Refers name ∨ ∃ slot, name = .manifest slot

/-- The manifests of a directory, the one that is selected, and its files. -/
structure RootedAt (storeId : StoreId) (slots : ManifestSlots) (slot : Fin 2)
    (root : ManifestRecord) (d : StoreDirectory) : Prop where
  on : slots.On storeId d
  selects : slots.Selects slot root
  held : root.Held d

/-- The root that an open of the directory selects has all of its files. -/
def Intact (storeId : StoreId) (root : ManifestRecord) (d : StoreDirectory) : Prop :=
  ∃ slots slot, RootedAt storeId slots slot root d

/-- The root of before is still the selected one, or its successor is. -/
def Kept (storeId : StoreId) (before : ManifestRecord) (d : StoreDirectory) : Prop :=
  ∃ root, Intact storeId root d ∧ (root = before ∨ RootProgresses before root)

theorem Described.same {d d' : StoreDirectory} {name : Artifact} {length : Nat} {checksum : U32}
    (h : Described d name length checksum) (hsame : d'.lookup name = d.lookup name) :
    Described d' name length checksum := by
  obtain ⟨bytes, hlookup, hlength, hchecksum⟩ := h
  exact ⟨bytes, hsame.trans hlookup, hlength, hchecksum⟩

section Roots

variable {storeId : StoreId} {slots : ManifestSlots} {slot : Fin 2} {root before : ManifestRecord}
  {d d' : StoreDirectory}

theorem ManifestRecord.Held.same (h : root.Held d)
    (hsame : ∀ name, root.Refers name → d'.lookup name = d.lookup name) : root.Held d' := by
  refine ⟨h.registry.same (hsame _ rfl), h.retry.same (hsame _ rfl), ?_, ?_⟩
  · intro reference hreference
    exact (h.catalog reference hreference).same (hsame _ ⟨reference, hreference, rfl⟩)
  · intro reference hreference
    exact (h.recovery reference hreference).same (hsame _ ⟨reference, hreference, rfl⟩)

theorem ManifestSlots.On.same (h : slots.On storeId d)
    (hsame : ∀ slot, d'.lookup (.manifest slot) = d.lookup (.manifest slot)) :
    slots.On storeId d' := by
  refine ⟨?_, ?_⟩
  · intro slot record hrecord
    obtain ⟨hvalid, hlookup⟩ := h.present slot record hrecord
    exact ⟨hvalid, (hsame slot).trans hlookup⟩
  · intro slot hnone
    exact (hsame slot).trans (h.absent slot hnone)

/-- A root stays where the names are left alone that it depends on. -/
theorem RootedAt.same (h : RootedAt storeId slots slot root d)
    (hsame : ∀ name, root.Names name → d'.lookup name = d.lookup name) :
    RootedAt storeId slots slot root d' :=
  ⟨h.on.same fun slot => hsame _ (Or.inr ⟨slot, rfl⟩), h.selects,
    h.held.same fun name hname => hsame name (Or.inl hname)⟩

theorem RootedAt.kept (h : RootedAt storeId slots slot root d) : Kept storeId root d :=
  ⟨root, ⟨slots, slot, h⟩, Or.inl rfl⟩

theorem RootedAt.keptBehind (h : RootedAt storeId slots slot root d)
    (hprogress : RootProgresses before root) : Kept storeId before d :=
  ⟨root, ⟨slots, slot, h⟩, Or.inr hprogress⟩

theorem RootedAt.valid (h : RootedAt storeId slots slot root d) : root.Valid storeId :=
  (h.on.present slot root h.selects.chosen).1

theorem RootedAt.mem (h : RootedAt storeId slots slot root d) : root ∈ slots.retained :=
  ManifestSlots.mem_retained.mpr ⟨slot, h.selects.chosen⟩

/-- A part of a method that leaves the root's names alone leaves the root in its place. -/
theorem RootedAt.ensures {ε α : Type} {a : Action Artifact Bytes ε α} {P : StoreDirectory → Prop}
    (h : RootedAt storeId slots slot root d) (havoids : a.Avoids root.Names)
    (hP : ∀ d', RootedAt storeId slots slot root d' → P d') :
    Action.Ensures P a (fun _ d' => RootedAt storeId slots slot root d') d := by
  have hsame : ∀ d', (∀ name, root.Names name → d'.lookup name = d.lookup name) → P d' :=
    fun d' hnames => hP d' (h.same hnames)
  exact (havoids.ensures hsame).mono fun _ d' hnames => h.same hnames

end Roots

/-- The directory behind the publication of a file through its staging name. -/
def published (d : StoreDirectory) (staging target : Artifact) (bytes : Bytes) : StoreDirectory :=
  Effect.apply (Effect.apply d (.put staging bytes)) (.rename staging target)

theorem lookup_staged (d : StoreDirectory) (staging : Artifact) (bytes : Bytes) :
    (Effect.apply d (.put staging bytes)).lookup staging = some bytes := by
  rw [lookup_put, if_pos rfl]

theorem lookup_published {d : StoreDirectory} {staging target : Artifact} {bytes : Bytes}
    (other : Artifact) : (published d staging target bytes).lookup other =
      if other = target then some bytes
      else if other = staging then none else d.lookup other := by
  rw [published, lookup_rename (lookup_staged d staging bytes)]
  split
  next => rfl
  next =>
    split
    next => rfl
    next hne => rw [lookup_put, if_neg hne]

theorem readRequiredBounded_staged {d : StoreDirectory} {staging : Artifact} {bytes : Bytes}
    {maximum : Nat} (hne : bytes ≠ []) (hlen : bytes.length ≤ maximum) :
    readRequiredBounded (Effect.apply d (.put staging bytes)) staging maximum = .ok bytes :=
  readRequiredBounded_ok.mpr ⟨lookup_staged d staging bytes, hne, hlen⟩

/-- A publication succeeds when its bytes fit, nothing is staged and its check accepts. -/
theorem publishReusableSlot_ok {d : StoreDirectory} {staging target : Artifact} {bytes : Bytes}
    {maximum : Nat} {verify : Bytes → Except ManifestStoreError Unit}
    {effects : List StoreEffect} :
    publishReusableSlot staging target bytes maximum verify d = (.ok (), effects) ↔
      bytes ≠ [] ∧ bytes.length ≤ maximum ∧ d.lookup staging = none ∧ verify bytes = .ok () ∧
        effects = [.put staging bytes, .rename staging target] := by
  unfold publishReusableSlot
  simp only [run_ensure_bind_ok, run_look_bind_ok, exists_unit, refuse_ok, not_or, Nat.not_lt,
    present, Option.isSome_iff_ne_none, ne_eq, not_not]
  rw [run_emit_bind]
  constructor
  · intro h
    obtain ⟨⟨hne, hlen⟩, hstaging, h⟩ := h
    obtain ⟨hresult, heffects⟩ := Prod.mk.inj h
    rw [run_look_bind, readRequiredBounded_staged hne hlen] at hresult heffects
    dsimp only at hresult heffects
    rw [run_ensure_bind] at hresult heffects
    cases hverify : verify bytes with
    | error e =>
      rw [hverify] at hresult
      cases hresult
    | ok u =>
      rw [hverify] at heffects
      exact ⟨hne, hlen, hstaging, rfl, heffects.symm⟩
  · intro h
    obtain ⟨hne, hlen, hstaging, hverify, rfl⟩ := h
    refine ⟨⟨hne, hlen⟩, hstaging, ?_⟩
    rw [run_look_bind, readRequiredBounded_staged hne hlen]
    dsimp only
    rw [run_ensure_bind, hverify]
    rfl

theorem ensures_publishReusableSlot {P : StoreDirectory → Prop} {d : StoreDirectory}
    {staging target : Artifact} {bytes : Bytes} {maximum : Nat}
    {verify : Bytes → Except ManifestStoreError Unit} {Q : Unit → StoreDirectory → Prop}
    (hP : P d) (hstaged : P (Effect.apply d (.put staging bytes)))
    (hdone : bytes.length ≤ maximum → verify bytes = .ok () → P (published d staging target bytes))
    (hQ : bytes.length ≤ maximum → verify bytes = .ok () →
      Q () (published d staging target bytes)) :
    Action.Ensures P (publishReusableSlot staging target bytes maximum verify) Q d := by
  unfold publishReusableSlot
  apply ensures_ensure_bind hP
  intro _ hbytes
  simp only [refuse_ok, not_or, Nat.not_lt] at hbytes
  apply ensures_look_bind hP
  intro _ _
  apply ensures_emit_bind hP
  apply ensures_look_bind hstaged
  intro candidate hcandidate
  rw [readRequiredBounded_staged hbytes.1 hbytes.2, Except.ok.injEq] at hcandidate
  subst hcandidate
  apply ensures_ensure_bind hstaged
  intro _ hverify
  exact ensures_emit hstaged (hdone hbytes.2 hverify) (hQ hbytes.2 hverify)

end Historian
