import Historian.Collection

namespace Historian

open Checks

structure SourceReference where
  provider : DeclarationReference
  projection : Option SourceProjection
  locator : DeclarationReference
  deriving DecidableEq

structure SeriesBinding where
  source : SourceReference
  deriving DecidableEq

inductive ValueFamily where
  | real | signed | unsigned | boolean | state | text | artifact
  deriving DecidableEq, Repr

def ValueFamily.admits : ValueFamily → ExactValue → Bool
  | _, .unavailable _ => true
  | .real, .real _ => true
  | .signed, .signed _ => true
  | .unsigned, .unsigned _ => true
  | .boolean, .boolean _ => true
  | .state, .state _ => true
  | .text, .text _ => true
  | .artifact, .artifact _ => true
  | _, _ => false

inductive QuantityEvidence where
  | absent
  | resolved (reference : DeclarationReference)
  | unresolved (reference : DeclarationReference)
  deriving DecidableEq

inductive UnitEvidence where
  | absent
  | resolved (reference : DeclarationReference)
  | unresolved (reference : DeclarationReference)
  deriving DecidableEq

structure SeriesDeclarationPayload where
  producerId : ProducerId
  collectionMode : CollectionMode
  valueFamily : ValueFamily
  quantity : QuantityEvidence
  unit : UnitEvidence
  application : Option DeclarationReference
  deriving DecidableEq

def SeriesDeclarationPayload.seriesMetadata (payload : SeriesDeclarationPayload)
    (seriesId : SeriesId) : SeriesMetadata :=
  ⟨seriesId, payload.producerId, payload.collectionMode⟩

structure DeclarationEvidence where
  effectiveAt : Timestamp
  artifact : Option ArtifactReference
  deriving DecidableEq

/-- Revisions count from one. -/
structure DeclarationRevision where
  value : U128
  positive : 0 < value.val
  deriving DecidableEq

def DeclarationRevision.first : DeclarationRevision := ⟨1, by decide⟩

def DeclarationRevision.new (value : U128) : Except ModelError DeclarationRevision :=
  if h : 0 < value.val then .ok ⟨value, h⟩ else .error .invalidDeclarationRevision

/-- A revision stays below the registry's count, so the last 128-bit value has no successor
that anything asks for; `SeriesRegistry.Coherent` carries that bound. -/
def DeclarationRevision.next (revision : DeclarationRevision) : DeclarationRevision :=
  if h : revision.value.val + 1 < 2 ^ 128 then ⟨⟨revision.value.val + 1, h⟩, by simp⟩
  else revision

/-- The revision that a declaration with this one must name as its predecessor. -/
def DeclarationRevision.previous? (revision : DeclarationRevision) : Option DeclarationRevision :=
  if h : 1 < revision.value.val then
    some ⟨⟨revision.value.val - 1, by omega⟩, by simp only; omega⟩
  else none

structure SeriesDeclaration where
  storeId : StoreId
  seriesId : SeriesId
  revision : DeclarationRevision
  previousRevision : Option DeclarationRevision
  binding : SeriesBinding
  payload : SeriesDeclarationPayload
  evidence : DeclarationEvidence
  deriving DecidableEq

theorem DeclarationRevision.new_ok {value : U128} {revision : DeclarationRevision} :
    DeclarationRevision.new value = .ok revision ↔ value = revision.value := by
  unfold DeclarationRevision.new
  rw [dite_ok]
  constructor
  · rintro ⟨h, rfl⟩
    rfl
  · rintro rfl
    exact ⟨revision.positive, rfl⟩

theorem DeclarationRevision.ext_value {a b : DeclarationRevision}
    (h : a.value.val = b.value.val) : a = b := by
  obtain ⟨⟨a, _⟩, _⟩ := a
  obtain ⟨⟨b, _⟩, _⟩ := b
  cases h
  rfl

theorem DeclarationRevision.first_previous : DeclarationRevision.first.previous? = none := by
  decide

theorem DeclarationRevision.next_value {revision : DeclarationRevision}
    (h : revision.value.val + 1 < 2 ^ 128) :
    revision.next.value.val = revision.value.val + 1 := by
  simp only [DeclarationRevision.next, dif_pos h]

/-- A revision is the exact predecessor of the one after it. -/
theorem DeclarationRevision.next_previous {revision : DeclarationRevision}
    (h : revision.value.val + 1 < 2 ^ 128) : revision.next.previous? = some revision := by
  have hpos := revision.positive
  have hn := DeclarationRevision.next_value h
  unfold DeclarationRevision.previous?
  rw [dif_pos (by omega)]
  congr 1
  apply DeclarationRevision.ext_value
  simp only [hn]
  omega

end Historian
