import Historian.MachineScan

namespace Historian.MachineSegment

open Wire Checks Machine MachineFrame

section Groups

variable {κ α β : Type} [DecidableEq κ] {related : α → β → Prop}

/-- Groups of the same keys whose members are related one by one. -/
def GroupsRelated (related : α → β → Prop) : List (κ × List α) → List (κ × List β) → Prop :=
  List.Forall₂ fun left right => left.1 = right.1 ∧ List.Forall₂ related left.2 right.2

theorem forall₂_snoc {left : List α} {right : List β} {x : α} {y : β}
    (h : List.Forall₂ related left right) (hxy : related x y) :
    List.Forall₂ related (left ++ [x]) (right ++ [y]) := by
  induction h with
  | nil => exact .cons hxy .nil
  | cons hhead _ ih => exact .cons hhead ih

theorem GroupsRelated.get? {left : List (κ × List α)} {right : List (κ × List β)}
    (h : GroupsRelated related left right) (key : κ) :
    (SortedMap.get? key left).isSome = (SortedMap.get? key right).isSome := by
  induction h with
  | nil => rfl
  | @cons a b _ _ hab _ ih =>
    obtain ⟨ka, va⟩ := a
    obtain ⟨kb, vb⟩ := b
    obtain rfl : ka = kb := hab.1
    simp only [SortedMap.get?]
    split
    next => rfl
    next => exact ih

theorem GroupsRelated.modify {left : List (κ × List α)} {right : List (κ × List β)}
    (h : GroupsRelated related left right) (key : κ) {x : α} {y : β} (hxy : related x y) :
    GroupsRelated related (SortedMap.modify key (· ++ [x]) left)
      (SortedMap.modify key (· ++ [y]) right) := by
  induction h with
  | nil => exact .nil
  | @cons a b _ _ hab hrest ih =>
    obtain ⟨ka, va⟩ := a
    obtain ⟨kb, vb⟩ := b
    obtain rfl : ka = kb := hab.1
    simp only [SortedMap.modify]
    split
    next => exact .cons ⟨rfl, forall₂_snoc hab.2 hxy⟩ hrest
    next => exact .cons hab ih

theorem GroupsRelated.insert {left : List (κ × List α)} {right : List (κ × List β)}
    (h : GroupsRelated related left right) (lt : κ → κ → Bool) (key : κ) {x : α} {y : β}
    (hxy : related x y) : GroupsRelated related (SortedMap.insert lt key [x] left)
      (SortedMap.insert lt key [y] right) := by
  have hnew : List.Forall₂ related [x] [y] := .cons hxy .nil
  induction h with
  | nil => exact .cons ⟨rfl, hnew⟩ .nil
  | @cons a b _ _ hab hrest ih =>
    obtain ⟨ka, va⟩ := a
    obtain ⟨kb, vb⟩ := b
    obtain rfl : ka = kb := hab.1
    simp only [SortedMap.insert]
    split
    next => exact .cons ⟨rfl, hnew⟩ hrest
    next =>
      split
      next => exact .cons ⟨rfl, hnew⟩ (.cons hab hrest)
      next => exact .cons hab ih

end Groups

/-- The frame at an index of the placed frames lies whole in the source. -/
structure Held (source : Bytes) (placed : List PlacedFrame) (sourceIndex : Nat)
    (frame : SourceFrame) : Prop where
  found : ∃ offset, placed[sourceIndex]? = some (placedFrame offset frame) ∧
    offset + frame.bytes.length ≤ source.length ∧
    slice source offset frame.bytes.length = frame.bytes

theorem pushIndex_related {source : Bytes} {placed : List PlacedFrame}
    {indices : List (SeriesId × List Nat)} {grouped : List (SeriesId × List SourceFrame)}
    (h : GroupsRelated (Held source placed) indices grouped) {offset sourceIndex : Nat}
    {frame : SourceFrame} (hheld : Held source placed sourceIndex frame) :
    GroupsRelated (Held source placed) (pushIndex indices (placedFrame offset frame, sourceIndex))
      (pushFrame grouped frame) := by
  have hfound := h.get? frame.seriesId
  unfold pushIndex pushFrame
  dsimp only [placedFrame]
  cases hleft : SortedMap.get? frame.seriesId indices with
  | none =>
    rw [hleft] at hfound
    cases hright : SortedMap.get? frame.seriesId grouped with
    | none => exact h.insert _ _ hheld
    | some _ => rw [hright] at hfound; cases hfound
  | some _ =>
    rw [hleft] at hfound
    cases hright : SortedMap.get? frame.seriesId grouped with
    | none => rw [hright] at hfound; cases hfound
    | some _ => exact h.modify _ hheld

/-- The groups of the indices hold the frames that the groups of the frames list. -/
theorem groupIndices_related {source header : Bytes} {frames : List SourceFrame}
    (hsource : source = header ++ framesBytes frames) :
    GroupsRelated (Held source (placeFrames header.length frames))
      (groupIndices (placeFrames header.length frames)) (groupFrames frames) := by
  have hfold : ∀ (before : List PlacedFrame) (passed : Bytes) (rest : List SourceFrame)
      (indices : List (SeriesId × List Nat)) (grouped : List (SeriesId × List SourceFrame)),
      placeFrames header.length frames = before ++ placeFrames passed.length rest →
      source = passed ++ framesBytes rest →
      GroupsRelated (Held source (placeFrames header.length frames)) indices grouped →
      GroupsRelated (Held source (placeFrames header.length frames))
        ((placeFrames passed.length rest).zipIdx before.length |>.foldl pushIndex indices)
        (rest.foldl pushFrame grouped) := by
    intro before passed rest
    induction rest generalizing before passed with
    | nil =>
      intro indices grouped _ _ hrelated
      exact hrelated
    | cons frame rest ih =>
      intro indices grouped hplaced hbytes hrelated
      rw [framesBytes_cons] at hbytes
      simp only [placeFrames, List.zipIdx_cons, List.foldl_cons]
      have hheld : Held source (placeFrames header.length frames) before.length frame := by
        refine ⟨passed.length, ?_, ?_, ?_⟩
        · rw [hplaced, List.getElem?_append_right (Nat.le_refl _), Nat.sub_self]
          rfl
        · rw [hbytes]
          simp only [List.length_append]
          omega
        · rw [hbytes, slice_append rfl rfl]
      have hnext : (passed ++ frame.bytes).length = passed.length + frame.bytes.length :=
        List.length_append
      have hbefore : (before ++ [placedFrame passed.length frame]).length = before.length + 1 :=
        List.length_append
      rw [← hnext, ← hbefore]
      refine ih _ _ _ _ ?_ ?_ (pushIndex_related hrelated hheld)
      · rw [hplaced, hnext]
        simp [placeFrames]
      · rw [hbytes, List.append_assoc]
  exact hfold [] header frames [] [] rfl hsource .nil

theorem GroupsRelated.length_eq {κ α β : Type} {related : α → β → Prop}
    {left : List (κ × List α)} {right : List (κ × List β)}
    (h : GroupsRelated related left right) : left.length = right.length := List.Forall₂.length_eq h

end Historian.MachineSegment
