import Mathlib

/-! Systems whose steps commit entries. `step state entries next` commits `entries` in this order;
a run of the system has the entries of all of its steps. -/

namespace CommitLog

variable {σ γ α : Type*} {step : σ → List α → σ → Prop}

/-- The runs from a state, with everything that they commit. -/
inductive Runs (step : σ → List α → σ → Prop) (start : σ) : List α → σ → Prop
  | refl : Runs step start [] start
  | tail {entries batch : List α} {middle next : σ} (before : Runs step start entries middle)
      (last : step middle batch next) : Runs step start (entries ++ batch) next

theorem Runs.single {start next : σ} {batch : List α} (h : step start batch next) :
    Runs step start batch next := by
  have hrun : Runs step start ([] ++ batch) next := .tail .refl h
  rwa [List.nil_append] at hrun

theorem Runs.trans {start middle next : σ} {entries more : List α}
    (hfirst : Runs step start entries middle) (hsecond : Runs step middle more next) :
    Runs step start (entries ++ more) next := by
  induction hsecond with
  | refl =>
    rw [List.append_nil]
    exact hfirst
  | tail _ last ih =>
    rw [← List.append_assoc]
    exact .tail ih last

/-- What every step keeps, every run keeps. -/
theorem Runs.invariant {I : σ → Prop} (hstep : ∀ s batch t, I s → step s batch t → I t)
    {start next : σ} {entries : List α} (h : Runs step start entries next) (hstart : I start) :
    I next := by
  induction h with
  | refl => exact hstart
  | tail _ last ih => exact hstep _ _ _ ih last

/-- A preorder that every step goes up in, every run goes up in. -/
theorem Runs.relates {R : σ → σ → Prop} (hrefl : ∀ s, R s s)
    (htrans : ∀ s t u, R s t → R t u → R s u) (hstep : ∀ s batch t, step s batch t → R s t)
    {start next : σ} {entries : List α} (h : Runs step start entries next) : R start next := by
  induction h with
  | refl => exact hrefl _
  | tail _ last ih => exact htrans _ _ _ ih (hstep _ _ _ last)

/-- When each step numbers its entries on from the position of its state, a run numbers all of its
entries without a hole. -/
theorem Runs.numbered {position : σ → ℕ} {number : α → ℕ}
    (hstep : ∀ s batch t, step s batch t →
      batch.map number = List.range' (position s + 1) batch.length ∧
        position t = position s + batch.length)
    {start next : σ} {entries : List α} (h : Runs step start entries next) :
    entries.map number = List.range' (position start + 1) entries.length ∧
      position next = position start + entries.length := by
  induction h with
  | refl => simp
  | @tail first batch middle next _ last ih =>
    obtain ⟨hfirst, hmiddle⟩ := ih
    obtain ⟨hbatch, hnext⟩ := hstep _ _ _ last
    have hfrom : position middle + 1 = position start + 1 + first.length := by omega
    refine ⟨?_, ?_⟩
    · rw [List.map_append, hfirst, hbatch, hfrom, List.length_append, List.range'_append_1]
    · rw [List.length_append]
      omega

section Simulation

variable {ε : Type*} {move : γ → List ε → γ → Prop} {R : γ → σ → Prop}
  {V : List ε → List α → Prop}

/-- When every move of a system is a run of the log, and `V` relates the events of the move to the
entries of this run, so is every run of the system. -/
theorem Runs.simulates (hnil : V [] [])
    (happend : ∀ events more entries rest, V events entries → V more rest →
      V (events ++ more) (entries ++ rest))
    (hmove : ∀ c events c' s, R c s → move c events c' →
      ∃ entries t, Runs step s entries t ∧ R c' t ∧ V events entries)
    {c c' : γ} {s : σ} {events : List ε} (hmoves : Runs move c events c') (h : R c s) :
    ∃ entries t, Runs step s entries t ∧ R c' t ∧ V events entries := by
  induction hmoves with
  | refl => exact ⟨[], s, .refl, h, hnil⟩
  | tail _ last ih =>
    obtain ⟨entries, middle, hrun, hmiddle, hevents⟩ := ih
    obtain ⟨rest, t, hnext, ht, hmore⟩ := hmove _ _ _ _ hmiddle last
    exact ⟨entries ++ rest, t, hrun.trans hnext, ht, happend _ _ _ _ hevents hmore⟩

end Simulation

end CommitLog
