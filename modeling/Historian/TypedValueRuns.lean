import Historian.TypedValueLength
import Historian.RunLength

namespace Historian.TypedValueBlock

open Wire Checks RunLength

def runBytes (run : Bool × Nat) : Bytes := [if run.1 then 1 else 0] ++ toLE 2 run.2

theorem length_runBytes (run : Bool × Nat) : (runBytes run).length = 3 := by
  rw [runBytes, List.length_append, length_toLE, List.length_singleton]

theorem length_flatMap_runBytes (rs : List (Bool × Nat)) :
    (rs.flatMap runBytes).length = 3 * rs.length := by
  rw [List.length_flatMap]
  simp [length_runBytes, Nat.mul_comm]

theorem writes_run {value : Bool} {length : Nat} (h : length < 2 ^ 16) :
    Writes (encodeRun value length) (runBytes (value, length)) := by
  unfold encodeRun
  rw [dif_pos h]
  exact (Writes.put _).bind (Writes.put _)

/-- The loop over the runs writes the maximal runs of what it has passed and what is left. -/
theorem writes_runsFrom {value : Bool} {length : Nat} {rest : List Bool} (hpos : 0 < length)
    (hlen : length + rest.length < 2 ^ 16) :
    Writes (encodeRunsFrom value length (rest.map .boolean))
      ((runs (List.replicate length value ++ rest)).flatMap runBytes) := by
  induction rest generalizing value length with
  | nil =>
    rw [runs_replicate_append hpos (by simp [runs])]
    simpa [runs, encodeRunsFrom] using @writes_run value length (by omega)
  | cons next rest ih =>
    rw [List.length_cons] at hlen
    rw [List.map_cons, encodeRunsFrom]
    by_cases hsame : next = value
    · subst hsame
      rw [if_pos rfl]
      have hmore : List.replicate length next ++ next :: rest =
          List.replicate (length + 1) next ++ rest := by
        rw [List.replicate_succ', List.append_assoc, List.singleton_append]
      rw [hmore]
      exact ih (Nat.succ_pos length) (by omega)
    · have hne : ExactValue.boolean next ≠ .boolean value := fun heq =>
        hsame (ExactValue.boolean.inj heq)
      rw [if_neg hne]
      obtain ⟨n, behind, hruns⟩ := runs_head next rest
      have hhead : ∀ run ∈ (runs (next :: rest)).head?, run.1 ≠ value := by
        rw [hruns]
        intro run hrun
        cases hrun
        exact hsame
      rw [runs_replicate_append hpos hhead, List.flatMap_cons]
      have hrest := @ih next 1 Nat.one_pos (by omega)
      exact (writes_run (by omega)).bind hrest

theorem writes_rle {bools : List Bool} (h : bools.length < 2 ^ 16) :
    Writes (encodeRle (bools.map .boolean))
      ([rleRunWidthU16] ++ (runs bools).flatMap runBytes) := by
  cases bools with
  | nil => exact (Writes.put _).bind Writes.nil
  | cons value rest =>
    rw [List.length_cons] at h
    have hrest := @writes_runsFrom value 1 rest Nat.one_pos
      (by omega)
    exact (Writes.put _).bind hrest

theorem booleanRunCount_some {value : Bool} {count : Nat} {rest : List Bool}
    (h : count + rest.length < 2 ^ 64) : ∃ n, n + 1 = count + (runs (value :: rest)).length ∧
      booleanRunCount (some value) count (rest.map .boolean) = .ok n := by
  induction rest generalizing value count with
  | nil => exact ⟨count, rfl, rfl⟩
  | cons next rest ih =>
    rw [List.length_cons] at h
    rw [List.map_cons, booleanRunCount]
    by_cases hsame : next = value
    · subst hsame
      rw [if_pos rfl, length_runs_same]
      exact ih (by omega)
    · rw [if_neg (fun heq => hsame (Option.some.inj heq).symm), length_runs_ne rest hsame]
      have hadd : checkedAdd count 1 = .ok (count + 1) := checkedAdd_ok.mpr ⟨by omega, rfl⟩
      obtain ⟨n, hn, hrest⟩ := @ih next (count + 1) (by omega)
      rw [hadd]
      exact ⟨n, by omega, hrest⟩

theorem booleanRunCount_ok {bools : List Bool} (h : bools.length < 2 ^ 64) :
    booleanRunCount none 0 (bools.map .boolean) = .ok (runs bools).length := by
  cases bools with
  | nil => rfl
  | cons value rest =>
    rw [List.length_cons] at h
    obtain ⟨n, hn, hrest⟩ := @booleanRunCount_some value 1 rest
      (by omega)
    have hcount : (runs (value :: rest)).length = n := by omega
    rw [hcount, List.map_cons, booleanRunCount, if_neg (fun heq => nomatch heq)]
    exact hrest

/-- What the decoder of runs accepts behind a value, and what it has then read. -/
structure ReadsRuns (count : Nat) (previous : Option Bool) (values : List ExactValue)
    (bytes : Bytes) (read : List ExactValue) (rs : List (Bool × Nat)) : Prop where
  bytes_eq : bytes = rs.flatMap runBytes
  maximal : Maximal rs
  apart : ∀ run ∈ rs.head?, previous ≠ some run.1
  short : ∀ run ∈ rs, run.2 < 2 ^ 16
  read_eq : read = values ++ (expand rs).map .boolean
  within : rs ≠ [] → read.length ≤ count

theorem readsRuns_of_decode {count : Nat} {previous : Option Bool} {values read : List ExactValue}
    {bytes : Bytes} (h : decodeRuns count previous values bytes = .ok read) :
    ∃ rs, ReadsRuns count previous values bytes read rs := by
  induction previous, values, bytes using decodeRuns.induct with
  | case1 previous values marker low high rest ih =>
    rw [decodeRuns] at h
    simp only [bind_ok, exists_unit, refuse_ok, Nat.not_lt, checkedAdd_ok] at h
    obtain ⟨value, hmarker, hprevious, hlength, newLen, ⟨-, rfl⟩, hcount, hrest⟩ := h
    obtain ⟨rs, hreads⟩ := ih value hrest
    have hlow : ofLE [low, high] < 2 ^ 16 := by
      have hlt := ofLE_lt [low, high]
      have htwo : [low, high].length = 2 := rfl
      rw [htwo] at hlt
      omega
    have hbyte : marker = if value then 1 else 0 := by
      unfold runValue at hmarker
      split at hmarker
      next => cases hmarker; rfl
      next => cases hmarker; rfl
      next => cases hmarker
    have hle : toLE 2 (ofLE [low, high]) = [low, high] := toLE_ofLE [low, high]
    refine ⟨(value, ofLE [low, high]) :: rs, ?_, ?_, ?_, ?_, ?_, ?_⟩
    · rw [List.flatMap_cons, ← hreads.bytes_eq, runBytes, hle, hbyte]
      rfl
    · refine ⟨Nat.pos_of_ne_zero hlength, ?_, hreads.maximal⟩
      intro run hrun heq
      exact hreads.apart run hrun (heq ▸ rfl)
    · intro run hrun
      cases hrun
      exact hprevious
    · rw [List.forall_mem_cons]
      exact ⟨hlow, hreads.short⟩
    · rw [hreads.read_eq, expand, List.map_append, List.map_replicate, List.append_assoc]
    · intro _
      rcases List.eq_nil_or_concat rs with hnil | ⟨_, _, hsome⟩
      · rw [hreads.read_eq, hnil, expand, List.map_nil, List.append_nil, List.length_append,
          List.length_replicate]
        exact hcount
      · exact hreads.within (by rw [hsome]; simp)
  | case2 previous values =>
    rw [decodeRuns] at h
    cases h
    exact ⟨[], rfl, trivial, by simp, by simp, by simp [expand], fun hne => absurd rfl hne⟩
  | case3 previous values bytes hlong hnil =>
    rw [decodeRuns] at h
    · cases h
    · exact hlong
    · exact hnil

theorem decode_of_readsRuns {count : Nat} {previous : Option Bool} {values read : List ExactValue}
    {bytes : Bytes} {rs : List (Bool × Nat)} (hcount : count < 2 ^ 64)
    (h : ReadsRuns count previous values bytes read rs) :
    decodeRuns count previous values bytes = .ok read := by
  induction rs generalizing previous values bytes with
  | nil =>
    rw [h.bytes_eq, h.read_eq, List.flatMap_nil, decodeRuns]
    simp [expand]
  | cons run rest ih =>
    obtain ⟨value, length⟩ := run
    obtain ⟨hpos, hhead, hrest⟩ := h.maximal
    obtain ⟨hshort, hshorts⟩ := List.forall_mem_cons.mp h.short
    have hread := h.within (List.cons_ne_nil _ _)
    have hapart := h.apart (value, length) rfl
    dsimp only at hshort hapart
    obtain ⟨low, high, hbytes⟩ : ∃ low high, toLE 2 length = [low, high] :=
      List.length_eq_two.mp (length_toLE 2 length)
    have hlength : ofLE [low, high] = length := by
      rw [← hbytes]
      exact ofLE_toLE hshort
    have hlong : values.length + length ≤ count := by
      rw [h.read_eq, expand, List.length_append, List.map_append, List.length_append,
        List.length_map, List.length_replicate] at hread
      omega
    have hbehind : ReadsRuns count (some value)
        (values ++ List.replicate length (.boolean value)) (rest.flatMap runBytes) read rest := by
      refine ⟨rfl, hrest, ?_, hshorts, ?_, fun _ => hread⟩
      · intro run hrun heq
        exact hhead run hrun (Option.some.inj heq).symm
      · rw [h.read_eq, expand, List.map_append, List.map_replicate, List.append_assoc]
    have hmarker : runValue (if value then 1 else 0) = .ok value := by
      cases value <;> rfl
    rw [h.bytes_eq, List.flatMap_cons, runBytes, hbytes]
    simp only [List.cons_append, List.nil_append]
    rw [decodeRuns]
    simp only [bind_ok, exists_unit, refuse_ok, Nat.not_lt, checkedAdd_ok, hlength]
    exact ⟨value, hmarker, hapart, by omega, _, ⟨by omega, rfl⟩, hlong, ih hbehind⟩

end Historian.TypedValueBlock
