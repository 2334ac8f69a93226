import Historian.TypedValueRuns

namespace Historian.TypedValueBlock

open Wire Checks BitPack RunLength

/-- The lists that a form can write for a family. -/
def Applicable (family : ValueFamily) (values : List ExactValue) : BlockCodec → Prop
  | .raw => ∀ value ∈ values, family.admits value = true
  | .bitPack | .rle => family = .boolean ∧ ∃ bools : List Bool, values = bools.map .boolean

theorem decodeRaw_ok {family : ValueFamily} {count : Nat} {payload : Bytes}
    {values : List ExactValue} (hcount : count ≤ maxSourceObservationContexts) :
    decodeRaw family count payload = .ok values ↔ values.length = count ∧
      (∀ value ∈ values, family.admits value = true) ∧
      Writes (encodeRaw family values) payload := by
  have hlist := (codec_rawValue family).list count
  unfold decodeRaw
  simp only [bind_ok, exists_unit, refuse_ok, pure_ok, Prod.exists, Nat.not_lt, not_not]
  constructor
  · intro h
    obtain ⟨-, _, _, hread, rfl, rfl⟩ := h
    obtain ⟨⟨hlen, hadmits⟩, bytes, hwrites, hbytes⟩ := (hlist.reads _ _ _).mp hread
    rw [hbytes, List.append_nil]
    exact ⟨hlen, hadmits, hwrites⟩
  · intro h
    obtain ⟨hlen, hadmits, hwrites⟩ := h
    obtain ⟨bytes, hraw, -, hmore, -⟩ := rawPayloadLen_ok hadmits (by omega)
    have heq := hwrites.unique hraw
    refine ⟨by rw [heq]; omega, values, [], ?_, rfl, rfl⟩
    exact (hlist.reads _ _ _).mpr ⟨⟨hlen, hadmits⟩, payload, hwrites, (List.append_nil _).symm⟩

theorem map_isTrue (bools : List Bool) : (bools.map ExactValue.boolean).map isTrue = bools := by
  rw [List.map_map]
  have hid : isTrue ∘ ExactValue.boolean = id := by
    funext value
    cases value <;> rfl
  rw [hid, List.map_id]

theorem writes_packed (bools : List Bool) :
    Writes (encodePacked (bools.map .boolean)) ([packedOrderLsbFirst] ++ pack bools) := by
  unfold encodePacked
  rw [map_isTrue]
  exact (Writes.put _).bind (Writes.put _)

theorem decodePacked_ok {count : Nat} {payload : Bytes} {values : List ExactValue}
    (hcount : count ≤ maxSourceObservationContexts) :
    decodePacked count payload = .ok values ↔ ∃ bools : List Bool,
      values = bools.map .boolean ∧ bools.length = count ∧
      payload = [packedOrderLsbFirst] ++ pack bools := by
  have hcontexts : maxSourceObservationContexts = 256 := rfl
  have hbytes : byteCount count = (count + 7) / 8 := rfl
  unfold decodePacked
  simp only [bind_ok, exists_unit, refuse_ok, pure_ok, not_or, not_not, checkedAdd_ok]
  constructor
  · intro h
    obtain ⟨_, ⟨-, rfl⟩, ⟨hlen, hhead⟩, hmask, rfl⟩ := h
    cases payload with
    | nil => cases hhead
    | cons marker bytes =>
      cases hhead
      rw [List.length_cons] at hlen
      have hsize : bytes.length = byteCount count := by omega
      have hclean := (clean_iff hsize).mpr fun hused => by
        by_contra hset
        refine hmask ⟨hused, ?_⟩
        have hlast : 1 + byteCount count - 1 = (bytes.length - 1) + 1 := by omega
        rw [hlast, List.getD_cons_succ]
        exact hset
      refine ⟨unpack count bytes, rfl, by simp [unpack], ?_⟩
      rw [pack_unpack hsize hclean]
      rfl
  · intro h
    obtain ⟨bools, rfl, rfl, rfl⟩ := h
    have hsize := length_pack bools
    have hclean := (clean_iff hsize).mp fun j hj => by
      rw [getBit_pack, List.getD_eq_default _ _ hj]
    refine ⟨_, ⟨by omega, rfl⟩, ⟨?_, rfl⟩, ?_, ?_⟩
    · rw [List.length_append, List.length_singleton, hsize]
    · intro hset
      obtain ⟨hused, hset⟩ := hset
      have hlast : 1 + byteCount bools.length - 1 = ((pack bools).length - 1) + 1 := by omega
      rw [hlast, List.singleton_append, List.getD_cons_succ] at hset
      exact hset (hclean hused)
    · rw [List.singleton_append, List.drop_one, List.tail_cons, unpack_pack]

theorem decodeRle_ok {count : Nat} {payload : Bytes} {values : List ExactValue} (hpos : 0 < count)
    (hcount : count ≤ maxSourceObservationContexts) :
    decodeRle count payload = .ok values ↔ ∃ bools : List Bool,
      values = bools.map .boolean ∧ bools.length = count ∧
      payload = [rleRunWidthU16] ++ (runs bools).flatMap runBytes := by
  have hcontexts : maxSourceObservationContexts = 256 := rfl
  unfold decodeRle
  simp only [bind_ok, exists_unit, refuse_ok, pure_ok, not_or, not_not]
  constructor
  · intro h
    obtain ⟨⟨hhead, -⟩, _, hruns, hlen, rfl⟩ := h
    obtain ⟨rs, hreads⟩ := readsRuns_of_decode hruns
    cases payload with
    | nil => cases hhead
    | cons marker bytes =>
      cases hhead
      have hread := hreads.read_eq
      rw [List.nil_append] at hread
      have hbytes : bytes = rs.flatMap runBytes := hreads.bytes_eq
      refine ⟨expand rs, hread, ?_, ?_⟩
      · rw [← hlen, hread, List.length_map]
      · rw [runs_expand hreads.maximal, hbytes]
        rfl
  · intro h
    obtain ⟨bools, rfl, rfl, rfl⟩ := h
    have hnonempty : 0 < (runs bools).length := by
      cases bools with
      | nil => cases hpos
      | cons value rest =>
        obtain ⟨n, behind, hruns⟩ := runs_head value rest
        rw [hruns]
        exact Nat.succ_pos _
    have hsize := length_flatMap_runBytes (runs bools)
    have hreads : ReadsRuns bools.length none [] ((runs bools).flatMap runBytes)
        (bools.map .boolean) (runs bools) := by
      refine ⟨rfl, runs_maximal bools, ?_, ?_, ?_, ?_⟩
      · intro run _ heq
        cases heq
      · intro run hrun
        have hle := run_le_length hrun
        rw [expand_runs] at hle
        omega
      · rw [expand_runs, List.nil_append]
      · intro _
        exact Nat.le_of_eq (List.length_map _)
    refine ⟨⟨rfl, ?_, ?_⟩, bools.map .boolean, ?_, List.length_map _, rfl⟩
    · rw [List.length_append, List.length_singleton, hsize]
      omega
    · rw [List.length_append, List.length_singleton, hsize]
      omega
    · rw [List.singleton_append, List.drop_one, List.tail_cons]
      exact decode_of_readsRuns (by omega) hreads

/-- The payloads that a form is read from are those that it is written as. -/
theorem decodePayload_ok {codec : BlockCodec} {family : ValueFamily} {count : Nat}
    {payload : Bytes} {values : List ExactValue} (hfamily : codec ≠ .raw → family = .boolean)
    (hpos : 0 < count) (hcount : count ≤ maxSourceObservationContexts) :
    decodePayload codec family count payload = .ok values ↔ values.length = count ∧
      Applicable family values codec ∧ Writes (encodePayload codec family values) payload := by
  have hcontexts : maxSourceObservationContexts = 256 := rfl
  cases codec with
  | raw => exact decodeRaw_ok hcount
  | bitPack =>
    refine (decodePacked_ok hcount).trans ?_
    constructor
    · intro h
      obtain ⟨bools, rfl, hlen, rfl⟩ := h
      exact ⟨by rw [List.length_map, hlen], ⟨hfamily (by decide), bools, rfl⟩, writes_packed bools⟩
    · intro h
      obtain ⟨hlen, ⟨-, bools, rfl⟩, hwrites⟩ := h
      rw [List.length_map] at hlen
      exact ⟨bools, rfl, hlen, hwrites.unique (writes_packed bools)⟩
  | rle =>
    refine (decodeRle_ok hpos hcount).trans ?_
    constructor
    · intro h
      obtain ⟨bools, rfl, hlen, rfl⟩ := h
      exact ⟨by rw [List.length_map, hlen], ⟨hfamily (by decide), bools, rfl⟩,
        writes_rle (by omega)⟩
    · intro h
      obtain ⟨hlen, ⟨-, bools, rfl⟩, hwrites⟩ := h
      rw [List.length_map] at hlen
      exact ⟨bools, rfl, hlen, hwrites.unique (writes_rle (by omega))⟩

end Historian.TypedValueBlock
