import Historian.TypedValuePayload

namespace Historian.TypedValueBlock

open Wire Checks BitPack RunLength

/-- A form of a list that no other form undercuts; of forms of one length the first is taken. -/
structure Shortest (family : ValueFamily) (values : List ExactValue) (codec : BlockCodec)
    (payload : Bytes) : Prop where
  applicable : Applicable family values codec
  writes : Writes (encodePayload codec family values) payload
  fits : headerLen + payload.length ≤ maxAdmissionPayloadV1
  shortest : ∀ other, Applicable family values other → ∃ otherPayload,
    Writes (encodePayload other family values) otherPayload ∧
      (payload.length < otherPayload.length ∨
        payload.length = otherPayload.length ∧ codec.code ≤ other.code)

theorem checkedTotalLen_ok {n : Nat} (h : headerLen + n ≤ maxAdmissionPayloadV1) :
    checkedTotalLen n = .ok (headerLen + n) := by
  have hmax : maxAdmissionPayloadV1 = 8388608 := rfl
  unfold checkedTotalLen
  simp only [bind_ok, exists_unit, refuse_ok, pure_ok, checkedAdd_ok, Nat.not_lt]
  exact ⟨_, ⟨by omega, rfl⟩, h, rfl⟩

theorem all_isBoolean {values : List ExactValue} :
    values.all isBoolean = true ↔ ∃ bools : List Bool, values = bools.map .boolean := by
  induction values with
  | nil => exact ⟨fun _ => ⟨[], rfl⟩, fun _ => rfl⟩
  | cons value rest ih =>
    rw [List.all_cons, Bool.and_eq_true, ih]
    constructor
    · intro h
      obtain ⟨hvalue, bools, rfl⟩ := h
      cases value <;> simp only [isBoolean, Bool.false_eq_true] at hvalue
      next value => exact ⟨value :: bools, rfl⟩
    · intro h
      obtain ⟨bools, hbools⟩ := h
      cases bools with
      | nil => cases hbools
      | cons first bools =>
        rw [List.map_cons, List.cons.injEq] at hbools
        obtain ⟨rfl, rfl⟩ := hbools
        exact ⟨rfl, bools, rfl⟩

theorem admits_booleans (bools : List Bool) :
    ∀ value ∈ bools.map ExactValue.boolean, ValueFamily.boolean.admits value = true := by
  intro value hvalue
  obtain ⟨_, -, rfl⟩ := List.mem_map.mp hvalue
  rfl

theorem Applicable.admits {family : ValueFamily} {values : List ExactValue} {codec : BlockCodec}
    (h : Applicable family values codec) : ∀ value ∈ values, family.admits value = true := by
  cases codec with
  | raw => exact h
  | bitPack | rle =>
    obtain ⟨rfl, bools, rfl⟩ := h
    exact admits_booleans bools

/-- The choice between the three forms of a list of booleans. -/
theorem chooseCodec_booleans {bools : List Bool} {raw : Bytes}
    (hcount : bools.length ≤ maxSourceObservationContexts)
    (hraw : Writes (encodeRaw .boolean (bools.map .boolean)) raw)
    (hfits : headerLen + raw.length ≤ maxAdmissionPayloadV1) :
    ∃ codec payload, chooseCodec .boolean (bools.map .boolean) raw.length =
        .ok (codec, payload.length) ∧
      Shortest .boolean (bools.map .boolean) codec payload := by
  have hcontexts : maxSourceObservationContexts = 256 := rfl
  have hmax : maxAdmissionPayloadV1 = 8388608 := rfl
  have hheader : headerLen = 16 := rfl
  have hbytes : byteCount bools.length = (bools.length + 7) / 8 := rfl
  have hruns := length_runs_le bools
  have hpacked := writes_packed bools
  have hrle := @writes_rle bools (by omega)
  have hrawLen := checkedTotalLen_ok hfits
  have hpackedLen : ([packedOrderLsbFirst] ++ pack bools).length =
      1 + byteCount bools.length := by
    rw [List.length_append, length_pack, List.length_singleton]
  have hrleLen : ([rleRunWidthU16] ++ (runs bools).flatMap runBytes).length =
      1 + (runs bools).length * 3 := by
    rw [List.length_append, length_flatMap_runBytes, List.length_singleton, Nat.mul_comm]
  have happlicable (codec : BlockCodec) : Applicable .boolean (bools.map .boolean) codec := by
    cases codec with
    | raw => exact admits_booleans bools
    | bitPack | rle => exact ⟨rfl, bools, rfl⟩
  generalize [packedOrderLsbFirst] ++ pack bools = packed at hpacked hpackedLen
  generalize [rleRunWidthU16] ++ (runs bools).flatMap runBytes = rle at hrle hrleLen
  have hchosen : chooseCodec .boolean (bools.map .boolean) raw.length =
      if packed.length < raw.length ∧ packed.length ≤ rle.length then .ok (.bitPack, packed.length)
      else if rle.length < raw.length ∧ rle.length < packed.length then .ok (.rle, rle.length)
      else .ok (.raw, raw.length) := by
    have hadd : checkedAdd 1 (byteCount bools.length) = .ok packed.length :=
      checkedAdd_ok.mpr ⟨by omega, hpackedLen⟩
    have hmul : checkedMul (runs bools).length 3 = .ok ((runs bools).length * 3) :=
      if_pos (by omega)
    have hadd' : checkedAdd 1 ((runs bools).length * 3) = .ok rle.length :=
      checkedAdd_ok.mpr ⟨by omega, hrleLen⟩
    have hno : ¬(ValueFamily.boolean ≠ .boolean ∨
        ¬(bools.map ExactValue.boolean).all isBoolean = true) := by
      rw [all_isBoolean.mpr ⟨bools, rfl⟩]
      simp
    unfold chooseCodec
    rw [hrawLen]
    change (if _ then _ else _) = _
    rw [if_neg hno, List.length_map, hadd]
    change (booleanRunCount none 0 _ >>= _) = _
    rw [booleanRunCount_ok (by omega)]
    change (checkedMul _ 3 >>= _) = _
    rw [hmul]
    change (checkedAdd 1 _ >>= _) = _
    rw [hadd']
    change (checkedTotalLen _ >>= _) = _
    rw [checkedTotalLen_ok (by omega)]
    change (checkedTotalLen _ >>= _) = _
    rw [checkedTotalLen_ok (by omega)]
    change (if _ then _ else _) = _
    simp only [Nat.add_lt_add_iff_left, Nat.add_le_add_iff_left]
    rfl
  by_cases hfirst : packed.length < raw.length ∧ packed.length ≤ rle.length
  · rw [if_pos hfirst] at hchosen
    refine ⟨.bitPack, packed, hchosen, happlicable _, hpacked, by omega, ?_⟩
    intro other _
    cases other with
    | raw => exact ⟨raw, hraw, by omega⟩
    | bitPack => exact ⟨packed, hpacked, Or.inr ⟨rfl, by decide⟩⟩
    | rle =>
      have hcode : BlockCodec.bitPack.code ≤ BlockCodec.rle.code := by decide
      exact ⟨rle, hrle, (Nat.lt_or_eq_of_le hfirst.2).imp_right (⟨·, hcode⟩)⟩
  · rw [if_neg hfirst] at hchosen
    by_cases hsecond : rle.length < raw.length ∧ rle.length < packed.length
    · rw [if_pos hsecond] at hchosen
      refine ⟨.rle, rle, hchosen, happlicable _, hrle, by omega, ?_⟩
      intro other _
      cases other with
      | raw => exact ⟨raw, hraw, by omega⟩
      | bitPack => exact ⟨packed, hpacked, by omega⟩
      | rle => exact ⟨rle, hrle, Or.inr ⟨rfl, by decide⟩⟩
    · rw [if_neg hsecond] at hchosen
      refine ⟨.raw, raw, hchosen, happlicable _, hraw, hfits, ?_⟩
      have hleast (other : BlockCodec) : BlockCodec.raw.code ≤ other.code := by
        cases other <;> decide
      intro other _
      cases other with
      | raw => exact ⟨raw, hraw, Or.inr ⟨rfl, hleast _⟩⟩
      | bitPack =>
        have hle : raw.length ≤ packed.length := by omega
        exact ⟨packed, hpacked, (Nat.lt_or_eq_of_le hle).imp_right (⟨·, hleast _⟩)⟩
      | rle =>
        have hle : raw.length ≤ rle.length := by omega
        exact ⟨rle, hrle, (Nat.lt_or_eq_of_le hle).imp_right (⟨·, hleast _⟩)⟩

/-- The choice is the shortest form that the list has. -/
theorem chooseCodec_shortest {family : ValueFamily} {values : List ExactValue} {raw : Bytes}
    (hadmits : ∀ value ∈ values, family.admits value = true)
    (hcount : values.length ≤ maxSourceObservationContexts)
    (hraw : Writes (encodeRaw family values) raw)
    (hfits : headerLen + raw.length ≤ maxAdmissionPayloadV1) :
    ∃ codec payload, chooseCodec family values raw.length = .ok (codec, payload.length) ∧
      Shortest family values codec payload := by
  by_cases hboolean : family = .boolean ∧ ∃ bools : List Bool, values = bools.map .boolean
  · obtain ⟨rfl, bools, rfl⟩ := hboolean
    rw [List.length_map] at hcount
    exact chooseCodec_booleans hcount hraw hfits
  · have honly : family ≠ .boolean ∨ ¬values.all isBoolean = true := by
      rw [all_isBoolean]
      exact not_and_or.mp hboolean
    refine ⟨.raw, raw, ?_, hadmits, hraw, hfits, ?_⟩
    · unfold chooseCodec
      rw [checkedTotalLen_ok hfits]
      exact if_pos honly
    · intro other hother
      cases other with
      | raw => exact ⟨raw, hraw, Or.inr ⟨rfl, by decide⟩⟩
      | bitPack | rle => exact absurd hother hboolean

def header (family : ValueFamily) (codec : BlockCodec) (count payloadLen : Nat) : Bytes :=
  magic ++ ([internalVersion] ++ ([familyCode family] ++ ([codec.code] ++ ([0] ++
    (toLE 2 count ++ (List.replicate 2 0 ++ toLE 4 payloadLen))))))

theorem writes_header {family : ValueFamily} {codec : BlockCodec} {count payloadLen : Nat}
    (hcount : count < 2 ^ 16) (hlen : payloadLen < 2 ^ 32) :
    Writes (writeHeader family codec count payloadLen) (header family codec count payloadLen) := by
  unfold writeHeader
  rw [dif_pos hcount, dif_pos hlen]
  exact (Writes.put _).bind ((Writes.put _).bind ((Writes.put _).bind ((Writes.put _).bind
    ((Writes.put _).bind ((Writes.put _).bind ((Writes.put _).bind (Writes.put _)))))))

theorem length_header (family : ValueFamily) (codec : BlockCodec) (count payloadLen : Nat) :
    (header family codec count payloadLen).length = headerLen := by
  simp [header, magic, headerLen]

theorem familyFromCode_ok {code : UInt8} {family : ValueFamily} :
    familyFromCode code = .ok family ↔ code = familyCode family := by
  unfold familyFromCode
  split <;> cases family <;> simp_all [familyCode]

theorem fromCode_ok {code : UInt8} {codec : BlockCodec} :
    BlockCodec.fromCode code = .ok codec ↔ code = codec.code := by
  unfold BlockCodec.fromCode
  split <;> cases codec <;> simp_all [BlockCodec.code]

/-- What the header in front of a payload says, for each check of the decoder. -/
theorem header_iff {bytes : Bytes} {family : ValueFamily} {codec : BlockCodec}
    (h : headerLen ≤ bytes.length) :
    slice bytes 0 4 = magic ∧ bytes.getD 4 0 = internalVersion ∧
        bytes.getD 5 0 = familyCode family ∧ bytes.getD 6 0 = codec.code ∧ bytes.getD 7 0 = 0 ∧
        slice bytes 10 2 = [0, 0] ↔
      bytes = header family codec (ofLE (slice bytes 8 2)) (ofLE (slice bytes 12 4)) ++
        bytes.drop headerLen := by
  have hheader : headerLen = 16 := rfl
  match bytes, h with
  | b0 :: b1 :: b2 :: b3 :: b4 :: b5 :: b6 :: b7 :: b8 :: b9 :: b10 :: b11 :: b12 :: b13 :: b14 ::
      b15 :: payload, _ =>
    have hcount : toLE 2 (ofLE [b8, b9]) = [b8, b9] := toLE_ofLE [b8, b9]
    have hlen : toLE 4 (ofLE [b12, b13, b14, b15]) = [b12, b13, b14, b15] :=
      toLE_ofLE [b12, b13, b14, b15]
    simp [slice, header, headerLen, hcount, hlen, magic, List.replicate, and_assoc]

theorem header_slices {family : ValueFamily} {codec : BlockCodec} {count payloadLen : Nat}
    {payload : Bytes} (hcount : count < 2 ^ 16) (hlen : payloadLen < 2 ^ 32) :
    ofLE (slice (header family codec count payloadLen ++ payload) 8 2) = count ∧
      ofLE (slice (header family codec count payloadLen ++ payload) 12 4) = payloadLen ∧
      (header family codec count payloadLen ++ payload).drop headerLen = payload := by
  have hback : ofLE (toLE 2 count) = count := ofLE_toLE hcount
  have hback' : ofLE (toLE 4 payloadLen) = payloadLen := ofLE_toLE hlen
  obtain ⟨b8, b9, h2⟩ := List.length_eq_two.mp (length_toLE 2 count)
  have h4len := length_toLE 4 payloadLen
  match h4 : toLE 4 payloadLen, h4len with
  | [b12, b13, b14, b15], _ =>
    rw [h2] at hback
    rw [h4] at hback'
    simp [slice, header, headerLen, magic, List.replicate, h2, h4, hback, hback']

theorem decode_ok {family : ValueFamily} {bytes : Bytes} {values : List ExactValue} :
    decode family bytes = .ok values ↔ ∃ codec payload n m,
      bytes = header family codec values.length payload.length ++ payload ∧
      0 < values.length ∧ values.length ≤ maxSourceObservationContexts ∧
      headerLen + payload.length ≤ maxAdmissionPayloadV1 ∧
      Applicable family values codec ∧ Writes (encodePayload codec family values) payload ∧
      rawPayloadLen family values = .ok n ∧ chooseCodec family values n = .ok (codec, m) := by
  have hmax : maxAdmissionPayloadV1 = 8388608 := rfl
  have hcontexts : maxSourceObservationContexts = 256 := rfl
  have hheader : headerLen = 16 := rfl
  unfold decode validateCount
  simp only [bind_ok, exists_unit, refuse_ok, pure_ok, not_or, not_not, Nat.not_lt, Prod.exists,
    familyFromCode_ok, fromCode_ok]
  constructor
  · intro h
    obtain ⟨hle, ⟨hlong, hmagic⟩, ⟨hversion, hflags, hreserved⟩, _, hfamily, rfl, codec, hcodec,
      hboolean, ⟨hsome, hfew⟩, total, htotal, hwhole, _, hread, n, hraw, winner, m, hchoice, hwins,
      rfl⟩ := h
    subst hwins
    have hbytes := (header_iff hlong).mp ⟨hmagic, hversion, hfamily, hcodec, hflags, hreserved⟩
    have hdrop : (bytes.drop headerLen).length = ofLE (slice bytes 12 4) := by
      unfold checkedTotalLen at htotal
      simp only [bind_ok, exists_unit, pure_ok, checkedAdd_ok] at htotal
      obtain ⟨_, ⟨-, rfl⟩, -, rfl⟩ := htotal
      rw [List.length_drop]
      omega
    have hpayload := (decodePayload_ok (fun hne => by
      by_contra hother
      exact hboolean ⟨hne, hother⟩) (Nat.pos_of_ne_zero hsome) hfew).mp hread
    obtain ⟨hcount, happlicable, hwrites⟩ := hpayload
    refine ⟨winner, bytes.drop headerLen, n, m, ?_, ?_, ?_, ?_, happlicable, hwrites, hraw, hchoice⟩
    · rw [hcount, hdrop]
      exact hbytes
    · omega
    · omega
    · rw [List.length_drop]
      omega
  · intro h
    obtain ⟨codec, payload, n, m, rfl, hpos, hfew, hfits, happlicable, hwrites, hraw, hchoice⟩ := h
    have hsize := length_header family codec values.length payload.length
    obtain ⟨hcount, hlen, hdrop⟩ := @header_slices family codec values.length payload.length payload
      (by omega) (by omega)
    have htotal : (header family codec values.length payload.length ++ payload).length =
        headerLen + payload.length := by
      rw [List.length_append, hsize]
    have hlong : headerLen ≤
        (header family codec values.length payload.length ++ payload).length := by omega
    have hfields := (@header_iff _ family codec hlong).mpr (by rw [hcount, hlen, hdrop])
    obtain ⟨hmagic, hversion, hfamily, hcodec, hflags, hreserved⟩ := hfields
    have hboolean : codec ≠ .raw → family = .boolean := by
      intro hne
      cases codec with
      | raw => exact absurd rfl hne
      | bitPack | rle => exact happlicable.1
    have hread := (decodePayload_ok hboolean hpos hfew).mpr ⟨rfl, happlicable, hwrites⟩
    rw [hcount, hlen, hdrop, htotal]
    refine ⟨hfits, ⟨by omega, hmagic⟩, ⟨hversion, hflags, hreserved⟩, family, hfamily, rfl, codec,
      hcodec, ?_, ⟨by omega, hfew⟩, _, checkedTotalLen_ok hfits, rfl, values, hread, n, hraw, codec,
      m, hchoice, rfl, rfl⟩
    intro hboth
    exact hboth.2 (hboolean hboth.1)

/-- The encoder writes the form that was chosen. -/
theorem encode_eq {family : ValueFamily} {values : List ExactValue} {codec : BlockCodec}
    {payload : Bytes} {n : Nat} (hpos : 0 < values.length)
    (hcount : values.length ≤ maxSourceObservationContexts)
    (hraw : rawPayloadLen family values = .ok n)
    (hchoice : chooseCodec family values n = .ok (codec, payload.length))
    (h : Shortest family values codec payload) : encode family values =
      .ok (header family codec values.length payload.length ++ payload) := by
  have hmax : maxAdmissionPayloadV1 = 8388608 := rfl
  have hcontexts : maxSourceObservationContexts = 256 := rfl
  have hheader : headerLen = 16 := rfl
  have hfits := h.fits
  have hwrites := (@writes_header family codec values.length payload.length (by omega)
    (by omega)).bind (f := fun _ => encodePayload codec family values) h.writes
  have hout := hwrites (.bytes [])
  have hsize : (header family codec values.length payload.length ++ payload).length =
      headerLen + payload.length := by
    rw [List.length_append, length_header]
  unfold encode validateCount
  simp only [bind_ok, exists_unit, refuse_ok, pure_ok, not_or, not_not, Nat.not_lt, Prod.exists]
  refine ⟨⟨by omega, hcount⟩, List.all_eq_true.mpr h.applicable.admits, n, hraw, codec,
    payload.length, hchoice, _, checkedTotalLen_ok hfits, _, hout, ?_, ?_⟩
  · rw [Encoder.put, Encoder.finish, List.nil_append, hsize]
  · rw [Encoder.put, Encoder.finish, List.nil_append]

/-- A list of its family is written in its shortest form and read back, and what is read is what
would be written. -/
theorem typed_value_block_codec (family : ValueFamily) :
    (∀ values : List ExactValue, 0 < values.length →
      values.length ≤ maxSourceObservationContexts →
      (∀ value ∈ values, family.admits value = true) →
      (∀ rawLen, rawPayloadLen family values = .ok rawLen →
        headerLen + rawLen ≤ maxAdmissionPayloadV1) →
      ∃ codec payload,
        encode family values =
          .ok (header family codec values.length payload.length ++ payload) ∧
        Shortest family values codec payload ∧
        decode family (header family codec values.length payload.length ++ payload) =
          .ok values) ∧
      ∀ (bytes : Bytes) (values : List ExactValue), decode family bytes = .ok values →
        encode family values = .ok bytes := by
  constructor
  · intro values hpos hcount hadmits hcap
    obtain ⟨raw, hwrites, hraw, -, -⟩ := rawPayloadLen_ok hadmits hcount
    obtain ⟨codec, payload, hchoice, hshortest⟩ :=
      chooseCodec_shortest hadmits hcount hwrites (hcap _ hraw)
    refine ⟨codec, payload, encode_eq hpos hcount hraw hchoice hshortest, hshortest, ?_⟩
    exact decode_ok.mpr ⟨codec, payload, _, _, rfl, hpos, hcount, hshortest.fits,
      hshortest.applicable, hshortest.writes, hraw, hchoice⟩
  · intro bytes values hread
    obtain ⟨codec, payload, n, m, rfl, hpos, hcount, -, happlicable, hwrites, hraw, hchoice⟩ :=
      decode_ok.mp hread
    obtain ⟨raw, hwritesRaw, hrawLen, -, hfits⟩ := rawPayloadLen_ok happlicable.admits hcount
    obtain rfl : n = raw.length := Except.ok.inj (hraw.symm.trans hrawLen)
    obtain ⟨winner, winning, hwinner, hshortest⟩ :=
      chooseCodec_shortest happlicable.admits hcount hwritesRaw hfits
    obtain ⟨rfl, -⟩ := Prod.mk.inj (Except.ok.inj (hwinner.symm.trans hchoice))
    obtain rfl := hshortest.writes.unique hwrites
    exact encode_eq hpos hcount hraw hwinner hshortest

/-- Ten values of one kind, and the block in which they are packed. -/
def sampleValues : List ExactValue := List.replicate 10 (.boolean true)

def sampleBlock : Bytes :=
  header .boolean .bitPack 10 3 ++ [packedOrderLsbFirst, 0xff, 0x03]

theorem typed_value_block_codec_sample :
    (∃ codec payload,
      encode .boolean sampleValues =
        .ok (header .boolean codec sampleValues.length payload.length ++ payload) ∧
      Shortest .boolean sampleValues codec payload ∧
      decode .boolean (header .boolean codec sampleValues.length payload.length ++ payload) =
        .ok sampleValues) ∧
      decode .boolean sampleBlock = .ok sampleValues ∧
      encode .boolean sampleValues = .ok sampleBlock := by
  have hread : decode .boolean sampleBlock = .ok sampleValues := by
    have hruns : (decode .boolean sampleBlock).toOption.any (· = sampleValues) = true := by
      decide +kernel
    obtain ⟨values, hread, hvalues⟩ := exists_ok_any hruns
    rw [hread, of_decide_eq_true hvalues]
  refine ⟨(typed_value_block_codec .boolean).1 sampleValues (by decide) (by decide) (by decide) ?_,
    hread, (typed_value_block_codec .boolean).2 sampleBlock sampleValues hread⟩
  intro rawLen hraw
  have hlen : rawPayloadLen .boolean sampleValues = .ok 10 := rfl
  rw [hlen] at hraw
  cases hraw
  decide

end Historian.TypedValueBlock
