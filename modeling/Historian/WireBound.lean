import Historian.Codec

namespace Wire

variable {α ε : Type}

/-- The step writes something, and at most `n` bytes of it. -/
def WritesAtMost (e : Encode ε Unit) (n : Nat) : Prop := ∃ b, Writes e b ∧ b.length ≤ n

theorem WritesAtMost.mono {e : Encode ε Unit} {n m : Nat} (h : WritesAtMost e n) (hle : n ≤ m) :
    WritesAtMost e m := by
  obtain ⟨b, hb, hlen⟩ := h
  exact ⟨b, hb, Nat.le_trans hlen hle⟩

theorem WritesAtMost.put {b : Bytes} {n : Nat} (h : b.length ≤ n) :
    WritesAtMost (Wire.put b : Encode ε Unit) n :=
  ⟨b, Writes.put b, h⟩

theorem WritesAtMost.nil : WritesAtMost (pure () : Encode ε Unit) 0 :=
  ⟨[], Writes.nil, Nat.le_refl _⟩

theorem WritesAtMost.seq {e f : Encode ε Unit} {n m : Nat} (he : WritesAtMost e n)
    (hf : WritesAtMost f m) : WritesAtMost (do e; f) (n + m) := by
  obtain ⟨b, hb, hbl⟩ := he
  obtain ⟨c, hc, hcl⟩ := hf
  refine ⟨b ++ c, hb.bind hc, ?_⟩
  rw [List.length_append]
  omega

theorem WritesAtMost.option {flag : Bool → Encode ε Unit} {enc : α → Encode ε Unit} {k n : Nat}
    (hflag : ∀ present, WritesAtMost (flag present) k) (henc : ∀ x, WritesAtMost (enc x) n)
    (o : Option α) : WritesAtMost (encodeOption flag enc o) (k + n) := by
  cases o with
  | none => exact (hflag false).mono (by omega)
  | some x => exact (hflag true).seq (henc x)

theorem WritesAtMost.forM {enc : α → Encode ε Unit} {n : Nat} (xs : List α)
    (h : ∀ x ∈ xs, WritesAtMost (enc x) n) : WritesAtMost (xs.forM enc) (xs.length * n) := by
  induction xs with
  | nil =>
    rw [List.length_nil, Nat.zero_mul]
    exact WritesAtMost.nil
  | cons x xs ih =>
    have hrest := ih fun y hy => h y (by simp [hy])
    refine WritesAtMost.mono (n := n + xs.length * n) ((h x (by simp)).seq hrest) ?_
    rw [List.length_cons, Nat.succ_mul]
    omega

/-- A counting encoder that starts at zero ends at the length of what is written. -/
theorem Writes.count {e : Encode ε Unit} {b : Bytes} (h : Writes e b) (hlen : b.length < 2 ^ 64) :
    ∃ counted, e (.count 0) = .ok ((), counted) ∧ counted.len = b.length := by
  refine ⟨_, h (.count 0), ?_⟩
  simp only [Encoder.put, Encoder.len, saturatingAdd]
  have h0 : (0 : Fin (2 ^ 64)).val = 0 := rfl
  omega

/-- The step does the same in both modes of the encoder: it writes the same bytes, whatever was
written before, or it refuses with the same error. -/
def ModeFree (e : Encode ε Unit) : Prop :=
  (∃ b, Writes e b) ∨ ∃ error, ∀ out, e out = .error error

theorem ModeFree.put (b : Bytes) : ModeFree (Wire.put b : Encode ε Unit) := Or.inl ⟨b, Writes.put b⟩

theorem ModeFree.nil : ModeFree (pure () : Encode ε Unit) := Or.inl ⟨[], Writes.nil⟩

theorem ModeFree.throw (error : ε) : ModeFree (throw error : Encode ε Unit) :=
  Or.inr ⟨error, fun _ => rfl⟩

theorem ModeFree.seq {e f : Encode ε Unit} (he : ModeFree e) (hf : ModeFree f) :
    ModeFree (do e; f) := by
  obtain ⟨b, hb⟩ | ⟨error, herror⟩ := he
  · obtain ⟨c, hc⟩ | ⟨error, herror⟩ := hf
    · exact Or.inl ⟨b ++ c, hb.bind hc⟩
    · refine Or.inr ⟨error, ?_⟩
      intro out
      change (e out >>= fun p => f p.2) = _
      rw [hb out]
      exact herror _
  · refine Or.inr ⟨error, ?_⟩
    intro out
    change (e out >>= fun p => f p.2) = _
    rw [herror out]
    rfl

theorem ModeFree.option {flag : Bool → Encode ε Unit} {enc : α → Encode ε Unit}
    (hflag : ∀ present, ModeFree (flag present)) (henc : ∀ x, ModeFree (enc x)) (o : Option α) :
    ModeFree (encodeOption flag enc o) := by
  cases o with
  | none => exact hflag false
  | some x => exact (hflag true).seq (henc x)

theorem ModeFree.forM {enc : α → Encode ε Unit} (h : ∀ x, ModeFree (enc x)) (xs : List α) :
    ModeFree (xs.forM enc) := by
  induction xs with
  | nil => exact ModeFree.nil
  | cons x xs ih => exact (h x).seq ih

/-- What a counting encoder that starts at zero has counted: all bytes, as far as the length
reaches. -/
theorem Writes.counted {e : Encode ε Unit} {b : Bytes} (h : Writes e b) :
    ∃ counted, e (.count 0) = .ok ((), counted) ∧ counted.len = min b.length (2 ^ 64 - 1) := by
  refine ⟨_, h (.count 0), ?_⟩
  simp only [Encoder.put, Encoder.len, saturatingAdd]
  have h0 : (0 : Fin (2 ^ 64)).val = 0 := rfl
  omega

end Wire
