import Historian.ByteOrder

namespace Wire

/-- The field of `len` bytes at offset `start` of a fixed layout. -/
def slice (bytes : Bytes) (start len : Nat) : Bytes := (bytes.drop start).take len

/-- A run of reserved bytes. -/
def zeros (n : Nat) : Bytes := List.replicate n 0

/-- The one-byte field at offset `start`. -/
def byteAt (bytes : Bytes) (start : Nat) : UInt8 := (slice bytes start 1).headD 0

/-- The unsigned fields at offset `start`, as wide as their type. -/
def u16At (bytes : Bytes) (start : Nat) : Nat := ofBE (slice bytes start 2)

def u32At (bytes : Bytes) (start : Nat) : Fin (2 ^ 32) := Fin.ofNat _ (ofBE (slice bytes start 4))

def u64At (bytes : Bytes) (start : Nat) : Fin (2 ^ 64) := Fin.ofNat _ (ofBE (slice bytes start 8))

@[simp] theorem length_zeros (n : Nat) : (zeros n).length = n := by simp [zeros]

theorem length_slice {bytes : Bytes} {start len : Nat} (h : start + len ≤ bytes.length) :
    (slice bytes start len).length = len := by
  simp only [slice, List.length_take, List.length_drop]
  omega

theorem slice_append {a m c : Bytes} {start len : Nat} (ha : a.length = start)
    (hm : m.length = len) : slice (a ++ (m ++ c)) start len = m := by
  subst ha hm
  simp [slice]

theorem slice_add (bytes : Bytes) (start len more : Nat) :
    slice bytes start (len + more) = slice bytes start len ++ slice bytes (start + len) more := by
  simp only [slice, List.take_add, List.drop_drop]

theorem slice_all {bytes : Bytes} {len : Nat} (h : bytes.length = len) :
    slice bytes 0 len = bytes := by
  subst h
  simp [slice]

/-- A big-endian field is the only spelling of the number read from it. -/
theorem slice_eq_toBE {bytes : Bytes} {start len n : Nat} (h : start + len ≤ bytes.length)
    (hn : ofBE (slice bytes start len) = n) : slice bytes start len = toBE len n := by
  have hb := toBE_ofBE (slice bytes start len)
  rw [length_slice h, hn] at hb
  exact hb.symm

/-- A field behind the first part of a layout is a field of the rest. -/
theorem slice_skip {a b : Bytes} {start len : Nat} (h : a.length ≤ start) :
    slice (a ++ b) start len = slice b (start - a.length) len := by
  unfold slice
  rw [List.drop_append, List.drop_eq_nil_of_le h, List.nil_append]

/-- The first part of a layout, when it is the field that is read. -/
theorem slice_head {a b : Bytes} {len : Nat} (h : a.length = len) : slice (a ++ b) 0 len = a := by
  subst h
  simp [slice]

/-- A field inside the first part of a layout. -/
theorem slice_left {a b : Bytes} {start len : Nat} (h : start + len ≤ a.length) :
    slice (a ++ b) start len = slice a start len := by
  unfold slice
  rw [List.drop_append_of_le_length (by omega), List.take_append_of_le_length]
  rw [List.length_drop]
  omega

theorem slice_zeros {n start len : Nat} (h : start + len ≤ n) :
    slice (zeros n) start len = zeros len := by
  unfold slice zeros
  rw [List.drop_replicate, List.take_replicate]
  congr 1
  omega

theorem u64At_of_slice {bytes : Bytes} {start : Nat} {v : Fin (2 ^ 64)}
    (h : slice bytes start 8 = toBE 8 v) : u64At bytes start = v := by
  have hv : ofBE (toBE 8 v) = v.val := ofBE_toBE (Nat.lt_of_lt_of_le v.isLt (by decide))
  unfold u64At
  rw [h, hv]
  exact Fin.ext (Nat.mod_eq_of_lt v.isLt)

theorem u32At_of_slice {bytes : Bytes} {start : Nat} {v : Fin (2 ^ 32)}
    (h : slice bytes start 4 = toBE 4 v) : u32At bytes start = v := by
  have hv : ofBE (toBE 4 v) = v.val := ofBE_toBE (Nat.lt_of_lt_of_le v.isLt (by decide))
  unfold u32At
  rw [h, hv]
  exact Fin.ext (Nat.mod_eq_of_lt v.isLt)

theorem u16At_of_slice {bytes : Bytes} {start v : Nat} (hv : v < 2 ^ 16)
    (h : slice bytes start 2 = toBE 2 v) : u16At bytes start = v := by
  unfold u16At
  rw [h]
  exact ofBE_toBE (Nat.lt_of_lt_of_le hv (by decide))

theorem byteAt_of_slice {bytes : Bytes} {start : Nat} {b : UInt8}
    (h : slice bytes start 1 = [b]) : byteAt bytes start = b := by
  unfold byteAt
  rw [h]
  rfl

/-- The fields of a layout are the only spelling of the values read from them. -/
theorem slice_of_u64At {bytes : Bytes} {start : Nat} (h : start + 8 ≤ bytes.length) :
    slice bytes start 8 = toBE 8 (u64At bytes start) := by
  have hlt := ofBE_lt (slice bytes start 8)
  rw [length_slice h] at hlt
  apply slice_eq_toBE h
  unfold u64At
  rw [Fin.val_ofNat, Nat.mod_eq_of_lt (by omega)]

theorem slice_of_u32At {bytes : Bytes} {start : Nat} (h : start + 4 ≤ bytes.length) :
    slice bytes start 4 = toBE 4 (u32At bytes start) := by
  have hlt := ofBE_lt (slice bytes start 4)
  rw [length_slice h] at hlt
  apply slice_eq_toBE h
  unfold u32At
  rw [Fin.val_ofNat, Nat.mod_eq_of_lt (by omega)]

theorem slice_of_u16At {bytes : Bytes} {start : Nat} (h : start + 2 ≤ bytes.length) :
    slice bytes start 2 = toBE 2 (u16At bytes start) := slice_eq_toBE h rfl

theorem slice_of_byteAt {bytes : Bytes} {start : Nat} (h : start + 1 ≤ bytes.length) :
    slice bytes start 1 = [byteAt bytes start] := by
  have hlen := length_slice h
  unfold byteAt
  obtain ⟨b, hb⟩ := List.length_eq_one_iff.mp hlen
  rw [hb]
  rfl

theorem slice_slice {bytes : Bytes} {start len start' len' : Nat} (h : start' + len' ≤ len) :
    slice (slice bytes start len) start' len' = slice bytes (start + start') len' := by
  unfold slice
  rw [List.drop_take, List.take_take, List.drop_drop, Nat.min_eq_left (by omega)]

/-- Consecutive fields of the given lengths. -/
def cut (bytes : Bytes) : Nat → List Nat → List Bytes
  | _, [] => []
  | start, len :: rest => slice bytes start len :: cut bytes (start + len) rest

theorem flatten_cut (bytes : Bytes) (start : Nat) (lens : List Nat) :
    (cut bytes start lens).flatten = slice bytes start lens.sum := by
  induction lens generalizing start with
  | nil => simp [cut, slice]
  | cons len rest ih =>
    rw [cut, List.flatten_cons, ih, List.sum_cons, slice_add]

theorem cut_append (a b : Bytes) (start : Nat) (lens : List Nat) :
    cut (a ++ b) (a.length + start) lens = cut b start lens := by
  induction lens generalizing start with
  | nil => rfl
  | cons len rest ih =>
    have hrest := ih (start + len)
    rw [← Nat.add_assoc] at hrest
    rw [cut, cut, hrest, slice_skip (by omega), Nat.add_sub_cancel_left]

/-- A layout is cut into the fields that it was put together from. -/
theorem cut_flatten (fields : List Bytes) :
    cut fields.flatten 0 (fields.map List.length) = fields := by
  induction fields with
  | nil => rfl
  | cons field rest ih =>
    have hrest := cut_append field rest.flatten 0 (rest.map List.length)
    rw [Nat.add_zero, ih] at hrest
    rw [List.flatten_cons, List.map_cons, cut, slice_head rfl, Nat.zero_add, hrest]

/-- The fields that an artifact starts with, whatever stands behind them. -/
theorem cut_flatten_append (fields : List Bytes) (rest : Bytes) :
    cut (fields.flatten ++ rest) 0 (fields.map List.length) = fields := by
  induction fields with
  | nil => rfl
  | cons field more ih =>
    have hmore := cut_append field (more.flatten ++ rest) 0 (more.map List.length)
    rw [Nat.add_zero, ih] at hmore
    rw [List.flatten_cons, List.append_assoc, List.map_cons, cut, slice_head rfl, Nat.zero_add,
      hmore]

end Wire
