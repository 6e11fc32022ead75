import ObswPus.Library.BigEndian

/-! # Big-endian serialisation

The helpers of `pus_bytes.h`. A pointer to octets is the list of octets it points
at; a `put` yields the octets it stores, a `get` reads those at the pointer.
-/
namespace ObswPus.Flight
open Library

def pusPutU8 (v : UInt8) : List UInt8 := [v]

def pusPutU16 (v : UInt16) : List UInt8 :=
  [((v >>> 8) &&& 0xFF).toUInt8, (v &&& 0xFF).toUInt8]

def pusPutU32 (v : UInt32) : List UInt8 :=
  [((v >>> 24) &&& 0xFF).toUInt8, ((v >>> 16) &&& 0xFF).toUInt8,
    ((v >>> 8) &&& 0xFF).toUInt8, (v &&& 0xFF).toUInt8]

def pusGetU8 (p : List UInt8) : UInt8 := p.getD 0 0

def pusGetU16 (p : List UInt8) : UInt16 :=
  ((p.getD 0 0).toUInt16 <<< 8) ||| (p.getD 1 0).toUInt16

def pusGetU32 (p : List UInt8) : UInt32 :=
  ((p.getD 0 0).toUInt32 <<< 24) ||| ((p.getD 1 0).toUInt32 <<< 16) |||
    ((p.getD 2 0).toUInt32 <<< 8) ||| (p.getD 3 0).toUInt32

def pusGetI16 (p : List UInt8) : Int16 := (pusGetU16 p).toInt16

def pusPutI16 (v : Int16) : List UInt8 := pusPutU16 v.toUInt16

/-- Stores through a pointer: `xs` replaces the octets of `buf` from index `off` on. -/
def storeAt (buf : List UInt8) (off : ℕ) (xs : List UInt8) : List UInt8 :=
  buf.take off ++ xs ++ buf.drop (off + xs.length)

@[simp] theorem length_pusPutU8 (v : UInt8) : (pusPutU8 v).length = 1 := by
  simp [pusPutU8]

@[simp] theorem length_pusPutU16 (v : UInt16) : (pusPutU16 v).length = 2 := by
  simp [pusPutU16]

@[simp] theorem length_pusPutU32 (v : UInt32) : (pusPutU32 v).length = 4 := by
  simp [pusPutU32]

@[simp] theorem length_pusPutI16 (v : Int16) : (pusPutI16 v).length = 2 := by
  simp [pusPutI16]

theorem storeAt_nil (buf : List UInt8) (off : ℕ) : storeAt buf off [] = buf := by
  rw [storeAt, List.append_nil, List.length_nil, Nat.add_zero, List.take_append_drop]

theorem length_storeAt_ge {buf : List UInt8} {off : ℕ} (xs : List UInt8)
    (hoff : off ≤ buf.length) : off + xs.length ≤ (storeAt buf off xs).length := by
  rw [storeAt, List.length_append, List.length_append, List.length_take_of_le hoff]
  exact Nat.le_add_right ..

theorem length_storeAt {buf xs : List UInt8} {off : ℕ} (h : off + xs.length ≤ buf.length) :
    (storeAt buf off xs).length = buf.length := by
  rw [storeAt, List.length_append, List.length_append, List.length_drop,
    List.length_take_of_le (by omega)]
  omega

theorem storeAt_storeAt (buf xs ys : List UInt8) (off : ℕ) (h : off ≤ buf.length) :
    storeAt (storeAt buf off xs) (off + xs.length) ys = storeAt buf off (xs ++ ys) := by
  have htake : (storeAt buf off xs).take (off + xs.length) = buf.take off ++ xs := by
    rw [storeAt, List.take_left']
    simp [h]
  have hdrop : (storeAt buf off xs).drop (off + xs.length + ys.length) =
      buf.drop (off + (xs ++ ys).length) := by
    rw [storeAt, ← List.drop_drop, List.drop_left' (by simp [h]), List.drop_drop,
      List.length_append]
    congr 1
    omega
  rw [storeAt, htake, hdrop, storeAt]
  simp only [List.append_assoc]

theorem take_storeAt_zero (buf xs : List UInt8) : (storeAt buf 0 xs).take xs.length = xs := by
  simp [storeAt]

@[simp] theorem pusGetU16_pusPutU16 (v : UInt16) (rest : List UInt8) :
    pusGetU16 (pusPutU16 v ++ rest) = v := by
  apply UInt16.toNat_inj.mp
  simp only [pusGetU16, pusPutU16, List.cons_append, List.getD_cons_zero, List.getD_cons_succ]
  rw [BigEndian.toNat_join16, BigEndian.toNat_high16, BigEndian.toNat_low16]
  omega

theorem pusPutU16_pusGetU16 (p : List UInt8) (h : 2 ≤ p.length) :
    pusPutU16 (pusGetU16 p) = p.take 2 := by
  rcases p with _ | ⟨a, _ | ⟨b, rest⟩⟩
  · exact absurd h (by simp)
  · exact absurd h (by simp)
  have hv := BigEndian.toNat_join16 a b
  have hb := b.toNat_lt
  simp only [pusPutU16, pusGetU16, List.getD_cons_zero, List.getD_cons_succ, List.take_succ_cons,
    List.take_zero, List.cons.injEq, and_true]
  constructor <;> apply UInt8.toNat_inj.mp
  · rw [BigEndian.toNat_high16, hv]
    omega
  · rw [BigEndian.toNat_low16, hv]
    omega

@[simp] theorem pusGetU32_pusPutU32 (v : UInt32) (rest : List UInt8) :
    pusGetU32 (pusPutU32 v ++ rest) = v := by
  have hv := v.toNat_lt
  apply UInt32.toNat_inj.mp
  simp only [pusGetU32, pusPutU32, List.cons_append, List.getD_cons_zero, List.getD_cons_succ]
  rw [BigEndian.toNat_join32, BigEndian.toNat_octet32 v 24 (by decide),
    BigEndian.toNat_octet32 v 16 (by decide), BigEndian.toNat_octet32 v 8 (by decide),
    BigEndian.toNat_low32]
  simp only [UInt32.reduceToNat]
  omega

theorem pusPutU32_pusGetU32 (p : List UInt8) (h : 4 ≤ p.length) :
    pusPutU32 (pusGetU32 p) = p.take 4 := by
  rcases p with _ | ⟨a, _ | ⟨b, _ | ⟨c, _ | ⟨d, rest⟩⟩⟩⟩
  iterate 4 · exact absurd h (by simp)
  have hv := BigEndian.toNat_join32 a b c d
  have ha := a.toNat_lt
  have hb := b.toNat_lt
  have hc := c.toNat_lt
  have hd := d.toNat_lt
  simp only [pusPutU32, pusGetU32, List.getD_cons_zero, List.getD_cons_succ, List.take_succ_cons,
    List.take_zero, List.cons.injEq, and_true]
  refine ⟨?_, ?_, ?_, ?_⟩ <;> apply UInt8.toNat_inj.mp
  · rw [BigEndian.toNat_octet32 _ 24 (by decide), hv]
    simp only [UInt32.reduceToNat]
    omega
  · rw [BigEndian.toNat_octet32 _ 16 (by decide), hv]
    simp only [UInt32.reduceToNat]
    omega
  · rw [BigEndian.toNat_octet32 _ 8 (by decide), hv]
    simp only [UInt32.reduceToNat]
    omega
  · rw [BigEndian.toNat_low32, hv]
    omega

end ObswPus.Flight
