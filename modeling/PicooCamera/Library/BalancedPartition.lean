import Mathlib

/-!
# Balanced partitions of an initial segment

`count` consecutive groups over `total` items, the first `total % count` of
them one item larger than the others. `groupStart` is the closed form of the
running start index, and `groupIndexOf` the arithmetic lookup of an item.
-/

namespace PicooCamera.Library

/-- The first item of group `ix`, for groups of `base` items of which the first `larger`
hold one more. -/
def groupStart (base larger ix : Nat) : Nat := ix * base + min ix larger

@[simp] theorem groupStart_zero (base larger : Nat) : groupStart base larger 0 = 0 := by
  simp [groupStart]

theorem groupStart_succ (base larger ix : Nat) :
    groupStart base larger (ix + 1) =
      groupStart base larger ix + (base + if ix < larger then 1 else 0) := by
  unfold groupStart
  rw [Nat.succ_mul]
  by_cases h : ix < larger
  · rw [if_pos h, Nat.min_eq_left (by omega), Nat.min_eq_left (by omega)]
    omega
  · rw [if_neg h, Nat.min_eq_right (by omega), Nat.min_eq_right (by omega)]
    omega

theorem groupStart_mono {base larger ix jx : Nat} (h : ix ≤ jx) :
    groupStart base larger ix ≤ groupStart base larger jx := by
  unfold groupStart
  have hmul : ix * base ≤ jx * base := Nat.mul_le_mul_right base h
  have hmin : min ix larger ≤ min jx larger := by omega
  omega

theorem groupStart_count {total count : Nat} (hcount : 0 < count) :
    groupStart (total / count) (total % count) count = total := by
  have hlt : total % count < count := Nat.mod_lt _ hcount
  have hdiv := Nat.div_add_mod total count
  unfold groupStart
  rw [Nat.min_eq_right (Nat.le_of_lt hlt)]
  exact hdiv

theorem groupStart_unique {base larger ix jx item : Nat}
    (hix : groupStart base larger ix ≤ item) (hix' : item < groupStart base larger (ix + 1))
    (hjx : groupStart base larger jx ≤ item) (hjx' : item < groupStart base larger (jx + 1)) :
    ix = jx := by
  by_contra hne
  rcases Nat.lt_or_gt_of_ne hne with hlt | hgt
  · have hmono := @groupStart_mono base larger (ix + 1) jx hlt
    omega
  · have hmono := @groupStart_mono base larger (jx + 1) ix hgt
    omega

/-- The group of an item, by division. -/
def groupIndexOf (base larger item : Nat) : Nat :=
  if item < larger * (base + 1) then item / (base + 1)
  else larger + (item - larger * (base + 1)) / base

private theorem div_mul_bounds (item size : Nat) (hsize : 0 < size) :
    item / size * size ≤ item ∧ item < item / size * size + size := by
  have hdiv := Nat.div_add_mod item size
  have hmod : item % size < size := Nat.mod_lt _ hsize
  rw [Nat.mul_comm] at hdiv
  omega

theorem groupIndexOf_spec {base : Nat} (larger : Nat) (hbase : 0 < base) (item : Nat) :
    groupStart base larger (groupIndexOf base larger item) ≤ item ∧
      item < groupStart base larger (groupIndexOf base larger item + 1) := by
  rw [groupStart_succ]
  unfold groupIndexOf
  by_cases h : item < larger * (base + 1)
  · rw [if_pos h]
    have hix : item / (base + 1) < larger := Nat.div_lt_of_lt_mul (by rwa [Nat.mul_comm])
    have hbounds := div_mul_bounds item (base + 1) (by omega)
    have hstart : groupStart base larger (item / (base + 1)) =
        item / (base + 1) * (base + 1) := by
      unfold groupStart
      rw [Nat.min_eq_left (Nat.le_of_lt hix), Nat.mul_succ]
    rw [hstart, if_pos hix]
    omega
  · rw [if_neg h]
    have hbounds := div_mul_bounds (item - larger * (base + 1)) base hbase
    have hstart : groupStart base larger (larger + (item - larger * (base + 1)) / base) =
        larger * (base + 1) + (item - larger * (base + 1)) / base * base := by
      unfold groupStart
      rw [Nat.min_eq_right (Nat.le_add_right _ _), Nat.add_mul, Nat.mul_succ]
      omega
    rw [hstart, if_neg (Nat.not_lt.mpr (Nat.le_add_right _ _))]
    omega

theorem groupIndexOf_lt {total count item : Nat} (hcount : 0 < count)
    (hbase : 0 < total / count) (hitem : item < total) :
    groupIndexOf (total / count) (total % count) item < count := by
  by_contra hge
  have hspec := (groupIndexOf_spec (total % count) hbase item).1
  have hmono := @groupStart_mono (total / count) (total % count) _ _ (Nat.not_lt.mp hge)
  rw [groupStart_count hcount] at hmono
  omega

end PicooCamera.Library
