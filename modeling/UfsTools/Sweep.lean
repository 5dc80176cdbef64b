/-
The points that three nested counting loops pass, in their order: the list
before any position of the counters, and what the list of a whole sweep holds.
-/
import Mathlib

namespace Sweep

theorem range_self (x : Int) : Int.range x x = [] := by
  simp [Int.range]

/-- A longer range ends in its last number. -/
theorem range_succ {lo x : Int} (h : lo ≤ x) :
    Int.range lo (x + 1) = Int.range lo x ++ [x] := by
  have hcount : (x + 1 - lo).toNat = (x - lo).toNat + 1 := by omega
  have hlast : lo + ((x - lo).toNat : Int) = x := by omega
  rw [Int.range, Int.range, hcount, List.range_succ, List.map_append,
    List.map_singleton, hlast]

/-- A longer range goes on where the shorter one ends. -/
theorem range_grows {lo x y : Int} (h : x ≤ y) :
    Int.range lo x <+: Int.range lo y := by
  have hcount : min (x - lo).toNat (y - lo).toNat = (x - lo).toNat := by omega
  rw [Int.range, Int.range, ← hcount, ← List.take_range]
  exact (List.take_prefix _ _).map _

theorem length_range (lo hi : Int) :
    (Int.range lo hi).length = (hi - lo).toNat := by
  simp [Int.range]

/-- A range is in order. -/
theorem pairwise_range (lo hi : Int) : (Int.range lo hi).Pairwise (· < ·) := by
  rw [Int.range, List.pairwise_map]
  apply List.pairwise_lt_range.imp
  intro i j hij
  omega

abbrev Point := Int × Int × Int

/-- Strictly earlier in lexicographic order. -/
def Before (p q : Point) : Prop :=
  p.1 < q.1 ∨ p.1 = q.1 ∧ (p.2.1 < q.2.1 ∨ p.2.1 = q.2.1 ∧ p.2.2 < q.2.2)

/-- Half-open bounds of the three counters. -/
structure Box where
  xLow : Int
  xHigh : Int
  yLow : Int
  yHigh : Int
  zLow : Int
  zHigh : Int

namespace Box

variable (b : Box) {x y z : Int} {p : Point}

def Mem (p : Point) : Prop :=
  (b.xLow ≤ p.1 ∧ p.1 < b.xHigh) ∧ (b.yLow ≤ p.2.1 ∧ p.2.1 < b.yHigh) ∧
    b.zLow ≤ p.2.2 ∧ p.2.2 < b.zHigh

/-- The points of the innermost loop before its counter reaches `z`. -/
def row (x y z : Int) : List Point :=
  (Int.range b.zLow z).map fun w => (x, y, w)

def plane (x y : Int) : List Point :=
  (Int.range b.yLow y).flatMap fun v => b.row x v b.zHigh

def space (x : Int) : List Point :=
  (Int.range b.xLow x).flatMap fun u => b.plane u b.yHigh

/-- The points passed before the counters stand at `x`, `y` and `z`. -/
def visited (x y z : Int) : List Point :=
  b.space x ++ b.plane x y ++ b.row x y z

def points : List Point := b.space b.xHigh

theorem visited_start : b.visited b.xLow b.yLow b.zLow = [] := by
  simp [visited, space, plane, row, range_self]

/-- One more point of a row. -/
theorem visited_step (hz : b.zLow ≤ z) :
    b.visited x y (z + 1) = b.visited x y z ++ [(x, y, z)] := by
  simp [visited, row, range_succ hz]

/-- The end of a row is the start of the next. -/
theorem visited_row (hy : b.yLow ≤ y) :
    b.visited x y b.zHigh = b.visited x (y + 1) b.zLow := by
  simp [visited, plane, row, range_succ hy, range_self]

/-- The end of a plane is the start of the next. -/
theorem visited_plane (hx : b.xLow ≤ x) :
    b.visited x b.yHigh b.zLow = b.visited (x + 1) b.yLow b.zLow := by
  simp [visited, space, plane, row, range_succ hx, range_self]

/-- Behind the last row everything is visited. -/
theorem visited_end : b.visited b.xHigh b.yLow b.zLow = b.points := by
  simp [visited, points, plane, row, range_self]

theorem length_row (x y z : Int) : (b.row x y z).length = (z - b.zLow).toNat := by
  simp [row, length_range]

theorem length_plane (x y : Int) :
    (b.plane x y).length =
      (y - b.yLow).toNat * (b.zHigh - b.zLow).toNat := by
  simp [plane, length_row, length_range]

/-- A box has as many points as the product of its sides. -/
theorem length_space (x : Int) :
    (b.space x).length = (x - b.xLow).toNat *
      ((b.yHigh - b.yLow).toNat * (b.zHigh - b.zLow).toNat) := by
  simp [space, length_plane, length_range]

/-- A position inside the box leaves room for the point it stands at. -/
theorem length_visited_lt (hp : b.Mem (x, y, z)) :
    (b.visited x y z).length < b.points.length := by
  simp only [Mem] at hp
  obtain ⟨⟨hx, hx'⟩, ⟨hy, hy'⟩, hz, hz'⟩ := hp
  simp only [visited, points, List.length_append, length_space, length_plane,
    length_row]
  have hrow : (z - b.zLow).toNat < (b.zHigh - b.zLow).toNat := by omega
  have hplane : (y - b.yLow).toNat + 1 ≤ (b.yHigh - b.yLow).toNat := by omega
  have hspace : (x - b.xLow).toNat + 1 ≤ (b.xHigh - b.xLow).toNat := by omega
  have hrows := Nat.mul_le_mul_right (b.zHigh - b.zLow).toNat hplane
  have hplanes := Nat.mul_le_mul_right
    ((b.yHigh - b.yLow).toNat * (b.zHigh - b.zLow).toNat) hspace
  rw [Nat.add_mul, Nat.one_mul] at hrows hplanes
  omega

theorem row_grows {z' : Int} (h : z ≤ z') :
    b.row x y z <+: b.row x y z' :=
  (range_grows h).map _

theorem plane_grows {y' : Int} (h : y ≤ y') :
    b.plane x y <+: b.plane x y' :=
  (range_grows h).flatMap _

theorem space_grows {x' : Int} (h : x ≤ x') : b.space x <+: b.space x' :=
  (range_grows h).flatMap _

/-- Up to a position inside the box the sweep passes its first points. -/
theorem visited_grows (hp : b.Mem (x, y, z)) :
    b.visited x y (z + 1) <+: b.points := by
  simp only [Mem] at hp
  obtain ⟨⟨hx, hx'⟩, ⟨hy, hy'⟩, hz, hz'⟩ := hp
  have hrow : b.visited x y (z + 1) <+: b.visited x (y + 1) b.zLow := by
    rw [← b.visited_row hy, visited, visited, List.prefix_append_right_inj]
    exact b.row_grows hz'
  have hplane : b.visited x (y + 1) b.zLow <+:
      b.visited (x + 1) b.yLow b.zLow := by
    rw [← b.visited_plane hx, visited, visited, List.append_assoc,
      List.append_assoc, List.prefix_append_right_inj]
    simpa [row, range_self] using b.plane_grows (x := x) hy'
  have hspace : b.visited (x + 1) b.yLow b.zLow <+: b.points := by
    simpa [visited, points, plane, row, range_self] using b.space_grows hx'
  exact hrow.trans (hplane.trans hspace)

/-- The points of a box are those within its bounds. -/
theorem mem_points_iff : p ∈ b.points ↔ b.Mem p := by
  obtain ⟨x, y, z⟩ := p
  simp only [points, space, plane, row, Mem, List.mem_flatMap, List.mem_map,
    Int.mem_range_iff, Prod.mk.injEq]
  constructor
  · rintro ⟨u, hu, v, hv, w, hw, rfl, rfl, rfl⟩
    exact ⟨hu, hv, hw⟩
  · rintro ⟨hx, hy, hz⟩
    exact ⟨x, hx, y, hy, z, hz, rfl, rfl, rfl⟩

/-- The points come in lexicographic order. -/
theorem pairwise_points : b.points.Pairwise Before := by
  rw [points, space, List.pairwise_flatMap]
  constructor
  · intro u _
    rw [plane, List.pairwise_flatMap]
    constructor
    · intro v _
      rw [row, List.pairwise_map]
      exact (pairwise_range _ _).imp fun hlt => .inr ⟨rfl, .inr ⟨rfl, hlt⟩⟩
    · refine (pairwise_range _ _).imp ?_
      intro v v' hlt p hp q hq
      obtain ⟨w, -, rfl⟩ := List.mem_map.mp hp
      obtain ⟨w', -, rfl⟩ := List.mem_map.mp hq
      exact .inr ⟨rfl, .inl hlt⟩
  · refine (pairwise_range _ _).imp ?_
    intro u u' hlt p hp q hq
    obtain ⟨v, -, hp⟩ := List.mem_flatMap.mp hp
    obtain ⟨v', -, hq⟩ := List.mem_flatMap.mp hq
    obtain ⟨w, -, rfl⟩ := List.mem_map.mp hp
    obtain ⟨w', -, rfl⟩ := List.mem_map.mp hq
    exact .inl hlt

theorem not_before_of_before {p q : Point} (h : Before p q) : ¬ Before q p := by
  simp only [Before] at h ⊢
  omega

/-- No point comes twice. -/
theorem nodup_points : b.points.Nodup := by
  apply b.pairwise_points.imp
  rintro p q hbefore rfl
  exact not_before_of_before hbefore hbefore

instance : DecidablePred b.Mem :=
  fun _ => inferInstanceAs (Decidable (_ ∧ _))

/-- The points of a box inside another are those of the other that are in it,
in the same order. -/
theorem points_eq_filter {b' : Box} (h : ∀ p, b.Mem p → b'.Mem p) :
    b.points = b'.points.filter fun p => b.Mem p := by
  have hperm : b.points.Perm (b'.points.filter fun p => b.Mem p) := by
    rw [List.perm_ext_iff_of_nodup b.nodup_points (b'.nodup_points.filter _)]
    intro p
    rw [List.mem_filter, mem_points_iff, mem_points_iff, decide_eq_true_iff]
    exact ⟨fun hp => ⟨h p hp, hp⟩, fun hp => hp.2⟩
  apply hperm.eq_of_pairwise _ b.pairwise_points
    (b'.pairwise_points.sublist List.filter_sublist)
  exact fun p q _ _ hpq hqp => absurd hqp (not_before_of_before hpq)

end Box

end Sweep
