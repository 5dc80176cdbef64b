/-
What the two searches along voltage 0 find, for every row of counts, and where
the eye centre lies between them.
-/
import UfsTools.EyeVerdict

namespace UfsTools

open CLib PyText NumberFormat

variable {R : Type} [NumberFormat R]

/-- The timing `k` steps from the middle. -/
def EyeDirection.outward : EyeDirection → Nat → Int
  | .right, k => k
  | .left, k => -k

/-- A count that says the eye is closed. -/
def HasErrors (count : Int) : Prop := 0 < count ∧ count ≠ invalidErrorCount

/-- Outwards from the middle a point without a measurement is met, and no
errors before it. -/
def MissingMet (count : Int → Int) (steps : Int) (direction : EyeDirection) :
    Prop :=
  ∃ k : Nat, (k : Int) ≤ steps ∧
    count (direction.outward k) = invalidErrorCount ∧
      ∀ j < k, ¬ HasErrors (count (direction.outward j))

/-- The greatest interval of timings around 0 without an error. -/
structure EyeInterval (count : Int → Int) (steps left right : Int) : Prop where
  inside : -steps ≤ left ∧ right ≤ steps
  middle : left ≤ 0 ∧ 0 ≤ right
  free : ∀ t, left ≤ t → t ≤ right → count t = 0
  greatest : ∀ a b, -steps ≤ a → a ≤ 0 → 0 ≤ b → b ≤ steps →
    (∀ t, a ≤ t → t ≤ b → count t = 0) → left ≤ a ∧ b ≤ right

/-- The greatest interval is the only one. -/
theorem EyeInterval.unique {count : Int → Int}
    {steps left right left' right' : Int}
    (h : EyeInterval count steps left right)
    (h' : EyeInterval count steps left' right') :
    left = left' ∧ right = right' := by
  obtain ⟨hleft, hright⟩ := h.greatest left' right' h'.inside.1 h'.middle.1
    h'.middle.2 h'.inside.2 h'.free
  obtain ⟨hleft', hright'⟩ := h'.greatest left right h.inside.1 h.middle.1
    h.middle.2 h.inside.2 h.free
  exact ⟨le_antisymm hleft hleft', le_antisymm hright' hright⟩

/-! One search. -/

section

variable {laneData : Text → Option Int} {count : Int → Int}
  {direction : EyeDirection}

theorem searchBoundary_clear {atEnd : Int} {front rest : List Int}
    (hfront : ∀ t ∈ front, laneData (pointKey t 0) = some 0) :
    searchBoundary laneData direction atEnd (front ++ rest) =
      searchBoundary laneData direction atEnd rest := by
  induction front with
  | nil => rfl
  | cons t front ih =>
      rw [List.forall_mem_cons] at hfront
      rw [List.cons_append, searchBoundary, hfront.1]
      simp [invalidErrorCount, ih hfront.2]

theorem timingRange_eq (n : Nat) (direction : EyeDirection) :
    timingRange n direction =
      (List.range (n + 1)).map direction.outward := by
  cases direction with
  | right => simp [timingRange, pyRange, EyeDirection.outward]
  | left => simp [timingRange, pyRange, EyeDirection.outward]

theorem boundaryMax_eq (n : Nat) (direction : EyeDirection) :
    boundaryMax n direction = direction.outward n := by
  cases direction <;> rfl

/-- One step back, but not past the middle. -/
theorem boundaryBefore_outward (k : Nat) (direction : EyeDirection) :
    boundaryBefore (direction.outward k) direction =
      direction.outward (k - 1) := by
  cases direction with
  | right =>
      simp only [boundaryBefore, EyeDirection.outward]
      split_ifs <;> omega
  | left =>
      simp only [boundaryBefore, EyeDirection.outward]
      split_ifs <;> omega

/-- A property holds up to `n` or fails somewhere first. -/
theorem all_or_first {P : Nat → Prop} (n : Nat) :
    (∀ k ≤ n, P k) ∨ ∃ k ≤ n, ¬ P k ∧ ∀ j < k, P j := by
  induction n with
  | zero =>
      by_cases h : P 0
      · refine .inl fun k hk => ?_
        rwa [Nat.le_zero.mp hk]
      · exact .inr ⟨0, le_rfl, h, fun j hj => absurd hj (Nat.not_lt_zero j)⟩
  | succ n ih =>
      rcases ih with hall | ⟨k, hk, hfirst⟩
      · by_cases h : P (n + 1)
        · refine .inl fun k hk => ?_
          rcases Nat.le_succ_iff.mp hk with hle | rfl
          · exact hall k hle
          · exact h
        · exact .inr ⟨n + 1, le_rfl, h,
            fun j hj => hall j (Nat.le_of_lt_succ hj)⟩
      · exact .inr ⟨k, hk.trans (Nat.le_succ n), hfirst⟩

variable {p : EomPlot R} {n : Nat}

/-- Every timing up to `n` steps from the middle has a count. -/
def RowCounted (laneData : Text → Option Int) (count : Int → Int) (n : Nat) :
    Prop :=
  ∀ direction : EyeDirection, ∀ k ≤ n,
    laneData (pointKey (direction.outward k) 0) =
      some (count (direction.outward k))

/-- No errors up to the end of the grid. -/
theorem findEyeWidthBoundary_clear (hsteps : p.timingMaxSteps = n)
    (hrow : RowCounted laneData count n)
    (hclear : ∀ k ≤ n, count (direction.outward k) = 0) :
    findEyeWidthBoundary p laneData direction =
      some (some (direction.outward n)) := by
  have hall : ∀ t ∈ (List.range (n + 1)).map direction.outward,
      laneData (pointKey t 0) = some 0 := by
    intro t ht
    obtain ⟨k, hk, rfl⟩ := List.mem_map.mp ht
    have hle := Nat.le_of_lt_succ (List.mem_range.mp hk)
    rw [hrow direction k hle, hclear k hle]
  rw [findEyeWidthBoundary, hsteps, timingRange_eq, boundaryMax_eq,
    ← List.append_nil ((List.range (n + 1)).map direction.outward),
    searchBoundary_clear hall, searchBoundary]

/-- The first count that is not zero decides. -/
theorem findEyeWidthBoundary_first (hsteps : p.timingMaxSteps = n)
    (hrow : RowCounted laneData count n) {k : Nat} (hk : k ≤ n)
    (hpos : 0 < count (direction.outward k))
    (hclear : ∀ j < k, count (direction.outward j) = 0) :
    findEyeWidthBoundary p laneData direction = some
      (if count (direction.outward k) = invalidErrorCount then none
      else some (direction.outward (k - 1))) := by
  have hsplit : List.range (n + 1) =
      List.range k ++ k :: (List.range (n - k)).map (k + 1 + ·) := by
    obtain ⟨m, rfl⟩ := Nat.exists_eq_add_of_le hk
    rw [Nat.add_assoc, List.range_add, List.range_succ_eq_map,
      Nat.add_sub_cancel_left]
    simp [Function.comp_def, Nat.add_assoc, Nat.add_comm 1]
  have hfront : ∀ t ∈ (List.range k).map direction.outward,
      laneData (pointKey t 0) = some 0 := by
    intro t ht
    obtain ⟨j, hj, rfl⟩ := List.mem_map.mp ht
    have hlt := List.mem_range.mp hj
    rw [hrow direction j (hlt.le.trans hk), hclear j hlt]
  rw [findEyeWidthBoundary, hsteps, timingRange_eq, hsplit, List.map_append,
    searchBoundary_clear hfront, List.map_cons, searchBoundary,
    hrow direction k hk]
  simp only [Option.bind_eq_bind, Option.bind_some, boundaryBefore_outward,
    gt_iff_lt, if_pos hpos]
  split_ifs <;> rfl

/-- A count is a number of errors; none is negative. -/
def CountsNonneg (count : Int → Int) (n : Nat) : Prop :=
  ∀ direction : EyeDirection, ∀ k ≤ n, 0 ≤ count (direction.outward k)

theorem findEyeWidthBoundary_answers (hsteps : p.timingMaxSteps = n)
    (hrow : RowCounted laneData count n) (direction : EyeDirection) :
    ∃ boundary, findEyeWidthBoundary p laneData direction = some boundary := by
  apply Option.isSome_iff_exists.mp
  apply isSome_searchBoundary
  intro t ht
  rw [hsteps, timingRange_eq] at ht
  obtain ⟨k, hk, rfl⟩ := List.mem_map.mp ht
  rw [hrow direction k (Nat.le_of_lt_succ (List.mem_range.mp hk))]
  rfl

theorem findEyeWidthBoundary_of_missing (hsteps : p.timingMaxSteps = n)
    (hrow : RowCounted laneData count n) (hcounts : CountsNonneg count n)
    (h : MissingMet count n direction) :
    findEyeWidthBoundary p laneData direction = some none := by
  obtain ⟨k, hk, hmissing, hbefore⟩ := h
  have hkn : k ≤ n := by exact_mod_cast hk
  rcases all_or_first (P := fun k => count (direction.outward k) = 0) n with
    hall | ⟨first, hfirst, hne, hclear⟩
  · have hzero := hall k hkn
    rw [hmissing] at hzero
    contradiction
  · have hpos := lt_of_le_of_ne (hcounts direction first hfirst) (Ne.symm hne)
    have hinvalid : count (direction.outward first) = invalidErrorCount := by
      rcases lt_trichotomy first k with hlt | rfl | hgt
      · by_contra hvalid
        exact hbefore first hlt ⟨hpos, hvalid⟩
      · exact hmissing
      · have hzero := hclear k hgt
        rw [hmissing] at hzero
        contradiction
    rw [findEyeWidthBoundary_first hsteps hrow hfirst hpos hclear,
      if_pos hinvalid]

theorem outward_zero (direction : EyeDirection) :
    direction.outward 0 = 0 := by
  cases direction <;> rfl

/-- The search returns the last timing without an error. -/
theorem findEyeWidthBoundary_of_seen (hsteps : p.timingMaxSteps = n)
    (hrow : RowCounted laneData count n) (hcounts : CountsNonneg count n)
    (hmiddle : count 0 = 0) (h : ¬ MissingMet count n direction) :
    ∃ m ≤ n, findEyeWidthBoundary p laneData direction =
        some (some (direction.outward m)) ∧
      (∀ j ≤ m, count (direction.outward j) = 0) ∧
        (m = n ∨ count (direction.outward (m + 1)) ≠ 0) := by
  rcases all_or_first (P := fun k => count (direction.outward k) = 0) n with
    hall | ⟨first, hfirst, hne, hclear⟩
  · exact ⟨n, le_rfl, findEyeWidthBoundary_clear hsteps hrow hall, hall,
      .inl rfl⟩
  · have hpos := lt_of_le_of_ne (hcounts direction first hfirst) (Ne.symm hne)
    have hvalid : count (direction.outward first) ≠ invalidErrorCount := by
      intro hmissing
      refine h ⟨first, by exact_mod_cast hfirst, hmissing, ?_⟩
      intro j hj herrors
      exact absurd (hclear j hj) herrors.1.ne'
    cases first with
    | zero => exact absurd ((outward_zero direction).symm ▸ hmiddle) hne
    | succ m =>
        refine ⟨m, by omega, ?_, fun j hj => hclear j (by omega), .inr hne⟩
        rw [findEyeWidthBoundary_first hsteps hrow hfirst hpos hclear,
          if_neg hvalid, Nat.add_sub_cancel]

/-- Errors in the middle stop both searches there. -/
theorem findEyeWidthBoundary_of_errors (hsteps : p.timingMaxSteps = n)
    (hrow : RowCounted laneData count n) (h : HasErrors (count 0)) :
    findEyeWidthBoundary p laneData direction = some (some 0) := by
  have hmiddle := outward_zero direction
  rw [findEyeWidthBoundary_first hsteps hrow (Nat.zero_le n)
    (hmiddle.symm ▸ h.1) (fun j hj => absurd hj (Nat.not_lt_zero j)), hmiddle,
    if_neg h.2]

end

/-! Both searches. -/

/-- Two runs from the middle that end at an error or at the grid make the
greatest interval. -/
theorem eyeInterval_of_runs {count : Int → Int} {n m k : Nat} (hm : m ≤ n)
    (hk : k ≤ n) (hright : ∀ j ≤ m, count (j : Int) = 0)
    (hleft : ∀ j ≤ k, count (-(j : Int)) = 0)
    (hrightEnd : m = n ∨ count ((m : Int) + 1) ≠ 0)
    (hleftEnd : k = n ∨ count (-((k : Int) + 1)) ≠ 0) :
    EyeInterval count n (-(k : Int)) m := by
  constructor
  · omega
  · omega
  · intro t hlo hhi
    rcases le_total 0 t with hpos | hneg
    · have ht := hright t.toNat (by omega)
      rwa [Int.toNat_of_nonneg hpos] at ht
    · have ht := hleft (-t).toNat (by omega)
      rwa [Int.toNat_of_nonneg (by omega), neg_neg] at ht
  · intro a b ha ha' hb hb' hfree
    constructor
    · by_contra hlt
      rcases hleftEnd with rfl | hne
      · omega
      · exact hne (hfree _ (by omega) (by omega))
    · by_contra hlt
      rcases hrightEnd with rfl | hne
      · omega
      · exact hne (hfree _ (by omega) (by omega))

/-- The middle of an interval, rounded towards its right end. -/
def eyeMiddle (left right : Int) : Int := left + (right - left + 1).tdiv 2

theorem eyeMiddle_between {left right : Int} (h : left ≤ right) :
    left ≤ eyeMiddle left right ∧ eyeMiddle left right ≤ right ∧
      0 ≤ (eyeMiddle left right - left) - (right - eyeMiddle left right) ∧
        (eyeMiddle left right - left) - (right - eyeMiddle left right) ≤ 1 := by
  have hhalf : (right - left + 1).tdiv 2 = (right - left + 1) / 2 :=
    Int.tdiv_eq_ediv_of_nonneg (by omega)
  rw [eyeMiddle, hhalf]
  omega

/-- Half of an integer, without what is behind the point. -/
theorem truncate_half (n : Int) : truncate (n / 2) = n.tdiv 2 := by
  have hfloor (n : Int) : ⌊(n : Rat) / 2⌋ = n / 2 := by
    exact_mod_cast Rat.floor_intCast_div_natCast n 2
  rw [truncate]
  split_ifs with hn
  · have hnonneg : 0 ≤ n := by
      have hcast : (0 : Rat) ≤ n := by linarith
      exact_mod_cast hcast
    rw [hfloor, Int.tdiv_eq_ediv_of_nonneg hnonneg]
  · have hneg : n ≤ 0 := by
      have hcast : (n : Rat) ≤ 0 := by linarith
      exact_mod_cast hcast
    have hopposite : (n : Rat) / 2 = -(((-n : Int) : Rat) / 2) := by
      push_cast
      ring
    rw [hopposite, Int.ceil_neg, hfloor, ← Int.tdiv_eq_ediv_of_nonneg (by omega),
      Int.neg_tdiv, neg_neg]

theorem intHalf_exact (n : Int) : intHalf Rat n = n.tdiv 2 := truncate_half n

/-- Small halves are floats. -/
theorem intHalf_of_small {n : Int} (h : |n| ≤ 2 ^ 52) :
    intHalf R n = n.tdiv 2 := by
  rw [intHalf, val_half n h, truncate_half]

/-- The centre two boundaries leave; a boundary not found leaves none. -/
def centerOf (R : Type) [NumberFormat R] :
    Option Int → Option Int → Option Int
  | some left, some right => some (left + intHalf R (right - left + 1))
  | _, _ => none

/-- An eye of one timing has its centre there. -/
theorem centerOf_middle : centerOf R (some 0) (some 0) = some 0 := by
  have hhalf : intHalf R (0 - 0 + 1) = 0 := intHalf_of_small (by norm_num)
  rw [centerOf, hhalf]
  rfl

variable {p : EyePlot R} {lane : Int} {right left : Option Int}

theorem calculateEyeWidthCenter_of_boundaries (h01 : lane = 0 ∨ lane = 1)
    (hright : findEyeWidthBoundary p.toEomPlot (p.lane lane).data .right =
      some right)
    (hleft : findEyeWidthBoundary p.toEomPlot (p.lane lane).data .left =
      some left) :
    ∃ q, calculateEyeWidthCenter p lane = some q ∧
      q.eyeCenter lane = centerOf R left right := by
  rw [calculateEyeWidthCenter, guard_bind_pos h01]
  simp only [hright, hleft, Option.bind_eq_bind, Option.bind_some]
  rcases h01 with rfl | rfl <;> cases right <;> cases left <;>
    exact ⟨_, rfl, rfl⟩

/-- The centre lies in the interval and as close to its middle as a timing
can. -/
structure EyeCentered (count : Int → Int) (left right center : Int) :
    Prop where
  inside : left ≤ center ∧ center ≤ right
  free : count center = 0
  balanced : 0 ≤ (center - left) - (right - center) ∧
    (center - left) - (right - center) ≤ 1

/-- The row of a lane along voltage 0 with its counts. -/
structure RowOf (p : EyePlot R) (lane : Int) (count : Int → Int) : Prop where
  lane01 : lane = 0 ∨ lane = 1
  steps : 1 ≤ p.timingMaxSteps
  counted : ∀ t, -p.timingMaxSteps ≤ t → t ≤ p.timingMaxSteps →
    (p.lane lane).data (pointKey t 0) = some (count t) ∧ 0 ≤ count t

theorem RowOf.rowCounted {count : Int → Int} (h : RowOf p lane count) :
    RowCounted (p.lane lane).data count p.timingMaxSteps.toNat ∧
      CountsNonneg count p.timingMaxSteps.toNat := by
  have hsteps := h.steps
  have hinside : ∀ direction : EyeDirection, ∀ k ≤ p.timingMaxSteps.toNat,
      -p.timingMaxSteps ≤ direction.outward k ∧
        direction.outward k ≤ p.timingMaxSteps := by
    intro direction k hk
    cases direction <;> simp only [EyeDirection.outward] <;> omega
  constructor
  · intro direction k hk
    obtain ⟨hlo, hhi⟩ := hinside direction k hk
    exact (h.counted _ hlo hhi).1
  · intro direction k hk
    obtain ⟨hlo, hhi⟩ := hinside direction k hk
    exact (h.counted _ hlo hhi).2

/-- For every row: where no search meets a missing point first, the boundaries
are the ends of the one greatest interval without errors around 0, with the
centre in its middle; a missing point met first leaves no centre; and errors at
0 put everything there. -/
theorem eyeWidth_and_center {p : EyePlot Rat} {count : Int → Int}
    (h : RowOf p lane count) :
    (count 0 = 0 →
      (∀ direction, ¬ MissingMet count p.timingMaxSteps direction) →
        ∃ left right center q,
          findEyeWidthBoundary p.toEomPlot (p.lane lane).data .left =
              some (some left) ∧
            findEyeWidthBoundary p.toEomPlot (p.lane lane).data .right =
              some (some right) ∧
            EyeInterval count p.timingMaxSteps left right ∧
            calculateEyeWidthCenter p lane = some q ∧
            q.eyeCenter lane = some center ∧
            EyeCentered count left right center) ∧
    ((∃ direction, MissingMet count p.timingMaxSteps direction) →
      ∃ q, calculateEyeWidthCenter p lane = some q ∧
        q.eyeCenter lane = none) ∧
    (HasErrors (count 0) →
      (∀ direction, findEyeWidthBoundary p.toEomPlot (p.lane lane).data
        direction = some (some 0)) ∧
        ∃ q, calculateEyeWidthCenter p lane = some q ∧
          q.eyeCenter lane = some 0) := by
  obtain ⟨hrow, hcounts⟩ := h.rowCounted
  have hsteps : p.timingMaxSteps = (p.timingMaxSteps.toNat : Int) :=
    (Int.toNat_of_nonneg (by have := h.steps; omega)).symm
  generalize p.timingMaxSteps.toNat = n at *
  rw [hsteps]
  refine ⟨?_, ?_, ?_⟩
  · intro hmiddle hseen
    obtain ⟨m, hm, hright, hmclear, hmend⟩ := findEyeWidthBoundary_of_seen
      hsteps hrow hcounts hmiddle (hseen .right)
    obtain ⟨k, hk, hleft, hkclear, hkend⟩ := findEyeWidthBoundary_of_seen
      hsteps hrow hcounts hmiddle (hseen .left)
    have hinterval := eyeInterval_of_runs hm hk hmclear hkclear
      (by exact_mod_cast hmend) (by exact_mod_cast hkend)
    obtain ⟨q, hq, hcenter⟩ :=
      calculateEyeWidthCenter_of_boundaries h.lane01 hright hleft
    have hordered := hinterval.middle.1.trans hinterval.middle.2
    obtain ⟨hlo, hhi, hbalanced⟩ := eyeMiddle_between hordered
    rw [centerOf, intHalf_exact] at hcenter
    exact ⟨_, _, _, q, hleft, hright, hinterval, hq, hcenter, ⟨hlo, hhi⟩,
      hinterval.free _ hlo hhi, hbalanced⟩
  · rintro ⟨direction, hmissing⟩
    have hlost := findEyeWidthBoundary_of_missing hsteps hrow hcounts hmissing
    obtain ⟨right, hright⟩ := findEyeWidthBoundary_answers hsteps hrow .right
    obtain ⟨left, hleft⟩ := findEyeWidthBoundary_answers hsteps hrow .left
    obtain ⟨q, hq, hcenter⟩ :=
      calculateEyeWidthCenter_of_boundaries h.lane01 hright hleft
    refine ⟨q, hq, hcenter.trans ?_⟩
    cases direction with
    | right =>
        obtain rfl : right = none := Option.some.inj (hright.symm.trans hlost)
        cases left <;> rfl
    | left =>
        obtain rfl : left = none := Option.some.inj (hleft.symm.trans hlost)
        rfl
  · intro herrors
    have hzero : ∀ direction, findEyeWidthBoundary p.toEomPlot
        (p.lane lane).data direction = some (some 0) :=
      fun _ => findEyeWidthBoundary_of_errors hsteps hrow herrors
    obtain ⟨q, hq, hcenter⟩ := calculateEyeWidthCenter_of_boundaries h.lane01
      (hzero .right) (hzero .left)
    exact ⟨hzero, q, hq, hcenter.trans centerOf_middle⟩

/-- A lane of three timings, measured once. -/
def threeTimings (count : Int → Int) : EyePlot Rat where
  lane0 := { data := fun key =>
    if key = pointKey (-1) 0 then some (count (-1))
    else if key = pointKey 0 0 then some (count 0)
    else if key = pointKey 1 0 then some (count 1)
    else none }
  timingMaxSteps := 1

/-- Errors at timing 1 only. -/
def errorsRight (t : Int) : Int := if t = 1 then 7 else 0

theorem eyeWidth_and_center_right :
    ∃ left right center q,
      findEyeWidthBoundary (threeTimings errorsRight).toEomPlot
          ((threeTimings errorsRight).lane 0).data .left =
          some (some left) ∧
        findEyeWidthBoundary (threeTimings errorsRight).toEomPlot
          ((threeTimings errorsRight).lane 0).data .right =
          some (some right) ∧
        EyeInterval errorsRight 1 left right ∧
        calculateEyeWidthCenter (threeTimings errorsRight) 0 = some q ∧
        q.eyeCenter 0 = some center ∧
        EyeCentered errorsRight left right center := by
  have hrow : RowOf (threeTimings errorsRight) 0 errorsRight := by
    refine ⟨.inl rfl, by decide, ?_⟩
    intro t hlo hhi
    have hsteps : (threeTimings errorsRight).timingMaxSteps = 1 := rfl
    have ht : t = -1 ∨ t = 0 ∨ t = 1 := by omega
    rcases ht with rfl | rfl | rfl <;> decide +kernel
  have hseen : ∀ direction, ¬ MissingMet errorsRight 1 direction := by
    rintro direction ⟨k, -, hmissing, -⟩
    rw [errorsRight] at hmissing
    split_ifs at hmissing <;> exact absurd hmissing (by decide)
  exact (eyeWidth_and_center hrow).1 rfl hseen

end UfsTools
