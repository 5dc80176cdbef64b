/-
A report of ufseom is read back: no line of it is bad, and the lists of the
reader hold the results where the plot expects them.
-/
import UfsTools.ReportLines

namespace UfsTools

open CLib PyText NumberFormat

variable {R : Type} [NumberFormat R]

/-- What a report says. -/
structure EomLog where
  side : Text
  gear : Int
  timingMaxSteps : Int
  timingMaxOffset : Int
  voltageMaxSteps : Int
  voltageMaxOffset : Int
  results : List EomResult

def EomPlot.lane (p : EomPlot R) (lane : Int) : LanePlot :=
  if lane = 0 then p.lane0 else p.lane1

/-- The place of a point in the lists of its lane. -/
def gridIndex (timingMaxSteps voltageMaxSteps timing voltage : Int) : Nat :=
  ((timing + timingMaxSteps) * (2 * voltageMaxSteps + 1) +
    (voltage + voltageMaxSteps)).toNat

structure LanePlot.Entry (l : LanePlot) (i : Nat)
    (timing voltage errorCount : Int) : Prop where
  timing : l.timingList[i]? = some timing
  voltage : l.voltageList[i]? = some voltage
  errorCount : l.errorCountList[i]? = some errorCount

/-- The reader has made of a report what it says.  The gear is noted with the
first record. -/
structure Recovers (p : EomPlot R) (log : EomLog) : Prop where
  clean : p.badDataCount = 0
  side : p.side = log.side
  gear : log.results ≠ [] → p.gear = log.gear
  timingMaxSteps : p.timingMaxSteps = log.timingMaxSteps
  timingMaxOffset : p.timingMaxOffset = log.timingMaxOffset
  voltageMaxSteps : p.voltageMaxSteps = log.voltageMaxSteps
  voltageMaxOffset : p.voltageMaxOffset = log.voltageMaxOffset
  lanes : ∀ lane, lane ∈ p.laneList ↔ ∃ e ∈ log.results, e.lane = lane
  distinct : p.laneList.Nodup
  entries : ∀ lane ∈ p.laneList, ∀ timing voltage,
    -log.timingMaxSteps ≤ timing → timing ≤ log.timingMaxSteps →
    -log.voltageMaxSteps ≤ voltage → voltage ≤ log.voltageMaxSteps →
    ∃ errorCount,
      (p.lane lane).Entry
        (gridIndex log.timingMaxSteps log.voltageMaxSteps timing voltage)
        timing voltage errorCount ∧
      (∀ e ∈ log.results, e.point = (lane, timing, voltage) →
        errorCount = e.errorCnt) ∧
      ((∀ e ∈ log.results, e.point ≠ (lane, timing, voltage)) →
        errorCount = invalidErrorCount)

/-! The keys of the dictionaries. -/

theorem showInt_injective : Function.Injective showInt := by
  intro a b h
  have ha := pyInt_showInt a
  rw [h, pyInt_showInt] at ha
  exact (Option.some.inj ha).symm

theorem takeWhile_pointKey (timing voltage : Int) :
    ((pointKey timing voltage).drop 2).takeWhile (fun c => decide (c ≠ '#')) =
      showInt timing := by
  have hdrop : (pointKey timing voltage).drop 2 =
      showInt timing ++ (lit "#v#" ++ showInt voltage) := by
    simp [pointKey, lit]
  rw [hdrop, List.takeWhile_append_of_pos]
  · simp [lit]
  · intro c hc
    rw [decide_eq_true_eq]
    rintro rfl
    exact absurd ((isNumeral_showInt timing).chars _ hc) (by decide)

theorem pointKey_injective {timing voltage timing' voltage' : Int}
    (h : pointKey timing voltage = pointKey timing' voltage') :
    timing = timing' ∧ voltage = voltage' := by
  have htiming : timing = timing' := by
    apply showInt_injective
    rw [← takeWhile_pointKey timing voltage, h, takeWhile_pointKey]
  subst htiming
  exact ⟨rfl, showInt_injective (List.append_cancel_left h)⟩

/-! The records. -/

section Records

variable {p q : EomPlot R} {g : Int} {e : EomResult} {done : List EomResult}

/-- What a good record does. -/
def EomPlot.withRecord (p : EomPlot R) (gear : Int) (e : EomResult) :
    EomPlot R :=
  let p := { p.listLane e.lane with gear := gear }
  if e.lane = 0 then
    { p with lane0 := p.lane0.record e.timing e.volt e.errorCnt }
  else { p with lane1 := p.lane1.record e.timing e.volt e.errorCnt }

theorem readRecord_words (hgear : gearOf p.ufsGear = some g) (hhigh : 4 ≤ g)
    (hlane : e.lane = 0 ∨ e.lane = 1) :
    readRecord (recordWords e) p = .ok (p.withRecord g e) := by
  have hnumbers : readNumbers (recordWords e) (p.listLane e.lane) =
      some (e.timing, e.volt, e.errorCnt, g) := by
    simp [readNumbers, recordWords, stringToNumber_showInt, EomPlot.listLane,
      hgear]
  have hlow : ¬ g < 4 := by omega
  simp only [readRecord, recordWords, List.getElem?_cons_succ,
    List.getElem?_cons_zero, Option.bind_some, pyInt_showInt]
  rw [← recordWords, hnumbers]
  simp only [if_neg hlow, EomPlot.withRecord]
  rcases hlane with hlane | hlane
  · rw [if_pos hlane, if_pos hlane]
  · rw [if_neg (by omega), if_pos hlane, if_neg (by omega)]

/-- The records of `done` have been read since `p`. -/
structure Collected (p : EomPlot R) (g : Int) (done : List EomResult)
    (q : EomPlot R) : Prop where
  frame : ∃ data0 data1 lanes gear, q = { p with
    lane0 := { data := data0 }, lane1 := { data := data1 }
    laneList := lanes, gear := gear }
  gear : done ≠ [] → q.gear = g
  lanes : ∀ lane, lane ∈ q.laneList ↔ ∃ e ∈ done, e.lane = lane
  distinct : q.laneList.Nodup
  measured : ∀ e ∈ done,
    (q.lane e.lane).data (pointKey e.timing e.volt) = some e.errorCnt
  missing : ∀ lane timing voltage, lane = 0 ∨ lane = 1 →
    (∀ e ∈ done, e.point ≠ (lane, timing, voltage)) →
    (q.lane lane).data (pointKey timing voltage) = none

theorem lane_withRecord {lane : Int} (hlane : lane = 0 ∨ lane = 1)
    (he : e.lane = 0 ∨ e.lane = 1) :
    (q.withRecord g e).lane lane =
      if e.lane = lane then
        (q.lane lane).record e.timing e.volt e.errorCnt
      else q.lane lane := by
  rcases hlane with rfl | rfl
  · rcases he with he | he
    · simp [EomPlot.withRecord, EomPlot.lane, EomPlot.listLane, he]
    · simp [EomPlot.withRecord, EomPlot.lane, EomPlot.listLane, he]
  · rcases he with he | he
    · simp [EomPlot.withRecord, EomPlot.lane, EomPlot.listLane, he]
    · simp [EomPlot.withRecord, EomPlot.lane, EomPlot.listLane, he]

theorem laneList_withRecord :
    (q.withRecord g e).laneList = (q.listLane e.lane).laneList := by
  simp only [EomPlot.withRecord]
  split
  · rfl
  · rfl

theorem mem_listLane {lane lane' : Int} :
    lane' ∈ (q.listLane lane).laneList ↔ lane' ∈ q.laneList ∨ lane' = lane := by
  simp only [EomPlot.listLane]
  split
  · next hmem =>
      constructor
      · exact .inl
      · rintro (h | rfl)
        · exact h
        · exact hmem
  · simp

theorem nodup_listLane {lane : Int} (h : q.laneList.Nodup) :
    (q.listLane lane).laneList.Nodup := by
  simp only [EomPlot.listLane]
  split
  · exact h
  · next hnot =>
      rw [List.nodup_append]
      refine ⟨h, by simp, ?_⟩
      intro a ha b hb
      rw [List.mem_singleton.mp hb]
      rintro rfl
      exact hnot ha

/-- One more record, of a point that no earlier one has. -/
theorem Collected.step (hq : Collected p g done q)
    (hlanes : ∀ e ∈ done, e.lane = 0 ∨ e.lane = 1)
    (he : e.lane = 0 ∨ e.lane = 1) (hnew : ∀ e' ∈ done, e'.point ≠ e.point) :
    Collected p g (done ++ [e]) (q.withRecord g e) := by
  constructor
  · obtain ⟨data0, data1, lanes, gear, rfl⟩ := hq.frame
    simp only [EomPlot.withRecord]
    split
    · exact ⟨_, _, _, _, rfl⟩
    · exact ⟨_, _, _, _, rfl⟩
  · intro _
    simp only [EomPlot.withRecord]
    split
    · rfl
    · rfl
  · intro lane
    rw [laneList_withRecord, mem_listLane, hq.lanes]
    simp only [List.mem_append, List.mem_singleton, or_and_right, exists_or,
      exists_eq_left]
    rw [eq_comm (a := lane)]
  · rw [laneList_withRecord]
    exact nodup_listLane hq.distinct
  · intro e' he'
    rcases List.mem_append.mp he' with hold | hlast
    · rw [lane_withRecord (hlanes e' hold) he]
      split
      · next hsame =>
          rw [LanePlot.data_record, Function.update_of_ne, hq.measured e' hold]
          intro hkey
          obtain ⟨htiming, hvolt⟩ := pointKey_injective hkey
          apply hnew e' hold
          simp [EomResult.point, hsame, htiming, hvolt]
      · exact hq.measured e' hold
    · rw [List.mem_singleton.mp hlast, lane_withRecord he he, if_pos rfl,
        LanePlot.data_record, Function.update_self]
  · intro lane timing voltage hlane hnone
    have hold := hq.missing lane timing voltage hlane fun e' he' =>
      hnone e' (List.mem_append_left _ he')
    rw [lane_withRecord hlane he]
    split
    · next hsame =>
        rw [LanePlot.data_record, Function.update_of_ne, hold]
        intro hkey
        obtain ⟨rfl, rfl⟩ := pointKey_injective hkey
        apply hnone e (by simp)
        simp [EomResult.point, hsame]
    · exact hold

theorem collected_nil (p : EomPlot R) (g : Int)
    (hlane0 : p.lane0 = {}) (hlane1 : p.lane1 = {}) (hlanes : p.laneList = []) :
    Collected p g [] p := by
  constructor
  · cases p
    dsimp only at hlane0 hlane1 hlanes
    subst hlane0 hlane1 hlanes
    exact ⟨_, _, _, _, rfl⟩
  · simp
  · simp [hlanes]
  · simp [hlanes]
  · simp
  · intro lane timing voltage _ _
    rw [EomPlot.lane, hlane0, hlane1]
    split
    · rfl
    · rfl

/-- Reading the records of a report. -/
theorem foldlM_records (hgear : gearOf p.ufsGear = some g) (hhigh : 4 ≤ g)
    (rest : List EomResult)
    (hlanes : ∀ e ∈ done ++ rest, e.lane = 0 ∨ e.lane = 1)
    (hpoints : ((done ++ rest).map EomResult.point).Nodup)
    (hq : Collected p g done q) :
    ∃ q', (rest.map fun e => wordLine (recordWords e)).foldlM readLine q =
      .ok q' ∧ Collected p g (done ++ rest) q' := by
  induction rest generalizing done q with
  | nil => exact ⟨q, rfl, by rwa [List.append_nil]⟩
  | cons e rest ih =>
      have hufsGear : q.ufsGear = p.ufsGear := by
        obtain ⟨data0, data1, lanes, gear, rfl⟩ := hq.frame
        rfl
      have he : e.lane = 0 ∨ e.lane = 1 := hlanes e (by simp)
      have hnew : ∀ e' ∈ done, e'.point ≠ e.point := by
        intro e' he'
        rw [List.map_append, List.nodup_append] at hpoints
        exact hpoints.2.2 _ (List.mem_map_of_mem he') _ (by simp)
      have hstep := hq.step (fun e' he' => hlanes e' (by simp [he'])) he hnew
      rw [List.append_cons] at hlanes hpoints ⊢
      obtain ⟨q', hread, hcollected⟩ := ih hlanes hpoints hstep
      refine ⟨q', ?_, hcollected⟩
      rw [List.map_cons, List.foldlM_cons, readLine_recordWords,
        readRecord_words (by rw [hufsGear, hgear]) hhigh he]
      exact hread

end Records

/-! The lists. -/

theorem length_pyRange (lo hi : Int) : (pyRange lo hi).length = (hi - lo).toNat := by
  simp [pyRange]

theorem getElem?_pyRange {lo hi x : Int} (hlo : lo ≤ x) (hhi : x < hi) :
    (pyRange lo hi)[(x - lo).toNat]? = some x := by
  have hlt : (x - lo).toNat < (hi - lo).toNat := by omega
  rw [pyRange, List.getElem?_map, List.getElem?_range hlt]
  simp only [Option.map_some, Option.some.injEq]
  omega

/-- The cells of a table, row by row. -/
theorem getElem?_flatMap_map {α β γ : Type*} (f : α → β → γ) (ys : List β)
    {x : α} {y : β} {j : Nat} (hy : ys[j]? = some y) (xs : List α) (i : Nat)
    (hx : xs[i]? = some x) :
    (xs.flatMap fun x => ys.map (f x))[i * ys.length + j]? = some (f x y) := by
  have hj : j < ys.length := (List.getElem?_eq_some_iff.mp hy).1
  induction xs generalizing i with
  | nil => simp at hx
  | cons x' xs ih =>
      rw [List.flatMap_cons]
      cases i with
      | zero =>
          rw [List.getElem?_cons_zero, Option.some.injEq] at hx
          subst hx
          rw [Nat.zero_mul, Nat.zero_add, List.getElem?_append_left (by simpa),
            List.getElem?_map, hy]
          rfl
      | succ i =>
          rw [List.getElem?_cons_succ] at hx
          rw [List.getElem?_append_right (by rw [List.length_map, Nat.succ_mul]; omega),
            List.length_map,
            show (i + 1) * ys.length + j - ys.length = i * ys.length + j by
              rw [Nat.succ_mul]; omega]
          exact ih i hx

theorem getElem?_gridPoints {maxTiming maxVoltage timing voltage : Int}
    (htiming : -maxTiming ≤ timing ∧ timing ≤ maxTiming)
    (hvoltage : -maxVoltage ≤ voltage ∧ voltage ≤ maxVoltage) :
    (gridPoints maxTiming maxVoltage)[gridIndex maxTiming maxVoltage timing
      voltage]? = some (timing, voltage) := by
  have hrow : (pyRange (-maxTiming) (maxTiming + 1))[(timing -
      -maxTiming).toNat]? = some timing :=
    getElem?_pyRange htiming.1 (by omega)
  have hcell : (pyRange (-maxVoltage) (maxVoltage + 1))[(voltage -
      -maxVoltage).toNat]? = some voltage :=
    getElem?_pyRange hvoltage.1 (by omega)
  have hindex : gridIndex maxTiming maxVoltage timing voltage =
      (timing - -maxTiming).toNat *
          (pyRange (-maxVoltage) (maxVoltage + 1)).length +
        (voltage - -maxVoltage).toNat := by
    rw [length_pyRange, gridIndex]
    zify
    rw [Int.toNat_of_nonneg, Int.toNat_of_nonneg, Int.toNat_of_nonneg,
      Int.toNat_of_nonneg]
    · ring
    · omega
    · omega
    · omega
    · have hproduct : 0 ≤ (timing + maxTiming) * (2 * maxVoltage + 1) :=
        mul_nonneg (by omega) (by omega)
      omega
  rw [hindex]
  exact getElem?_flatMap_map Prod.mk _ hcell _ _ hrow

/-- What a lane has for a point. -/
def LanePlot.errorCount (l : LanePlot) (point : Int × Int) : Int :=
  (l.data (pointKey point.1 point.2)).getD invalidErrorCount

theorem errorCount_addPoint (l : LanePlot) (point point' : Int × Int) :
    (l.addPoint point).errorCount point' = l.errorCount point' := by
  simp only [LanePlot.errorCount, LanePlot.addPoint, Function.update_apply]
  split
  · next hsame => rw [hsame, Option.getD_some]
  · rfl

theorem foldl_addPoint (points : List (Int × Int)) (l : LanePlot) :
    (points.foldl LanePlot.addPoint l).timingList =
        l.timingList ++ points.map Prod.fst ∧
      (points.foldl LanePlot.addPoint l).voltageList =
        l.voltageList ++ points.map Prod.snd ∧
      (points.foldl LanePlot.addPoint l).errorCountList =
        l.errorCountList ++ points.map l.errorCount := by
  induction points generalizing l with
  | nil => simp
  | cons point points ih =>
      obtain ⟨htiming, hvoltage, herror⟩ := ih (l.addPoint point)
      have hsame : points.map (l.addPoint point).errorCount =
          points.map l.errorCount :=
        List.map_congr_left fun point' _ => errorCount_addPoint l point point'
      rw [List.foldl_cons, htiming, hvoltage, herror, hsame]
      simp [LanePlot.addPoint, LanePlot.errorCount]

/-- Nothing but the lists of the lanes differs. -/
def SameHeader (p q : EomPlot R) : Prop :=
  q = { p with lane0 := q.lane0, lane1 := q.lane1 }

theorem SameHeader.trans {p q r : EomPlot R} (hpq : SameHeader p q)
    (hqr : SameHeader q r) : SameHeader p r := by
  rw [SameHeader] at hpq hqr ⊢
  rw [hqr, hpq]

/-- Filling the lists of one lane leaves the other alone. -/
theorem fillLane_ok (p : EomPlot R) {lane : Int} (hlane : lane = 0 ∨ lane = 1) :
    ∃ q, fillLane p lane = .ok q ∧ SameHeader p q ∧
      ∀ lane', lane' = 0 ∨ lane' = 1 → q.lane lane' =
        if lane' = lane then p.points.foldl LanePlot.addPoint (p.lane lane')
        else p.lane lane' := by
  rcases hlane with rfl | rfl
  · refine ⟨_, if_pos rfl, rfl, ?_⟩
    rintro lane' (rfl | rfl)
    · rfl
    · rfl
  · refine ⟨_, (if_neg (by decide)).trans (if_pos rfl), rfl, ?_⟩
    rintro lane' (rfl | rfl)
    · rfl
    · rfl

theorem foldlM_fillLane {lanes : List Int} (p : EomPlot R)
    (hlanes : ∀ lane ∈ lanes, lane = 0 ∨ lane = 1) (hdistinct : lanes.Nodup) :
    ∃ q, lanes.foldlM fillLane p = .ok q ∧ SameHeader p q ∧
      ∀ lane, lane = 0 ∨ lane = 1 → q.lane lane =
        if lane ∈ lanes then p.points.foldl LanePlot.addPoint (p.lane lane)
        else p.lane lane := by
  induction lanes generalizing p with
  | nil => exact ⟨p, rfl, rfl, fun lane _ => (if_neg (by simp)).symm⟩
  | cons first lanes ih =>
      rw [List.nodup_cons] at hdistinct
      obtain ⟨q, hfill, hsame, hlane⟩ := fillLane_ok p (hlanes first (by simp))
      obtain ⟨r, hrest, hsame', hlane'⟩ := ih q
        (fun lane hl => hlanes lane (List.mem_cons_of_mem _ hl)) hdistinct.2
      have hpoints : q.points = p.points := by
        rw [hsame]
        rfl
      refine ⟨r, ?_, hsame.trans hsame', ?_⟩
      · rw [List.foldlM_cons, hfill]
        exact hrest
      · intro lane h01
        rw [hlane' lane h01, hlane lane h01, hpoints]
        by_cases hfirst : lane = first
        · subst hfirst
          rw [if_neg hdistinct.1, if_pos rfl, if_pos (by simp)]
        · rw [if_neg hfirst]
          simp [hfirst]

/-! The steps of a grid. -/

section Steps

variable {maxSteps maxOffset : Int}

theorem pyFloat_int {n : Int} (h : |n| ≤ 2 ^ 31) :
    pyFloat n = some (round n : R) := by
  have hsmall : |(n : Rat)| ≤ 2 ^ 64 := by
    have hcast : |(n : Rat)| ≤ 2 ^ 31 := by exact_mod_cast h
    exact hcast.trans (by norm_num)
  rw [pyFloat, fits _ hsmall]
  rfl

theorem val_round_int {n : Int} (h : |n| ≤ 2 ^ 31) : val (round n : R) = n :=
  val_int (h.trans (by norm_num))

/-- Limits that are positive values of an `int` have a step. -/
theorem timingStepOf_int (hsteps : 0 < maxSteps ∧ maxSteps ≤ 2 ^ 31)
    (hoffset : 0 < maxOffset ∧ maxOffset ≤ 2 ^ 31) :
    ∃ step : R, timingStepOf maxSteps maxOffset = some step ∧
      val step ≠ 0 := by
  have hsmall {n : Int} (h : 0 < n ∧ n ≤ 2 ^ 31) : |n| ≤ 2 ^ 31 := by
    rw [abs_of_pos h.1]
    exact h.2
  have hbounds {n : Int} (h : 0 < n ∧ n ≤ 2 ^ 31) :
      1 ≤ (n : Rat) ∧ (n : Rat) ≤ 2 ^ 31 := by
    exact_mod_cast h
  obtain ⟨hsteps1, hsteps2⟩ := hbounds hsteps
  obtain ⟨hoffset1, hoffset2⟩ := hbounds hoffset
  have hcent := val_near (R := R) (1 / 100) (by norm_num) (by norm_num)
  set cent : Rat := val (round (1 / 100) : R)
  have hproduct : 1 / 200 ≤ maxOffset * cent ∧ maxOffset * cent ≤ 2 ^ 26 := by
    constructor <;> nlinarith
  have hmul := val_near (R := R) (maxOffset * cent)
    (le_trans (by norm_num) hproduct.1) (hproduct.2.trans (by norm_num))
  set offset : Rat := val (round (maxOffset * cent) : R)
  have hquotient : 1 / 2 ^ 64 ≤ offset / maxSteps ∧
      offset / maxSteps ≤ 2 ^ 64 := by
    have hpos : (0 : Rat) < maxSteps := by linarith
    rw [le_div_iff₀ hpos, div_le_iff₀ hpos]
    constructor <;> nlinarith
  refine ⟨round (offset / maxSteps), ?_,
    (val_pos hquotient.1 hquotient.2).ne'⟩
  rw [timingStepOf, pyFloat_int (hsmall hoffset), pyFloat_int (hsmall hsteps)]
  simp only [Option.bind_eq_bind, Option.bind_some, mul, div,
    val_round_int (hsmall hoffset), val_round_int (hsmall hsteps)]
  rw [guard, if_pos hsteps.1.ne']
  rfl

theorem voltageStepOf_int (hsteps : 0 < maxSteps ∧ maxSteps ≤ 2 ^ 31)
    (hoffset : 0 < maxOffset ∧ maxOffset ≤ 2 ^ 31) :
    ∃ step : R, voltageStepOf maxSteps maxOffset = some step ∧
      val step ≠ 0 := by
  have hbounds {n : Int} (h : 0 < n ∧ n ≤ 2 ^ 31) :
      1 ≤ (n : Rat) ∧ (n : Rat) ≤ 2 ^ 31 := by
    exact_mod_cast h
  obtain ⟨hsteps1, hsteps2⟩ := hbounds hsteps
  obtain ⟨hoffset1, hoffset2⟩ := hbounds hoffset
  set step : Rat := ((maxOffset * 10 : Int) : Rat) / maxSteps with hstep
  have hquotient : 1 / 2 ^ 64 ≤ step ∧ step ≤ 2 ^ 64 := by
    have hpos : (0 : Rat) < maxSteps := by linarith
    rw [hstep, le_div_iff₀ hpos, div_le_iff₀ hpos]
    push_cast
    constructor <;> nlinarith
  have hpos : 0 < step := lt_of_lt_of_le (by norm_num) hquotient.1
  have hfits := fits (R := R) step
    (by rw [abs_of_pos hpos]; exact hquotient.2)
  refine ⟨round step, ?_, (val_pos hquotient.1 hquotient.2).ne'⟩
  rw [voltageStepOf, guard, if_pos hsteps.1.ne']
  simp only [← hstep, hfits, Bool.false_eq_true, if_false]
  rfl

end Steps

/-! The report of ufseom. -/

section Report

variable {mname pname pver : Text} {data : EOMData}

/-- What a successful run of ufseom has for its report. -/
structure Reportable (data : EOMData) : Prop where
  gear : 4 ≤ data.gear
  timingMaxSteps : 0 < data.timingMaxSteps
  timingMaxOffset : 0 < data.timingMaxOffset
  voltageMaxSteps : 0 < data.voltageMaxSteps
  voltageMaxOffset : 0 < data.voltageMaxOffset
  lanes : ∀ e ∈ data.results, e.lane = 0 ∨ e.lane = 1
  distinct : (data.results.map EomResult.point).Nodup

def EOMData.side (data : EOMData) : Text :=
  if data.localPeer = .peerSide then lit "Device" else lit "Host"

def EOMData.rateLetter (data : EOMData) : Text :=
  if data.rate = paHsModeA then lit "A" else lit "B"

def eomLog (data : EOMData) : EomLog where
  side := data.side
  gear := data.gear
  timingMaxSteps := data.timingMaxSteps
  timingMaxOffset := data.timingMaxOffset
  voltageMaxSteps := data.voltageMaxSteps
  voltageMaxOffset := data.voltageMaxOffset
  results := data.results

/-- The header as lines of words. -/
def headerLines (mname pname pver : Text) (data : EOMData) :
    List (List Text) :=
  [sideWords data.side, inquiryWords mname pname pver,
   gearWords (showInt data.gear) data.rateLetter,
   [lit "EOM", lit "Capabilities:"],
   capabilityWords "TimingMaxSteps" "TimingMaxOffset"
     (showInt data.timingMaxSteps) (showInt data.timingMaxOffset),
   capabilityWords "VoltageMaxSteps" "VoltageMaxOffset"
     (showInt data.voltageMaxSteps) (showInt data.voltageMaxOffset),
   []]

theorem flatten_eomReport (mname pname pver : Text) (data : EOMData) :
    (eomReport mname pname pver data).flatten =
      ((headerLines mname pname pver data ++
        data.results.map recordWords).map wordLine).flatten := by
  have hrecords : (data.results.map recordWords).map wordLine =
      data.results.map eomRecordLine := by
    rw [List.map_map]
    exact List.map_congr_left fun e _ => (eomRecordLine_eq e).symm
  rw [List.map_append, hrecords, eomReport, EOMData.results,
    List.flatten_append, List.flatten_append]
  congr 1
  simp [eomReportHeader, headerLines, sideWords, inquiryWords, gearWords,
    tagWords, capabilityWords, wordLine, EOMData.side, EOMData.rateLetter, lit]

theorem side_cases (data : EOMData) :
    data.side = lit "Host" ∨ data.side = lit "Device" := by
  rw [EOMData.side]
  split
  · exact .inr rfl
  · exact .inl rfl

theorem rateLetter_cases (data : EOMData) :
    data.rateLetter = lit "A" ∨ data.rateLetter = lit "B" := by
  rw [EOMData.rateLetter]
  split
  · exact .inl rfl
  · exact .inr rfl

theorem isWord_headerLines (hmname : IsInquiryName mname)
    (hpname : IsInquiryName pname) (hpver : IsInquiryName pver) :
    ∀ words ∈ headerLines mname pname pver data, ∀ w ∈ words, IsWord w := by
  have hside : ∀ w ∈ sideWords data.side, IsWord w := by
    rcases side_cases data with h | h
    · rw [h]
      decide +kernel
    · rw [h]
      decide +kernel
  have hrate : IsWord data.rateLetter := by
    rcases rateLetter_cases data with h | h
    · rw [h]
      decide +kernel
    · rw [h]
      decide +kernel
  have hmiddle : ∀ w ∈ [lit "EOM", lit "Capabilities:"], IsWord w := by
    decide +kernel
  simp only [headerLines, List.forall_mem_cons]
  refine ⟨hside, isWord_inquiryWords hmname.word hpname.word hpver.word,
    isWord_gearWords (isNumeral_showInt _) hrate,
    ⟨hmiddle _ (by simp), hmiddle _ (by simp), by simp⟩, ?_, ?_, by simp,
    by simp⟩
  · exact isWord_capabilityWords (isNumeral_showInt _) (isNumeral_showInt _)
      (by decide +kernel) (by decide +kernel)
  · exact isWord_capabilityWords (isNumeral_showInt _) (isNumeral_showInt _)
      (by decide +kernel) (by decide +kernel)

/-- The steps of the grid of a report, as its reader computes them. -/
structure GridSteps (data : EOMData) (timingStep voltageStep : R) : Prop where
  timing : timingStepOf data.timingMaxSteps data.timingMaxOffset =
    some timingStep
  voltage : voltageStepOf data.voltageMaxSteps data.voltageMaxOffset =
    some voltageStep
  timing_ne_zero : val timingStep ≠ 0
  voltage_ne_zero : val voltageStep ≠ 0

/-- The capabilities are values of an `int`. -/
structure IntSized (data : EOMData) : Prop where
  timingMaxSteps : data.timingMaxSteps ≤ intMax
  timingMaxOffset : data.timingMaxOffset ≤ intMax
  voltageMaxSteps : data.voltageMaxSteps ≤ intMax
  voltageMaxOffset : data.voltageMaxOffset ≤ intMax

theorem exists_gridSteps (h : Reportable data) (hsize : IntSized data) :
    ∃ timingStep voltageStep : R, GridSteps data timingStep voltageStep := by
  have hmax : intMax ≤ 2 ^ 31 := by norm_num [intMax]
  obtain ⟨timingStep, htiming, htiming0⟩ := timingStepOf_int (R := R)
    ⟨h.timingMaxSteps, hsize.timingMaxSteps.trans hmax⟩
    ⟨h.timingMaxOffset, hsize.timingMaxOffset.trans hmax⟩
  obtain ⟨voltageStep, hvoltage, hvoltage0⟩ := voltageStepOf_int (R := R)
    ⟨h.voltageMaxSteps, hsize.voltageMaxSteps.trans hmax⟩
    ⟨h.voltageMaxOffset, hsize.voltageMaxOffset.trans hmax⟩
  exact ⟨timingStep, voltageStep, htiming, hvoltage, htiming0, hvoltage0⟩

/-- In exact arithmetic no limit is too large. -/
theorem exists_gridSteps_exact (h : Reportable data) :
    ∃ timingStep voltageStep : Rat, GridSteps data timingStep voltageStep := by
  have hpos {n : Int} (h : 0 < n) : (0 : Rat) < n := by exact_mod_cast h
  refine ⟨data.timingMaxOffset * (1 / 100) / data.timingMaxSteps,
    (data.voltageMaxOffset * 10 : Int) / data.voltageMaxSteps, ?_, ?_, ?_, ?_⟩
  · rw [timingStepOf]
    simp only [guard, if_pos h.timingMaxSteps.ne']
    rfl
  · rw [voltageStepOf]
    simp only [guard, if_pos h.voltageMaxSteps.ne']
    rfl
  · exact (div_pos (mul_pos (hpos h.timingMaxOffset) (by norm_num))
      (hpos h.timingMaxSteps)).ne'
  · have hoffset : 0 < data.voltageMaxOffset * 10 := by
      have hmax := h.voltageMaxOffset
      omega
    exact (div_pos (hpos hoffset) (hpos h.voltageMaxSteps)).ne'

variable {timingStep voltageStep : R}

/-- The reader behind the header. -/
def afterHeader (mname pname : Text) (data : EOMData)
    (timingStep voltageStep : R) : EomPlot R :=
  { side := data.side
    ufsDeviceMfrName := mname
    ufsDeviceMfrId := pname
    ufsGear := lit "HS-G" ++ showInt data.gear ++ lit " " ++
      (lit "Rate-" ++ data.rateLetter)
    timingMaxSteps := data.timingMaxSteps
    timingMaxOffset := data.timingMaxOffset
    timingStep := timingStep
    voltageMaxSteps := data.voltageMaxSteps
    voltageMaxOffset := data.voltageMaxOffset
    voltageStep := voltageStep }

theorem foldlM_headerLines (hmname : IsInquiryName mname)
    (hpname : IsInquiryName pname) (hpver : IsInquiryName pver)
    (hsteps : GridSteps data timingStep voltageStep) :
    ((headerLines mname pname pver data).map wordLine).foldlM readLine {} =
      .ok (afterHeader mname pname data timingStep voltageStep) := by
  have hmiddle (p : EomPlot R) :
      readLine p (wordLine [lit "EOM", lit "Capabilities:"]) = .ok p :=
    readLine_of_noMark (by unfold NoMark; decide +kernel) (by decide +kernel)
  have hempty (p : EomPlot R) : readLine p (wordLine []) = .ok p :=
    readLine_of_noMark (by unfold NoMark; decide +kernel) (by decide +kernel)
  have hnumber (n : Int) := isNumeral_showInt n
  have hvalue (n : Int) := stringToNumber_showInt n
  simp only [headerLines, List.map_cons, List.map_nil]
  rw [foldlM_readLine_cons (readLine_side (side_cases data)),
    foldlM_readLine_cons (readLine_inquiry hmname hpname hpver),
    foldlM_readLine_cons
      (readLine_gear (hnumber _) (rateLetter_cases data)),
    foldlM_readLine_cons (hmiddle _),
    foldlM_readLine_cons (readLine_timing (hnumber _) (hnumber _) (hvalue _)
      (hvalue _) hsteps.timing),
    foldlM_readLine_cons (readLine_voltage (hnumber _) (hnumber _) (hvalue _)
      (hvalue _) hsteps.voltage),
    foldlM_readLine_cons (hempty _)]
  rfl

theorem gearOf_afterHeader (hgear : 0 ≤ data.gear) :
    gearOf (afterHeader mname pname data timingStep voltageStep).ufsGear =
      some data.gear := by
  have hdigits : showInt data.gear = Nat.toDigits 10 data.gear.natAbs := by
    rw [showInt, if_neg (by omega)]
  have hfound : searchAfter (lit "HS-G") isDecimal
      (afterHeader mname pname data timingStep voltageStep).ufsGear =
        some (showInt data.gear) := by
    simp only [afterHeader, List.append_assoc]
    apply searchAfter_prefix
    · decide
    · exact (isWord_showInt _).nonempty
    · intro c hc
      rw [hdigits] at hc
      exact isDecimal_of_isDigit (isDigit_of_mem_decimal hc)
    · intro c hc
      obtain rfl : ' ' = c := Option.some.inj hc
      decide
  rw [gearOf, hfound, Option.bind_some, pyInt_showInt]

theorem readLines_eomReport (hmname : IsInquiryName mname)
    (hpname : IsInquiryName pname) (hpver : IsInquiryName pver) :
    readLines (eomReport mname pname pver data).flatten =
      (headerLines mname pname pver data).map wordLine ++
        data.results.map fun e => wordLine (recordWords e) := by
  rw [flatten_eomReport, readLines_flatten, List.map_append, List.map_map]
  · rfl
  · intro line hline
    obtain ⟨words, hwords, rfl⟩ := List.mem_map.mp hline
    apply isLine_wordLine
    rcases List.mem_append.mp hwords with hheader | hrecord
    · exact isWord_headerLines hmname hpname hpver words hheader
    · obtain ⟨e, -, rfl⟩ := List.mem_map.mp hrecord
      exact isWord_recordWords e

/-- The records are collected and the lists of their lanes filled. -/
theorem recovers_of_filled {p q : EomPlot R} (hdata : Reportable data)
    (hp : Collected (afterHeader mname pname data timingStep voltageStep)
      data.gear data.results p)
    (hsame : SameHeader p q)
    (hfilled : ∀ lane, lane = 0 ∨ lane = 1 → q.lane lane =
      if lane ∈ p.laneList then p.points.foldl LanePlot.addPoint (p.lane lane)
      else p.lane lane) : Recovers q (eomLog data) := by
  obtain ⟨data0, data1, lanes, gear, hframe⟩ := hp.frame
  have hlists : q.laneList = p.laneList := by rw [hsame]
  constructor
  · rw [hsame, hframe]
    rfl
  · rw [hsame, hframe]
    rfl
  · intro hne
    rw [hsame]
    exact hp.gear hne
  · rw [hsame, hframe]
    rfl
  · rw [hsame, hframe]
    rfl
  · rw [hsame, hframe]
    rfl
  · rw [hsame, hframe]
    rfl
  · rw [hlists]
    exact hp.lanes
  · rw [hlists]
    exact hp.distinct
  · intro lane hlane timing voltage htlo hthi hvlo hvhi
    rw [hlists] at hlane
    have h01 : lane = 0 ∨ lane = 1 := by
      obtain ⟨e, he, rfl⟩ := (hp.lanes lane).mp hlane
      exact hdata.lanes e he
    have hempty : (p.lane lane).timingList = [] ∧
        (p.lane lane).voltageList = [] ∧
        (p.lane lane).errorCountList = [] := by
      rw [hframe, EomPlot.lane]
      split
      · exact ⟨rfl, rfl, rfl⟩
      · exact ⟨rfl, rfl, rfl⟩
    have hpoint := getElem?_gridPoints ⟨htlo, hthi⟩ ⟨hvlo, hvhi⟩
    have hpoints : p.points =
        gridPoints data.timingMaxSteps data.voltageMaxSteps := by
      rw [hframe]
      rfl
    have hlists := foldl_addPoint p.points (p.lane lane)
    rw [hempty.1, hempty.2.1, hempty.2.2, hpoints] at hlists
    refine ⟨(p.lane lane).errorCount (timing, voltage), ?_, ?_, ?_⟩
    · rw [hfilled lane h01, if_pos hlane, hpoints]
      constructor
      · rw [hlists.1, List.nil_append, List.getElem?_map]
        exact congrArg (Option.map Prod.fst) hpoint
      · rw [hlists.2.1, List.nil_append, List.getElem?_map]
        exact congrArg (Option.map Prod.snd) hpoint
      · rw [hlists.2.2, List.nil_append, List.getElem?_map]
        exact congrArg (Option.map (p.lane lane).errorCount) hpoint
    · intro e he hpoint
      obtain ⟨rfl, rfl, rfl⟩ : e.lane = lane ∧ e.timing = timing ∧
          e.volt = voltage := by
        simpa [EomResult.point] using hpoint
      rw [LanePlot.errorCount, hp.measured e he, Option.getD_some]
    · intro hnone
      rw [LanePlot.errorCount, hp.missing lane timing voltage h01 hnone,
        Option.getD_none]

/-- The records of a report are collected behind its header, and then the lists
of their lanes filled. -/
theorem openFile_eomReport (hmname : IsInquiryName mname)
    (hpname : IsInquiryName pname) (hpver : IsInquiryName pver)
    (hdata : Reportable data)
    (hsteps : GridSteps data timingStep voltageStep) :
    ∃ p q, openFile (eomReport mname pname pver data).flatten = .ok q ∧
      Collected (afterHeader mname pname data timingStep voltageStep)
        data.gear data.results p ∧
      SameHeader p q ∧
      ∀ lane, lane = 0 ∨ lane = 1 → q.lane lane =
        if lane ∈ p.laneList then p.points.foldl LanePlot.addPoint (p.lane lane)
        else p.lane lane := by
  have hhigh := hdata.gear
  have hgear : gearOf (afterHeader mname pname data timingStep
      voltageStep).ufsGear = some data.gear := gearOf_afterHeader (by omega)
  obtain ⟨p, hread, hp⟩ := foldlM_records hgear hdata.gear data.results
    hdata.lanes hdata.distinct (collected_nil _ _ rfl rfl rfl)
  rw [List.nil_append] at hp
  have hlanes : ∀ lane ∈ p.laneList, lane = 0 ∨ lane = 1 := by
    intro lane hlane
    obtain ⟨e, he, rfl⟩ := (hp.lanes lane).mp hlane
    exact hdata.lanes e he
  obtain ⟨q, hfill, hsame, hfilled⟩ := foldlM_fillLane p hlanes hp.distinct
  refine ⟨p, q, ?_, hp, hsame, hfilled⟩
  obtain ⟨data0, data1, lanes, gear, hframe⟩ := hp.frame
  have hbad : ¬ p.badDataCount ≠ 0 := by
    rw [hframe]
    exact not_not.mpr rfl
  have htiming : val p.timingStep ≠ 0 := by
    rw [hframe]
    exact hsteps.timing_ne_zero
  have hvoltage : val p.voltageStep ≠ 0 := by
    rw [hframe]
    exact hsteps.voltage_ne_zero
  rw [openFile, readLines_eomReport hmname hpname hpver, List.foldlM_append,
    foldlM_headerLines hmname hpname hpver hsteps]
  simp only [bind, Except.bind] at hread ⊢
  rw [hread]
  simp only [if_neg hbad, if_neg htiming, if_neg hvoltage]
  exact hfill

theorem recovers_eomReport (hmname : IsInquiryName mname)
    (hpname : IsInquiryName pname) (hpver : IsInquiryName pver)
    (hdata : Reportable data)
    (hsteps : GridSteps data timingStep voltageStep) :
    ∃ p : EomPlot R, openFile (eomReport mname pname pver data).flatten =
        .ok p ∧ Recovers p (eomLog data) := by
  obtain ⟨p, q, hopen, hp, hsame, hfilled⟩ :=
    openFile_eomReport hmname hpname hpver hdata hsteps
  exact ⟨q, hopen, recovers_of_filled hdata hp hsame hfilled⟩

/-- Every report of a successful run of ufseom is read back, in exact
arithmetic as well as by a reader that rounds. -/
theorem ufseom_report_read_back (R : Type) [NumberFormat R]
    (hmname : IsInquiryName mname) (hpname : IsInquiryName pname)
    (hpver : IsInquiryName pver) (hdata : Reportable data) :
    (∃ p : EomPlot Rat, openFile (eomReport mname pname pver data).flatten =
        .ok p ∧ Recovers p (eomLog data)) ∧
      (IntSized data →
        ∃ p : EomPlot R, openFile (eomReport mname pname pver data).flatten =
          .ok p ∧ Recovers p (eomLog data)) := by
  constructor
  · obtain ⟨timingStep, voltageStep, hsteps⟩ := exists_gridSteps_exact hdata
    exact recovers_eomReport hmname hpname hpver hdata hsteps
  · intro hsize
    obtain ⟨timingStep, voltageStep, hsteps⟩ :=
      exists_gridSteps (R := R) hdata hsize
    exact recovers_eomReport hmname hpname hpver hdata hsteps

def twoPoints : EOMData where
  timingMaxSteps := 1
  timingMaxOffset := 20
  voltageMaxSteps := 1
  voltageMaxOffset := 30
  dataCnt := 2
  gear := 4
  rate := paHsModeA
  er := [⟨0, -1, 0, 5⟩, ⟨1, 1, 1, 0⟩]

theorem ufseom_report_read_back_two_points :
    (∃ p : EomPlot Rat, openFile (eomReport (lit "SAMSUNG") (lit "KLUDG4UHGC")
        (lit "0100") twoPoints).flatten = .ok p ∧
        Recovers p (eomLog twoPoints)) ∧
      ∃ p : EomPlot Double, openFile (eomReport (lit "SAMSUNG")
        (lit "KLUDG4UHGC") (lit "0100") twoPoints).flatten = .ok p ∧
        Recovers p (eomLog twoPoints) :=
  (ufseom_report_read_back Double ⟨by decide +kernel, by decide +kernel⟩
    ⟨by decide +kernel, by decide +kernel⟩
    ⟨by decide +kernel, by decide +kernel⟩
    ⟨by decide, by decide, by decide, by decide, by decide, by decide +kernel,
      by decide +kernel⟩).imp_right
    fun h => h ⟨by decide, by decide, by decide, by decide⟩

end Report

end UfsTools
