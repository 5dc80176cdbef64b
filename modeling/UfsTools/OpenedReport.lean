/-
What is known of the reader whenever it has got through a file, whatever the
file holds.
-/
import UfsTools.EyePlot

namespace UfsTools

open CLib PyText NumberFormat

variable {R : Type} [NumberFormat R] {p q : EomPlot R} {line : Text}
  {words : List Text} {lane : Int}

/-- The lane of a line that the reader takes for a record. -/
def laneOf (line : Text) : Option Int :=
  if notRecord (split line) then none else (split line)[1]?.bind pyInt

/-! One line. -/

/-- The attributes that no line of the header sets. -/
def recorded (p : EomPlot R) : LanePlot × LanePlot × List Int × Nat :=
  (p.lane0, p.lane1, p.laneList, p.badDataCount)

theorem readHeader_recorded (h : readHeader line words p = some q) :
    recorded q = recorded p := by
  obtain ⟨p₁, h₁, h⟩ := Option.bind_eq_some_iff.mp h
  obtain ⟨p₂, h₂, h⟩ := Option.bind_eq_some_iff.mp h
  obtain ⟨p₃, h₃, h⟩ := Option.bind_eq_some_iff.mp h
  obtain ⟨p₄, h₄, h⟩ := Option.bind_eq_some_iff.mp h
  obtain ⟨p₅, h₅, h⟩ := Option.bind_eq_some_iff.mp h
  obtain ⟨p₆, h₆, h₇⟩ := Option.bind_eq_some_iff.mp h
  rw [readSide_keeps recorded (fun _ _ => rfl) h₇,
    readGear_keeps recorded (fun _ _ => rfl) h₆,
    readSize_keeps recorded (fun _ _ => rfl) h₅,
    readInquiry_keeps recorded (fun _ _ _ => rfl) h₄,
    readVersion_keeps recorded (fun _ _ => rfl) h₃,
    readAxis_keeps recorded h₂ (fun _ _ _ _ => rfl),
    readAxis_keeps recorded h₁ (fun _ _ _ _ => rfl)]

/-- What a record comes to: a bad line without a lane, a bad line with one, or
a point of one of the two lanes. -/
inductive RecordRead (words : List Text) (p : EomPlot R) : EomPlot R → Prop
  | nameless (hlane : words[1]?.bind pyInt = none) :
      RecordRead words p p.badLine
  | bad {lane : Int} (hlane : words[1]?.bind pyInt = some lane) :
      RecordRead words p (p.listLane lane).badLine
  | good {lane timing voltage errorCount gear : Int}
      (hlane : words[1]?.bind pyInt = some lane)
      (hnumbers : readNumbers words p =
        some (timing, voltage, errorCount, gear))
      (hgear : 4 ≤ gear) (h01 : lane = 0 ∨ lane = 1) :
      RecordRead words p
        (p.withRecord gear ⟨lane, timing, voltage, errorCount⟩)

theorem recordRead_of_ok (h : readRecord words p = .ok q) :
    RecordRead words p q := by
  rw [readRecord] at h
  split at h
  · next hnone =>
      obtain rfl := Except.ok.inj h
      exact .nameless hnone
  · next lane hlane =>
      simp only at h
      split at h
      · obtain rfl := Except.ok.inj h
        exact .bad hlane
      · next timing voltage errorCount gear hnumbers =>
          split at h
          · contradiction
          · next hgear =>
              have hgood := RecordRead.good (p := p) hlane hnumbers
                (not_lt.mp hgear)
              by_cases hzero : lane = 0
              · rw [if_pos hzero] at h
                obtain rfl := Except.ok.inj h
                simpa [EomPlot.withRecord, hzero] using hgood (.inl hzero)
              · rw [if_neg hzero] at h
                by_cases hone : lane = 1
                · rw [if_pos hone] at h
                  obtain rfl := Except.ok.inj h
                  simpa [EomPlot.withRecord, hone] using hgood (.inr hone)
                · rw [if_neg hone] at h
                  contradiction

theorem badDataCount_withRecord (p : EomPlot R) (gear : Int) (e : EomResult) :
    (p.withRecord gear e).badDataCount = p.badDataCount := by
  simp only [EomPlot.withRecord]
  split_ifs <;> rfl

/-- The reader behind the lines of `done`.  A lane other than 0 and 1 is listed
only where a line was bad. -/
structure ReadSoFar (p : EomPlot R) (done : List Text) : Prop where
  lanes : ∀ lane, lane ∈ p.laneList ↔ ∃ line ∈ done, laneOf line = some lane
  distinct : p.laneList.Nodup
  known : p.badDataCount = 0 → ∀ lane ∈ p.laneList, lane = 0 ∨ lane = 1
  lists : ∀ lane, (p.lane lane).timingList = [] ∧
    (p.lane lane).voltageList = [] ∧ (p.lane lane).errorCountList = []

variable {done : List Text}

theorem readSoFar_nil : ReadSoFar ({} : EomPlot R) [] := by
  constructor
  · simp
  · exact List.nodup_nil
  · simp
  · intro lane
    rw [EomPlot.lane]
    split <;> exact ⟨rfl, rfl, rfl⟩

theorem ReadSoFar.congr (h : ReadSoFar p done)
    (hrecorded : recorded q = recorded p) : ReadSoFar q done := by
  simp only [recorded, Prod.mk.injEq] at hrecorded
  obtain ⟨hlane0, hlane1, hlanes, hbad⟩ := hrecorded
  have hlane : q.lane = p.lane := by
    funext lane
    rw [EomPlot.lane, EomPlot.lane, hlane0, hlane1]
  exact ⟨hlanes ▸ h.lanes, hlanes ▸ h.distinct, hlanes ▸ hbad ▸ h.known,
    hlane ▸ h.lists⟩

/-- A line that names no lane. -/
theorem ReadSoFar.skip (h : ReadSoFar p done) (hline : laneOf line = none) :
    ReadSoFar p (done ++ [line]) := by
  refine { h with lanes := ?_ }
  intro lane
  rw [h.lanes]
  simp [or_and_right, exists_or, hline]

/-- A line that names one. -/
theorem ReadSoFar.list (h : ReadSoFar p done) (hline : laneOf line = some lane)
    (hlanes : q.laneList = (p.listLane lane).laneList)
    (hknown : q.badDataCount = 0 →
      p.badDataCount = 0 ∧ (lane = 0 ∨ lane = 1))
    (hlists : ∀ lane, (q.lane lane).timingList = (p.lane lane).timingList ∧
      (q.lane lane).voltageList = (p.lane lane).voltageList ∧
      (q.lane lane).errorCountList = (p.lane lane).errorCountList) :
    ReadSoFar q (done ++ [line]) := by
  constructor
  · intro lane'
    rw [hlanes, mem_listLane, h.lanes]
    simp [or_and_right, exists_or, hline, eq_comm]
  · rw [hlanes]
    exact nodup_listLane h.distinct
  · intro hclean lane' hlane'
    obtain ⟨hbefore, h01⟩ := hknown hclean
    rw [hlanes, mem_listLane] at hlane'
    rcases hlane' with hlane' | rfl
    · exact h.known hbefore lane' hlane'
    · exact h01
  · intro lane'
    obtain ⟨htiming, hvoltage, herror⟩ := hlists lane'
    rw [htiming, hvoltage, herror]
    exact h.lists lane'

theorem lists_withRecord (p : EomPlot R) (gear : Int) (e : EomResult)
    (lane : Int) :
    ((p.withRecord gear e).lane lane).timingList = (p.lane lane).timingList ∧
      ((p.withRecord gear e).lane lane).voltageList =
        (p.lane lane).voltageList ∧
      ((p.withRecord gear e).lane lane).errorCountList =
        (p.lane lane).errorCountList := by
  simp only [EomPlot.withRecord, EomPlot.lane]
  split_ifs <;> exact ⟨rfl, rfl, rfl⟩

theorem ReadSoFar.step (h : ReadSoFar p done)
    (hread : readLine p line = .ok q) : ReadSoFar q (done ++ [line]) := by
  rw [readLine] at hread
  cases hheader : readHeader line (split line) p with
  | none => simp [hheader] at hread
  | some p₁ =>
      have h₁ := h.congr (readHeader_recorded hheader)
      simp only [hheader] at hread
      by_cases hnot : notRecord (split line) = true
      · rw [if_pos hnot] at hread
        obtain rfl := Except.ok.inj hread
        apply h₁.skip
        rw [laneOf, if_pos hnot]
      · rw [if_neg hnot] at hread
        have hlane : laneOf line = (split line)[1]?.bind pyInt := if_neg hnot
        cases recordRead_of_ok hread with
        | nameless hnone =>
            have hskip := h₁.skip (hlane.trans hnone)
            refine { hskip with known := ?_ }
            exact fun hclean => absurd hclean (Nat.succ_ne_zero _)
        | bad hsome =>
            refine ReadSoFar.list h₁ (hlane.trans hsome) rfl ?_ ?_
            · exact fun hclean => absurd hclean (Nat.succ_ne_zero _)
            · exact fun _ => ⟨rfl, rfl, rfl⟩
        | good hsome _ _ h01 =>
            apply h₁.list (hlane.trans hsome) laneList_withRecord
            · intro hclean
              rw [badDataCount_withRecord] at hclean
              exact ⟨hclean, h01⟩
            · exact lists_withRecord p₁ _ _

theorem foldlM_readLine_readSoFar {lines : List Text}
    (h : ReadSoFar p done) (hread : lines.foldlM readLine p = .ok q) :
    ReadSoFar q (done ++ lines) := by
  induction lines generalizing p done with
  | nil =>
      obtain rfl := Except.ok.inj hread
      rwa [List.append_nil]
  | cons line rest ih =>
      rw [List.foldlM_cons] at hread
      obtain ⟨p₁, hline, hrest⟩ := bind_ok_inv hread
      rw [List.append_cons]
      exact ih (h.step hline) hrest

/-! A whole file. -/

/-- The lists of a lane hold the grid, and its dictionary every point. -/
structure Filled (p : EomPlot R) (lane : Int) : Prop where
  timing : (p.lane lane).timingList = p.points.map Prod.fst
  voltage : (p.lane lane).voltageList = p.points.map Prod.snd
  errorCount : (p.lane lane).errorCountList =
    p.points.map (p.lane lane).errorCount
  total : ∀ point ∈ p.points,
    (p.lane lane).data (pointKey point.1 point.2) =
      some ((p.lane lane).errorCount point)

/-- The reader behind the file. -/
structure OpenedReport (text : Text) (p : EomPlot R) : Prop where
  lanes : ∀ lane, lane ∈ p.laneList ↔
    ∃ line ∈ readLines text, laneOf line = some lane
  distinct : p.laneList.Nodup
  known : ∀ lane ∈ p.laneList, lane = 0 ∨ lane = 1
  filled : ∀ lane ∈ p.laneList, Filled p lane
  unlisted : ∀ lane, lane = 0 ∨ lane = 1 → lane ∉ p.laneList →
    (p.lane lane).timingList = [] ∧ (p.lane lane).voltageList = []

theorem errorCount_foldl_addPoint (points : List (Int × Int)) (l : LanePlot)
    (point : Int × Int) :
    (points.foldl LanePlot.addPoint l).errorCount point =
      l.errorCount point := by
  induction points generalizing l with
  | nil => rfl
  | cons first rest ih => rw [List.foldl_cons, ih, errorCount_addPoint]

theorem isSome_foldl_addPoint {points : List (Int × Int)} {l : LanePlot}
    {point : Int × Int}
    (h : (l.data (pointKey point.1 point.2)).isSome ∨ point ∈ points) :
    ((points.foldl LanePlot.addPoint l).data
      (pointKey point.1 point.2)).isSome := by
  induction points generalizing l with
  | nil =>
      rcases h with h | h
      · exact h
      · contradiction
  | cons first rest ih =>
      rw [List.foldl_cons]
      apply ih
      rw [List.mem_cons, or_left_comm] at h
      rcases h with rfl | h
      · left
        simp [LanePlot.addPoint]
      · refine h.imp_left fun hsome => ?_
        simp only [LanePlot.addPoint, Function.update_apply]
        split
        · rfl
        · exact hsome

/-- The last step of a file: the lists of its lanes are filled. -/
theorem filled_of_lists {l : LanePlot} {points : List (Int × Int)}
    (hempty : l.timingList = [] ∧ l.voltageList = [] ∧ l.errorCountList = [])
    (hpoints : p.points = points)
    (hlane : p.lane lane = points.foldl LanePlot.addPoint l) :
    Filled p lane := by
  obtain ⟨htiming, hvoltage, herror⟩ := foldl_addPoint points l
  have hsame : (p.lane lane).errorCount = l.errorCount := by
    rw [hlane]
    exact funext (errorCount_foldl_addPoint points l)
  constructor
  · rw [hlane, htiming, hempty.1, hpoints, List.nil_append]
  · rw [hlane, hvoltage, hempty.2.1, hpoints, List.nil_append]
  · rw [hsame, hlane, herror, hempty.2.2, hpoints, List.nil_append]
  · intro point hpoint
    obtain ⟨errorCount, hsome⟩ := Option.isSome_iff_exists.mp
      (isSome_foldl_addPoint (l := l) (.inr (hpoints ▸ hpoint)))
    rw [hlane] at hsame ⊢
    rw [LanePlot.errorCount, hsome]
    rfl

theorem openFile_cases {text : Text} (h : openFile text = .ok p) :
    ∃ q, (readLines text).foldlM readLine {} = .ok q ∧ q.badDataCount = 0 ∧
      val q.timingStep ≠ 0 ∧ val q.voltageStep ≠ 0 ∧
      q.laneList.foldlM fillLane q = .ok p := by
  rw [openFile] at h
  obtain ⟨q, hread, h⟩ := bind_ok_inv h
  refine ⟨q, hread, ?_⟩
  split_ifs at h with hbad htiming hvoltage
  exact ⟨not_not.mp hbad, htiming, hvoltage, h⟩

theorem openedReport_of_ok {text : Text} (h : openFile text = .ok p) :
    OpenedReport text p := by
  obtain ⟨q, hread, hclean, -, -, hfill⟩ := openFile_cases h
  have hq := foldlM_readLine_readSoFar readSoFar_nil hread
  rw [List.nil_append] at hq
  obtain ⟨r, hr, hsame, hlane⟩ :=
    foldlM_fillLane q (hq.known hclean) hq.distinct
  obtain rfl : r = p := Except.ok.inj (hr.symm.trans hfill)
  have hlanes : r.laneList = q.laneList := by rw [hsame]
  have hpoints : r.points = q.points := by
    rw [hsame]
    rfl
  constructor
  · rw [hlanes]
    exact hq.lanes
  · rw [hlanes]
    exact hq.distinct
  · rw [hlanes]
    exact hq.known hclean
  · intro lane hmem
    rw [hlanes] at hmem
    apply filled_of_lists (hq.lists lane) hpoints
    rw [hlane lane (hq.known hclean lane hmem), if_pos hmem]
  · intro lane h01 hmem
    rw [hlanes] at hmem
    rw [hlane lane h01, if_neg hmem]
    exact ⟨(hq.lists lane).1, (hq.lists lane).2.1⟩

end UfsTools
