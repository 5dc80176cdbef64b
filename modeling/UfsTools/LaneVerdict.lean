/-
Two reports that agree in one lane: what the plot of this lane shows and
answers in both.
-/
import UfsTools.EyeVerdict

namespace UfsTools

open CLib PyText NumberFormat

variable {R : Type} [NumberFormat R]

/-! What the verdict of a lane is made of. -/

/-- The text on the plot of a lane and the value its round adds. -/
def laneResult (pd : Pandas R) (text : Text) (lane : Int) :
    Option (EyeText × Bool) :=
  match evaluateFile pd text with
  | .error _ => none
  | .ok q =>
      ((q.shown.zip q.eomPass).find? fun r => r.1.1 = lane).map
        fun r => (r.1.2, r.2)

/-- A lane that was plotted before has set the skip flag. -/
def EomPlot.skipBefore (p : EomPlot R) (lane : Int) : Bool :=
  (p.laneList.takeWhile (· ≠ lane)).any p.laneSkip

/-- All that the eye of a lane depends on. -/
structure SameEye (p q : EomPlot R) (lane : Int) : Prop where
  timingMaxSteps : p.timingMaxSteps = q.timingMaxSteps
  voltageMaxSteps : p.voltageMaxSteps = q.voltageMaxSteps
  timingStep : p.timingStep = q.timingStep
  voltageStep : p.voltageStep = q.voltageStep
  gear : p.gear = q.gear
  lane : p.lane lane = q.lane lane

variable {p q : EomPlot R} {lane : Int} {pd : Pandas R}

theorem SameEye.points (h : SameEye p q lane) : p.points = q.points := by
  rw [EomPlot.points, EomPlot.points, h.timingMaxSteps, h.voltageMaxSteps]

theorem SameEye.place (h : SameEye p q lane) : p.place = q.place := by
  funext point
  rw [EomPlot.place, EomPlot.place, h.timingStep, h.voltageStep]

theorem SameEye.center (h : SameEye p q lane) :
    p.center lane = q.center lane := by
  have hboundary (direction : EyeDirection) :
      p.boundary lane direction = q.boundary lane direction := by
    rw [EomPlot.boundary, EomPlot.boundary, findEyeWidthBoundary,
      findEyeWidthBoundary, h.timingMaxSteps, h.lane]
  rw [EomPlot.center, EomPlot.center, hboundary, hboundary]

theorem SameEye.inMask (h : SameEye p q lane) :
    p.inMask lane = q.inMask lane := by
  funext point
  have hsum : diamondSum p = diamondSum q := by
    funext center x y width height
    rw [diamondSum, diamondSum, h.timingStep]
  have hdiamond : inDiamond p = inDiamond q := by
    funext center x y
    rw [inDiamond, inDiamond, h.gear, hsum]
  rw [EomPlot.inMask, EomPlot.inMask, h.center, h.place, hdiamond]

theorem SameEye.lanePass (h : SameEye p q lane) :
    p.lanePass lane = q.lanePass lane := by
  rw [EomPlot.lanePass, EomPlot.lanePass, h.points, h.inMask, h.lane]

theorem SameEye.laneSkip (h : SameEye p q lane) :
    p.laneSkip lane = q.laneSkip lane := by
  rw [EomPlot.laneSkip, EomPlot.laneSkip, h.points, h.inMask, h.lane]

theorem SameEye.laneText (h : SameEye p q lane) :
    p.laneText lane = q.laneText lane := by
  funext skip
  rw [EomPlot.laneText, EomPlot.laneText, h.center, h.lanePass]

theorem SameEye.plottable (h : SameEye p q lane) :
    Plottable p ↔ Plottable q := by
  rw [Plottable, Plottable, h.points, h.place]

/-! The result of a lane. -/

theorem find?_shownFrom {lanes : List Int} {skip : Bool} (h : lane ∈ lanes) :
    ((p.shownFrom skip lanes).zip (lanes.map p.lanePass)).find?
        (fun r => r.1.1 = lane) =
      some ((lane, p.laneText lane (skip ||
        (lanes.takeWhile (· ≠ lane)).any p.laneSkip || p.laneSkip lane)),
        p.lanePass lane) := by
  induction lanes generalizing skip with
  | nil => contradiction
  | cons first rest ih =>
      rw [EomPlot.shownFrom, List.map_cons, List.zip_cons_cons, List.find?_cons]
      by_cases hfirst : first = lane
      · subst hfirst
        simp
      · have hrest : lane ∈ rest := by
          rcases List.mem_cons.mp h with rfl | hrest
          · exact absurd rfl hfirst
          · exact hrest
        simp only [hfirst, decide_false]
        rw [ih hrest]
        simp [hfirst, Bool.or_assoc]

theorem find?_shownFrom_none {lanes : List Int} {skip : Bool}
    (h : lane ∉ lanes) :
    ((p.shownFrom skip lanes).zip (lanes.map p.lanePass)).find?
        (fun r => r.1.1 = lane) = none := by
  induction lanes generalizing skip with
  | nil => rfl
  | cons first rest ih =>
      rw [List.mem_cons, not_or] at h
      rw [EomPlot.shownFrom, List.map_cons, List.zip_cons_cons, List.find?_cons,
        ih h.2]
      simp [Ne.symm h.1]

/-- The result of a lane in a report that can be plotted. -/
theorem laneResult_of_plottable {text : Text} (hopen : openFile text = .ok p)
    (hplot : Plottable p) :
    laneResult pd text lane =
      if lane ∈ p.laneList then
        some (p.laneText lane (p.skipBefore lane || p.laneSkip lane),
          p.lanePass lane)
      else none := by
  have hopened := openedReport_of_ok hopen
  obtain ⟨q, hrun, -, hpass, hshown⟩ := foldlM_evaluateLane pd
    (p := { toEomPlot := p }) hopened.known hopened.filled hplot
  simp only [laneResult, evaluateFile_of_plottable hopen hplot, hrun, hpass,
    hshown, List.nil_append]
  by_cases hlane : lane ∈ p.laneList
  · rw [if_pos hlane, find?_shownFrom hlane]
    rfl
  · rw [if_neg hlane, find?_shownFrom_none hlane]
    rfl

/-- A report that cannot be plotted shows nothing. -/
theorem laneResult_of_not_plottable {text : Text}
    (hopen : openFile text = .ok p) (hplot : ¬ Plottable p) :
    laneResult pd text lane = none := by
  rw [laneResult]
  cases hevaluate : evaluateFile pd text with
  | error why => rfl
  | ok q =>
      have hlanes : p.laneList = [] := by
        by_contra hne
        exact hplot (plottable_of_evaluateFile hopen hevaluate hne)
      rw [evaluateFile, hopen] at hevaluate
      change (if _ then _ else _) = _ at hevaluate
      split_ifs at hevaluate
      rw [hlanes] at hevaluate
      obtain rfl := Except.ok.inj hevaluate
      rfl

/-! The records behind the header. -/

/-- A report: the header, and behind it records and lines that say nothing to
the reader. -/
structure WellFormed (text : Text) (header body : List Text) : Prop where
  lines : readLines text = header ++ body
  header : ∀ line ∈ header, notRecord (split line) = true
  body : ∀ line ∈ body, NoMark line

def recordsOfLane (body : List Text) (lane : Int) : List Text :=
  body.filter fun line => laneOf line = some lane

/-- What a record adds to its lane. -/
def addLine (p : EomPlot R) (l : LanePlot) (line : Text) : LanePlot :=
  match readNumbers (split line) p with
  | none => l
  | some (timing, voltage, errorCount, _) => l.record timing voltage errorCount

/-- What the header has set. -/
def headerOf (p : EomPlot R) : EomPlot R :=
  { p with lane0 := {}, lane1 := {}, laneList := [], gear := 0
           badDataCount := 0 }

/-- Reading `done` has led from `p` to `q`. -/
structure BodyRead (p : EomPlot R) (done : List Text) (q : EomPlot R) : Prop where
  header : headerOf q = headerOf p
  gear : q.badDataCount = 0 →
    (∃ line ∈ done, ∃ lane, laneOf line = some lane) →
    gearOf p.ufsGear = some q.gear
  lane : q.badDataCount = 0 → ∀ lane, lane = 0 ∨ lane = 1 →
    q.lane lane = (recordsOfLane done lane).foldl (addLine p) (p.lane lane)

variable {line : Text} {words done : List Text} {r : EomPlot R}

theorem readNumbers_congr (h : p.ufsGear = q.ufsGear) :
    readNumbers words p = readNumbers words q := by
  rw [readNumbers, readNumbers, h]

theorem gearOf_of_readNumbers {timing voltage errorCount gear : Int}
    (h : readNumbers words p = some (timing, voltage, errorCount, gear)) :
    gearOf p.ufsGear = some gear := by
  simp only [readNumbers, Option.bind_eq_bind, Option.bind_eq_some_iff,
    Option.some.injEq, Prod.mk.injEq] at h
  obtain ⟨_, _, _, _, _, _, _, _, _, _, _, _, g, hgear, _, _, _, rfl⟩ := h
  exact hgear

theorem BodyRead.refl (p : EomPlot R) : BodyRead p [] p := by
  constructor
  · rfl
  · simp
  · exact fun _ _ _ => rfl

theorem recordsOfLane_append (done : List Text) (line : Text) (lane : Int) :
    recordsOfLane (done ++ [line]) lane = recordsOfLane done lane ++
      if laneOf line = some lane then [line] else [] := by
  rw [recordsOfLane, List.filter_append, recordsOfLane]
  by_cases h : laneOf line = some lane
  · simp [h]
  · simp [h]

/-- A line that names no lane changes nothing. -/
theorem BodyRead.skip (h : BodyRead p done q) (hline : laneOf line = none) :
    BodyRead p (done ++ [line]) q := by
  constructor
  · exact h.header
  · rintro hclean ⟨line', hmem, lane, hlane⟩
    apply h.gear hclean
    rcases List.mem_append.mp hmem with hmem | hmem
    · exact ⟨line', hmem, lane, hlane⟩
    · rw [List.mem_singleton.mp hmem, hline] at hlane
      contradiction
  · intro hclean lane h01
    rw [recordsOfLane_append, hline, if_neg (by simp), List.append_nil]
    exact h.lane hclean lane h01

/-- A bad line leaves a count behind, and no promise on the rest. -/
theorem BodyRead.bad (h : BodyRead p done q) (hbad : r.badDataCount ≠ 0)
    (hheader : headerOf r = headerOf q) : BodyRead p (done ++ [line]) r :=
  ⟨hheader.trans h.header, fun hclean => absurd hclean hbad,
    fun hclean => absurd hclean hbad⟩

theorem headerOf_withRecord (q : EomPlot R) (gear : Int) (e : EomResult) :
    headerOf (q.withRecord gear e) = headerOf q ∧
      (q.withRecord gear e).gear = gear := by
  rw [EomPlot.withRecord]
  split
  · exact ⟨rfl, rfl⟩
  · exact ⟨rfl, rfl⟩

/-- A good line adds its record to its lane and to no other. -/
theorem BodyRead.good {timing voltage errorCount gear : Int}
    (h : BodyRead p done q) (hline : laneOf line = some lane)
    (hnumbers : readNumbers (split line) q =
      some (timing, voltage, errorCount, gear))
    (h01 : lane = 0 ∨ lane = 1) :
    BodyRead p (done ++ [line])
      (q.withRecord gear ⟨lane, timing, voltage, errorCount⟩) := by
  obtain ⟨hheader, hgear⟩ := headerOf_withRecord q gear
    ⟨lane, timing, voltage, errorCount⟩
  have hufsGear : q.ufsGear = p.ufsGear := by
    change (headerOf q).ufsGear = (headerOf p).ufsGear
    rw [h.header]
  constructor
  · exact hheader.trans h.header
  · intro _ _
    rw [hgear, ← hufsGear]
    exact gearOf_of_readNumbers hnumbers
  · intro hclean lane' h01'
    rw [badDataCount_withRecord] at hclean
    rw [lane_withRecord h01' h01, recordsOfLane_append, hline,
      List.foldl_append, ← h.lane hclean lane' h01']
    by_cases hsame : lane = lane'
    · have hadd : addLine p (q.lane lane') line =
          (q.lane lane').record timing voltage errorCount := by
        rw [addLine, ← readNumbers_congr hufsGear, hnumbers]
      rw [if_pos hsame, if_pos (congrArg some hsame), List.foldl_cons, hadd]
      rfl
    · rw [if_neg hsame, if_neg (fun h => hsame (Option.some.inj h))]
      rfl

theorem BodyRead.step (h : BodyRead p done q) (hmark : NoMark line)
    (hread : readLine q line = .ok r) : BodyRead p (done ++ [line]) r := by
  rw [readLine] at hread
  simp only [readHeader_of_noMark hmark] at hread
  by_cases hnot : notRecord (split line) = true
  · rw [if_pos hnot] at hread
    obtain rfl := Except.ok.inj hread
    apply h.skip
    rw [laneOf, if_pos hnot]
  · rw [if_neg hnot] at hread
    have hline : laneOf line = (split line)[1]?.bind pyInt := if_neg hnot
    cases recordRead_of_ok hread with
    | nameless hnone => exact h.bad (Nat.succ_ne_zero _) rfl
    | bad hsome => exact h.bad (Nat.succ_ne_zero _) rfl
    | good hsome hnumbers _ h01 =>
        exact h.good (hline.trans hsome) hnumbers h01

theorem foldlM_readLine_body {body : List Text} (h : BodyRead p done q)
    (hbody : ∀ line ∈ body, NoMark line)
    (hread : body.foldlM readLine q = .ok r) : BodyRead p (done ++ body) r := by
  induction body generalizing done q with
  | nil =>
      obtain rfl := Except.ok.inj hread
      rwa [List.append_nil]
  | cons line rest ih =>
      rw [List.forall_mem_cons] at hbody
      rw [List.foldlM_cons] at hread
      obtain ⟨q₁, hline, hrest⟩ := bind_ok_inv hread
      rw [List.append_cons]
      exact ih (h.step hbody.1 hline) hbody.2 hrest

/-- The header leaves the lanes empty. -/
theorem recorded_header {header : List Text}
    (hheader : ∀ line ∈ header, notRecord (split line) = true)
    (hread : header.foldlM readLine p = .ok q) : recorded q = recorded p := by
  induction header generalizing p with
  | nil =>
      obtain rfl := Except.ok.inj hread
      rfl
  | cons line rest ih =>
      rw [List.forall_mem_cons] at hheader
      rw [List.foldlM_cons] at hread
      obtain ⟨p₁, hline, hrest⟩ := bind_ok_inv hread
      rw [ih hheader.2 hrest]
      rw [readLine] at hline
      cases htags : readHeader line (split line) p with
      | none => simp [htags] at hline
      | some p₂ =>
          simp only [htags, hheader.1, if_true] at hline
          obtain rfl := Except.ok.inj hline
          exact readHeader_recorded htags

variable {text : Text} {header body : List Text}

theorem WellFormed.mem_laneList (h : WellFormed text header body)
    (hopen : openFile text = .ok p) :
    lane ∈ p.laneList ↔ recordsOfLane body lane ≠ [] := by
  rw [(openedReport_of_ok hopen).lanes, h.lines]
  constructor
  · rintro ⟨line, hline, hlane⟩
    apply List.ne_nil_of_mem (a := line)
    rcases List.mem_append.mp hline with hline | hline
    · rw [laneOf, if_pos (h.header line hline)] at hlane
      contradiction
    · exact List.mem_filter.mpr ⟨hline, decide_eq_true hlane⟩
  · intro hne
    obtain ⟨line, hline⟩ := List.exists_mem_of_ne_nil _ hne
    obtain ⟨hline, hlane⟩ := List.mem_filter.mp hline
    exact ⟨line, List.mem_append_right _ hline, of_decide_eq_true hlane⟩

/-- The reader behind a report, from the reader behind its header and the
records of the lane alone. -/
theorem WellFormed.read (h : WellFormed text header body)
    (hopen : openFile text = .ok p) (hlane : lane ∈ p.laneList) :
    ∃ p₀, header.foldlM readLine {} = .ok p₀ ∧ headerOf p = headerOf p₀ ∧
      gearOf p₀.ufsGear = some p.gear ∧
      p.lane lane = p₀.points.foldl LanePlot.addPoint
        ((recordsOfLane body lane).foldl (addLine p₀) {}) := by
  have hopened := openedReport_of_ok hopen
  have h01 := hopened.known lane hlane
  have hrecords := (h.mem_laneList hopen).mp hlane
  obtain ⟨q, hread, hclean, -, -, hfill⟩ := openFile_cases hopen
  have hsofar := foldlM_readLine_readSoFar readSoFar_nil hread
  obtain ⟨r, hr, hsame, hfilled⟩ :=
    foldlM_fillLane q (hsofar.known hclean) hsofar.distinct
  obtain rfl : r = p := Except.ok.inj (hr.symm.trans hfill)
  rw [h.lines, List.foldlM_append] at hread
  obtain ⟨p₀, hheader, hbody⟩ := bind_ok_inv hread
  have hq := foldlM_readLine_body (.refl p₀) h.body hbody
  rw [List.nil_append] at hq
  have hempty : p₀.lane lane = {} := by
    have hrecorded := recorded_header h.header hheader
    simp only [recorded, Prod.mk.injEq] at hrecorded
    rw [EomPlot.lane, hrecorded.1, hrecorded.2.1]
    exact ite_self _
  have hmem : lane ∈ q.laneList := by
    rw [hsame] at hlane
    exact hlane
  have hpoints : q.points = p₀.points := by
    change (headerOf q).points = (headerOf p₀).points
    rw [hq.header]
  refine ⟨p₀, hheader, ?_, ?_, ?_⟩
  · rw [← hq.header, hsame]
    rfl
  · rw [hsame]
    obtain ⟨line, hline⟩ := List.exists_mem_of_ne_nil _ hrecords
    obtain ⟨hline, hof⟩ := List.mem_filter.mp hline
    exact hq.gear hclean ⟨line, hline, lane, of_decide_eq_true hof⟩
  · rw [hfilled lane h01, if_pos hmem, hpoints, hq.lane hclean lane h01,
      hempty]

/-- Reports that agree in the header and in the records of a lane have the same
eye there. -/
theorem sameEye_of_agree {textA textB : Text} {bodyA bodyB : List Text}
    {pA pB : EomPlot R} (hA : WellFormed textA header bodyA)
    (hB : WellFormed textB header bodyB)
    (hrecords : recordsOfLane bodyA lane = recordsOfLane bodyB lane)
    (hopenA : openFile textA = .ok pA) (hopenB : openFile textB = .ok pB)
    (hlane : lane ∈ pA.laneList) : lane ∈ pB.laneList ∧ SameEye pA pB lane := by
  have hlaneB : lane ∈ pB.laneList := by
    rw [hB.mem_laneList hopenB, ← hrecords, ← hA.mem_laneList hopenA]
    exact hlane
  obtain ⟨p₀, hreadA, hheaderA, hgearA, heyeA⟩ := hA.read hopenA hlane
  obtain ⟨p₁, hreadB, hheaderB, hgearB, heyeB⟩ := hB.read hopenB hlaneB
  obtain rfl : p₀ = p₁ := Except.ok.inj (hreadA.symm.trans hreadB)
  have hheader : headerOf pA = headerOf pB := hheaderA.trans hheaderB.symm
  have hfield {α : Type} (f : EomPlot R → α) :
      f (headerOf pA) = f (headerOf pB) := congrArg f hheader
  refine ⟨hlaneB, hfield EomPlot.timingMaxSteps,
    hfield EomPlot.voltageMaxSteps, hfield EomPlot.timingStep,
    hfield EomPlot.voltageStep, ?_, ?_⟩
  · exact Option.some.inj (hgearA.symm.trans hgearB)
  · rw [heyeA, heyeB, hrecords]

/-! Two reports. -/

/-- Where the plots of a lane could differ, at a lane with a centre whose mask
was measured in full, the lanes before it have set the skip flag in both
reports or in neither. -/
def Unaffected (pA pB : EomPlot R) (lane : Int) : Prop :=
  Plottable pA → lane ∈ pA.laneList → pA.center lane ≠ none →
    pA.laneSkip lane = false → pA.skipBefore lane = pB.skipBefore lane

theorem laneText_eq_iff {skip skip' : Bool} :
    p.laneText lane skip = p.laneText lane skip' ↔
      (p.center lane ≠ none → skip = skip') := by
  rw [EomPlot.laneText, EomPlot.laneText]
  cases p.center lane with
  | none => simp
  | some center =>
      cases skip <;> cases skip' <;> cases p.lanePass lane <;> simp

/-- Whatever two reports with one header hold for the other lane, and in
whatever order: the value of a lane is the same in both, and its text is the
same exactly if no earlier lane interferes. -/
theorem lane_verdict_independent_iff (pd : Pandas R)
    {header bodyA bodyB : List Text} {textA textB : Text} {pA pB : EomPlot R}
    (hA : WellFormed textA header bodyA) (hB : WellFormed textB header bodyB)
    (lane : Int)
    (hrecords : recordsOfLane bodyA lane = recordsOfLane bodyB lane)
    (hopenA : openFile textA = .ok pA) (hopenB : openFile textB = .ok pB) :
    (laneResult pd textA lane).map Prod.snd =
        (laneResult pd textB lane).map Prod.snd ∧
      ((laneResult pd textA lane).map Prod.fst =
          (laneResult pd textB lane).map Prod.fst ↔
        Unaffected pA pB lane) := by
  by_cases hlane : lane ∈ pA.laneList
  · obtain ⟨hlaneB, heye⟩ :=
      sameEye_of_agree hA hB hrecords hopenA hopenB hlane
    by_cases hplot : Plottable pA
    · rw [laneResult_of_plottable hopenA hplot,
        laneResult_of_plottable hopenB (heye.plottable.mp hplot),
        if_pos hlane, if_pos hlaneB]
      simp only [Option.map_some, Option.some.injEq, ← heye.lanePass,
        ← heye.laneText, ← heye.laneSkip, laneText_eq_iff, Unaffected, hplot,
        hlane, forall_true_left, true_and]
      cases pA.laneSkip lane <;> simp
    · rw [laneResult_of_not_plottable hopenA hplot,
        laneResult_of_not_plottable hopenB fun h =>
          hplot (heye.plottable.mpr h)]
      exact ⟨rfl, iff_of_true rfl fun h => absurd h hplot⟩
  · have hlaneB : lane ∉ pB.laneList := by
      rw [hB.mem_laneList hopenB, ← hrecords, ← hA.mem_laneList hopenA]
      exact hlane
    have hnone {text : Text} {p : EomPlot R} (hopen : openFile text = .ok p)
        (hlane : lane ∉ p.laneList) : laneResult pd text lane = none := by
      by_cases hplot : Plottable p
      · rw [laneResult_of_plottable hopen hplot, if_neg hlane]
      · exact laneResult_of_not_plottable hopen hplot
    rw [hnone hopenA hlane, hnone hopenB hlaneB]
    exact ⟨rfl, iff_of_true rfl fun _ h => absurd h hlane⟩

/-- A report as the tools write it. -/
theorem wellFormed_records {header : List Text} (records : List EomResult)
    (hlines : ∀ line ∈ header, IsLine line)
    (hheader : ∀ line ∈ header, notRecord (split line) = true) :
    WellFormed (header ++ records.map eomRecordLine).flatten header
      (records.map eomRecordLine) := by
  constructor
  · apply readLines_flatten
    intro line hline
    rcases List.mem_append.mp hline with hline | hline
    · exact hlines line hline
    · obtain ⟨e, -, rfl⟩ := List.mem_map.mp hline
      rw [eomRecordLine_eq]
      exact isLine_wordLine (isWord_recordWords e)
  · exact hheader
  · intro line hline
    obtain ⟨e, -, rfl⟩ := List.mem_map.mp hline
    rw [eomRecordLine_eq]
    exact noMark_recordWords e

def smallHeader : List Text :=
  [lit "- - - - UFS Gear Speed: HS-G5 Rate-B\n",
    lit "TimingMaxSteps 1, TimingMaxOffset 20\n",
    lit "VoltageMaxSteps 1, VoltageMaxOffset 2\n"]

def smallReport (records : List EomResult) : Text :=
  (smallHeader ++ records.map eomRecordLine).flatten

theorem wellFormed_small (records : List EomResult) :
    WellFormed (smallReport records) smallHeader
      (records.map eomRecordLine) := by
  have hended : ∀ line ∈ smallHeader, line = line.dropLast ++ ['\n'] ∧
      '\n' ∉ line.dropLast ∧ '\r' ∉ line := by
    decide +kernel
  apply wellFormed_records
  · intro line hline
    obtain ⟨hlast, hbody, hplain⟩ := hended line hline
    exact ⟨⟨_, hlast, hbody⟩, hplain⟩
  · decide +kernel

/-- A lane without errors. -/
def cleanLane (lane : Int) : List EomResult :=
  (gridPoints 1 1).map fun point => ⟨lane, point.1, point.2, 0⟩

theorem openFile_of_laneResult (pd : Pandas R) (text : Text) (lane : Int)
    (h : laneResult pd text lane ≠ none) :
    ∃ p : EomPlot R, openFile text = .ok p := by
  cases hopen : openFile (R := R) text with
  | error why =>
      rw [laneResult, evaluateFile, hopen] at h
      exact absurd rfl h
  | ok p => exact ⟨p, rfl⟩

theorem laneResult_cleanLane :
    laneResult doubleTable (smallReport (cleanLane 1)) 1 =
      some (.pass, true) := by
  decide +kernel

theorem lane_verdict_independent_small :
    ∃ pA pB : EomPlot Double,
      openFile (smallReport (cleanLane 1)) = .ok pA ∧
      openFile (smallReport (cleanLane 0 ++ cleanLane 1)) = .ok pB ∧
      (laneResult doubleTable (smallReport (cleanLane 1)) 1).map Prod.snd =
        (laneResult doubleTable (smallReport (cleanLane 0 ++ cleanLane 1))
          1).map Prod.snd ∧
      ((laneResult doubleTable (smallReport (cleanLane 1)) 1).map Prod.fst =
          (laneResult doubleTable (smallReport (cleanLane 0 ++ cleanLane 1))
            1).map Prod.fst ↔ Unaffected pA pB 1) := by
  obtain ⟨pA, hopenA⟩ := openFile_of_laneResult doubleTable
    (smallReport (cleanLane 1)) 1 (by simp [laneResult_cleanLane])
  obtain ⟨pB, hopenB⟩ := openFile_of_laneResult doubleTable
    (smallReport (cleanLane 0 ++ cleanLane 1)) 1 (by decide +kernel)
  refine ⟨pA, pB, hopenA, hopenB, ?_⟩
  exact lane_verdict_independent_iff doubleTable (wellFormed_small _)
    (wellFormed_small _) 1 (by decide +kernel) hopenA hopenB

/-- Lane 0 lacks one point of its mask. -/
def gapLane : List EomResult :=
  (cleanLane 0).filter fun e => e.point ≠ (0, 0, 1)

/-- Lane 1 passes alone and shows nothing behind a lane with a gap. -/
theorem gap_hides_other_lane :
    WellFormed (smallReport (cleanLane 1)) smallHeader
        ((cleanLane 1).map eomRecordLine) ∧
      WellFormed (smallReport (gapLane ++ cleanLane 1)) smallHeader
        ((gapLane ++ cleanLane 1).map eomRecordLine) ∧
      recordsOfLane ((cleanLane 1).map eomRecordLine) 1 =
        recordsOfLane ((gapLane ++ cleanLane 1).map eomRecordLine) 1 ∧
      laneResult doubleTable (smallReport (cleanLane 1)) 1 =
        some (.pass, true) ∧
      laneResult doubleTable (smallReport (gapLane ++ cleanLane 1)) 1 =
        some (.blank, true) := by
  refine ⟨wellFormed_small _, wellFormed_small _, ?_, laneResult_cleanLane, ?_⟩
  · decide +kernel
  · decide +kernel

end UfsTools
