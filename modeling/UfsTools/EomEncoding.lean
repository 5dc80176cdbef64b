/-
The steps `eom_scan` writes: a direction bit and six bits of magnitude, for a
range that the device's capabilities bound.
-/
import UfsTools.EomMain
import UfsTools.UicRequest

namespace UfsTools

open CLib

/-- What the eye monitor makes of a steps register: bit 6 is the direction,
the bits below it the magnitude. -/
def decodeSteps (w : UInt32) : Int :=
  if w &&& (1 <<< eomDirectionShift) = 0 then (w &&& eomStepMask).toNat
  else -(w &&& eomStepMask).toNat

theorem ofInt_and_stepMask (x : Int) :
    UInt32.ofInt x &&& eomStepMask = UInt32.ofNat (x % 64).toNat := by
  have hmask : eomStepMask.toNat = 2 ^ 6 - 1 := rfl
  apply UInt32.toNat_inj.mp
  rw [UInt32.toNat_and, hmask, Nat.and_two_pow_sub_one_eq_mod]
  simp only [UInt32.ofInt, UInt32.toNat_ofNat']
  omega

theorem decodeSteps_magnitude : ∀ r < 64,
    decodeSteps ((0 <<< eomDirectionShift) ||| UInt32.ofNat r) = r ∧
      decodeSteps ((1 <<< eomDirectionShift) ||| UInt32.ofNat r) = -r := by
  decide +kernel

/-- The magnitude survives modulo 64. -/
theorem decodeSteps_eomSteps (x : Int) :
    decodeSteps (eomSteps x) = if x < 0 then -(-x % 64) else x % 64 := by
  rw [eomSteps]
  split_ifs with hneg
  · rw [ofInt_and_stepMask]
    have hdecode := (decodeSteps_magnitude (-x % 64).toNat (by omega)).2
    rw [hdecode]
    omega
  · rw [ofInt_and_stepMask]
    have hdecode := (decodeSteps_magnitude (x % 64).toNat (by omega)).1
    rw [hdecode]
    omega

theorem decodeSteps_eq_self_iff (x : Int) :
    decodeSteps (eomSteps x) = x ↔ -63 ≤ x ∧ x ≤ 63 := by
  rw [decodeSteps_eomSteps]
  split_ifs <;> omega

/-! What one call of `eom_scan` writes. -/

/-- The sets `eom_scan` has `config_eom` send for a point. -/
def pointSets (g : EomGlobals) (p : Sweep.Point) : List RegisterSet :=
  configSets g.eomData.localPeer p.1 (eomSteps p.2.1) (eomSteps p.2.2)
    g.targetTestCount

/-- The value that is written to a register of the eye monitor of a lane. -/
def writtenTo (attr lane : Int) (sets : List RegisterSet) : Option UInt32 :=
  (sets.find? fun s => s.attrSel = uicArgMibSel attr (selectRx lane)).map
    RegisterSet.mibVal

/-- The register setting a point is measured with. -/
def settingOf (g : EomGlobals) (p : Sweep.Point) :
    Option UInt32 × Option UInt32 :=
  (writtenTo rxEyemonTimingSteps p.1 (pointSets g p),
    writtenTo rxEyemonVoltageSteps p.1 (pointSets g p))

theorem settingOf_eq (g : EomGlobals) (p : Sweep.Point) :
    settingOf g p = (some (eomSteps p.2.1), some (eomSteps p.2.2)) := by
  have hne : ∀ attr attr' : Int, attr % 65536 ≠ attr' % 65536 →
      (uicArgMibSel attr (selectRx p.1) = uicArgMibSel attr' (selectRx p.1)) =
        False := by
    intro attr attr' h
    exact eq_false (uicArgMibSel_ne _ _ h)
  rw [settingOf, writtenTo, writtenTo, pointSets, configSets]
  simp [hne rxEyemonEnable rxEyemonTimingSteps (by decide),
    hne rxEyemonEnable rxEyemonVoltageSteps (by decide),
    hne rxEyemonTimingSteps rxEyemonVoltageSteps (by decide)]

/-- The registers hold the point. -/
def PointFaithful (g : EomGlobals) (p : Sweep.Point) : Prop :=
  (settingOf g p).map (Option.map decodeSteps) (Option.map decodeSteps) =
    (some p.2.1, some p.2.2)

theorem pointFaithful_iff (g : EomGlobals) (p : Sweep.Point) :
    PointFaithful g p ↔
      (-63 ≤ p.2.1 ∧ p.2.1 ≤ 63) ∧ -63 ≤ p.2.2 ∧ p.2.2 ≤ 63 := by
  rw [PointFaithful, settingOf_eq]
  simp only [Prod.map, Option.map_some, Prod.mk.injEq, Option.some.injEq,
    decodeSteps_eq_self_iff]

/-! What a run writes. -/

/-- Every point the loops pass is held by the registers it is measured with,
and no two of them share a setting. -/
structure EncodesFaithfully (g : EomGlobals) : Prop where
  faithful : ∀ p ∈ (scanBox g).points, PointFaithful g p
  distinct : ∀ p ∈ (scanBox g).points, ∀ q ∈ (scanBox g).points,
    p.2 ≠ q.2 → settingOf g p ≠ settingOf g q

/-- Both ranges stay within six bits. -/
structure StepsFit (g : EomGlobals) : Prop where
  timing : -63 ≤ g.timingLeft ∧ g.timingRight ≤ 63
  voltage : -63 ≤ g.voltageLow ∧ g.voltageHigh ≤ 63

theorem mem_scanBox_iff {g : EomGlobals} {lane timing volt : Int} :
    (lane, timing, volt) ∈ (scanBox g).points ↔
      (g.lane ≤ lane ∧ lane < g.lane + g.eomData.numLanes) ∧
        (g.timingLeft ≤ timing ∧ timing ≤ g.timingRight) ∧
          g.voltageLow ≤ volt ∧ volt ≤ g.voltageHigh := by
  rw [(scanBox g).mem_points_iff]
  simp only [Sweep.Box.Mem, scanBox, Int.lt_add_one_iff]

/-- Whatever capabilities the device reports and whatever ranges the sanity
check accepts for them, the steps written are those of the point for the whole
grid if and only if both ranges stay within six bits. -/
theorem encodesFaithfully_iff {g : EomGlobals} (hlanes : LanesChosen g)
    (hcheck : timingVoltageError (timingVoltageDefaults g) = none) :
    EncodesFaithfully (timingVoltageDefaults g) ↔
      StepsFit (timingVoltageDefaults g) := by
  obtain ⟨htiming, hvoltage⟩ := timingVoltage_ordered hcheck
  have hlane : (timingVoltageDefaults g).lane <
      (timingVoltageDefaults g).lane +
        (timingVoltageDefaults g).eomData.numLanes := by
    have hnum : 0 < g.eomData.numLanes := by
      rcases hlanes with h | h <;> omega
    exact Int.lt_add_of_pos_right _ hnum
  generalize timingVoltageDefaults g = checked at *
  constructor
  · intro henc
    have hfirst := henc.faithful (checked.lane, checked.timingLeft,
      checked.voltageLow) (mem_scanBox_iff.mpr ⟨⟨le_rfl, hlane⟩,
        ⟨le_rfl, htiming⟩, le_rfl, hvoltage⟩)
    have hlast := henc.faithful (checked.lane, checked.timingRight,
      checked.voltageHigh) (mem_scanBox_iff.mpr ⟨⟨le_rfl, hlane⟩,
        ⟨htiming, le_rfl⟩, hvoltage, le_rfl⟩)
    rw [pointFaithful_iff] at hfirst hlast
    constructor
    · exact ⟨hfirst.1.1, hlast.1.2⟩
    · exact ⟨hfirst.2.1, hlast.2.2⟩
  · intro hfit
    have hall : ∀ p ∈ (scanBox checked).points, PointFaithful checked p := by
      rintro ⟨lane, timing, volt⟩ hp
      obtain ⟨-, ht, hv⟩ := mem_scanBox_iff.mp hp
      obtain ⟨htlo, hthi⟩ := hfit.timing
      obtain ⟨hvlo, hvhi⟩ := hfit.voltage
      rw [pointFaithful_iff]
      dsimp only
      omega
    constructor
    · exact hall
    · intro p hp q hq hne heq
      have hpoint := hall p hp
      rw [PointFaithful, heq, hall q hq] at hpoint
      simp only [Prod.mk.injEq, Option.some.injEq] at hpoint
      exact hne (Prod.ext hpoint.1.symm hpoint.2.symm)

/-- Capabilities that `main` takes for valid. -/
structure CapabilitiesRead (g : EomGlobals) : Prop where
  timing : 0 ≤ g.eomData.timingMaxSteps ∧ g.eomData.timingMaxSteps ≤ intMax
  voltage : 0 ≤ g.eomData.voltageMaxSteps ∧ g.eomData.voltageMaxSteps ≤ intMax

/-- The whole range of a device that reports the same number of steps both
ways. -/
def wholeRange (steps : Int) : EomGlobals :=
  { initEomOperation {} with
    lane := 0
    eomData :=
      { timingMaxSteps := steps, voltageMaxSteps := steps, numLanes := 1 } }

theorem encodesFaithfully_63 :
    EncodesFaithfully (timingVoltageDefaults (wholeRange 63)) ↔
      StepsFit (timingVoltageDefaults (wholeRange 63)) := by
  have hlanes : LanesChosen (wholeRange 63) := .inl (by decide)
  have hcheck : timingVoltageError (timingVoltageDefaults (wholeRange 63)) =
      none := by decide +kernel
  exact encodesFaithfully_iff hlanes hcheck

/-- Step -64 of a device that has 64 is written as step 0. -/
theorem step_64_written_as_0 :
    ¬ ∀ g : EomGlobals, LanesChosen g → CapabilitiesRead g →
      timingVoltageError (timingVoltageDefaults g) = none →
        EncodesFaithfully (timingVoltageDefaults g) := by
  intro h
  have hlanes : LanesChosen (wholeRange 64) := .inl (by decide)
  have hcap : CapabilitiesRead (wholeRange 64) := by
    constructor <;> decide +kernel
  have hcheck : timingVoltageError (timingVoltageDefaults (wholeRange 64)) =
      none := by decide +kernel
  have henc := (h _ hlanes hcap hcheck).faithful (0, -64, 0)
    (mem_scanBox_iff.mpr (by decide +kernel))
  rw [pointFaithful_iff] at henc
  have hlow : (-63 : Int) ≤ -64 := henc.1.1
  contradiction

end UfsTools
