/-
A whole run of ufseom on a link with eye monitors: it measures the eye of the
link, all of it that was asked for, and reports it.
-/
import UfsTools.EomOnLink
import UfsTools.EyeBench
import UfsTools.EomOptions

namespace UfsTools

open CLib ByteCodec Getopt Process

variable {D : Type} {link : EyeLink D} {c c' c'' : EomMachine D}

/-! The strings of a device. -/

/-- The characters of a string descriptor: the bytes behind its header that are
not zero. -/
def stringText (bytes : List UInt8) : Text :=
  (bytes.drop 2).filterMap fun b =>
    if b = 0 then none else some (Char.ofNat b.toNat)

/-- The length of a descriptor is its first byte. -/
def WholeDescriptor (bytes : List UInt8) : Prop :=
  0 < bytes.length ∧ (bytes.getD 0 0).toNat = bytes.length

/-- The string descriptor the device descriptor names at an offset. -/
def Inquiry.stringAt {dev : Device SysCall SysReply D} (inquiry : Inquiry dev)
    (offset : Nat) : List UInt8 :=
  inquiry.descriptor stringDescriptorIdn
    (((inquiry.descriptor deviceDescriptorIdn 0).take
      descriptorBufferSize).getD offset 0).toNat

/-- A string that fits into the array it is copied to. -/
def StringFits (bytes : List UInt8) (size : Nat) : Prop :=
  WholeDescriptor bytes ∧ (stringText bytes).length < size

/-- The strings of the report, as `struct` members that are large enough. -/
structure Inquiry.Fits {dev : Device SysCall SysReply D}
    (inquiry : Inquiry dev) : Prop where
  mname : StringFits (inquiry.stringAt manufacturerNameOffset)
    manufacturerNameStringDescSize
  pname : StringFits (inquiry.stringAt productNameOffset)
    productNameStringDescSize
  pver : StringFits (inquiry.stringAt productRevisionLevelOffset)
    productRevisionLevelStringDescSize

/-- Of a whole string descriptor nothing is left of what the buffer held. -/
theorem parseStringDesc_received (buf : DescBuf) {r : SysReply}
    (hwhole : WholeDescriptor r.data) :
    parseStringDesc (received buf (UInt16.ofNat descriptorBufferSize) r) =
      stringText r.data := by
  obtain ⟨hpos, hlength⟩ := hwhole
  have hshort : r.data.length ≤ descriptorBufferSize := by
    have hbyte := (r.data.getD 0 0).toNat_lt
    have hsize : descriptorBufferSize = 256 := rfl
    omega
  have htake : r.data.take descriptorBufferSize = r.data :=
    List.take_of_length_le hshort
  have hbyte : ∀ i < r.data.length,
      byte (received buf (UInt16.ofNat descriptorBufferSize) r) i =
        r.data.getD i 0 := by
    intro i hi
    rw [byte_received (htake.symm ▸ hi), htake]
  have hbytes : (List.range r.data.length).map
      (byte (received buf (UInt16.ofNat descriptorBufferSize) r)) =
        r.data := by
    apply List.ext_getElem (by simp)
    intro i hi hi'
    rw [List.getElem_map, List.getElem_range, hbyte i hi',
      List.getD_eq_getElem _ _ hi']
  rw [parseStringDesc, hbyte 0 hpos, hlength, List.map_drop, hbytes,
    stringText]

/-! The report. -/

variable {Q : Int → EomMachine D → Prop} {inquiry : Inquiry link.device}

theorem meets_readDescriptor (inquiry : Inquiry link.device)
    (idn index : Int) {buf : DescBuf}
    {Q : Int × DescBuf → EomMachine D → Prop}
    (h : ∀ c' r, Looks link c c' → r.data = inquiry.descriptor idn index →
      Q (success, received buf (UInt16.ofNat descriptorBufferSize) r) c') :
    meets link.device (queryReadDescriptor c.mem.bsgFd idn index 0 buf
      (UInt16.ofNat descriptorBufferSize)) Q c := by
  obtain ⟨hstatus, hdata⟩ :=
    inquiry.answers c.device c.mem.bsgFd idn index
  rw [descriptorQuery] at hstatus hdata
  rw [queryReadDescriptor_eq_exchange]
  apply meets_exchange_silent
  · rw [queryNotes_of_success hstatus, hstatus]
    rfl
  · rw [hstatus]
    exact h _ _ (.after c (not_isSet_query _ _)) hdata

theorem writtenOf_stores {entries : List Note}
    (h : ∀ n ∈ entries, ∃ size i, n = .storeChar size i) :
    writtenOf entries = [] := by
  rw [writtenOf, List.filterMap_eq_nil_iff]
  intro n hn
  obtain ⟨size, i, rfl⟩ := h n hn
  rfl

theorem meets_readString (inquiry : Inquiry link.device) {index : UInt8}
    {size : Nat} {failed : String} {buf : DescBuf}
    {use : Text → DescBuf → Prog EomGlobals Int}
    (hfits : StringFits (inquiry.descriptor stringDescriptorIdn index.toNat)
      size) (hsize : size ≤ stringBufferSize)
    (h : ∀ c' buf', Looks link c c' → meets link.device (use (stringText
      (inquiry.descriptor stringDescriptorIdn index.toNat)) buf') Q c') :
    meets link.device (readString index size failed buf use) Q c := by
  obtain ⟨hwhole, hlength⟩ := hfits
  rw [readString]
  apply meets_bind
  apply meets_get
  apply meets_bind
  apply meets_readDescriptor inquiry stringDescriptorIdn index.toNat
  intro c₁ r h₁ hdata
  rw [← hdata] at hwhole hlength h
  have htext := parseStringDesc_received buf hwhole
  have hshort : ¬ stringBufferSize ≤ (stringText r.data).length := by omega
  simp only [success, ne_eq, not_true_eq_false, if_false, htext,
    if_neg hshort, if_neg (not_le.mpr hlength)]
  apply meets_bind
  apply meets_notes
  apply meets_bind
  apply meets_notes
  apply h
  apply (h₁.trans (Looks.of_notes _)).trans (Looks.of_notes _)
  · apply writtenOf_stores
    exact forall_mem_parseStringDescStores (fun size i => ⟨size, i, rfl⟩) _
  · apply writtenOf_stores
    exact forall_mem_strcpyStores (fun size i => ⟨size, i, rfl⟩) size _

theorem meets_getDeviceInfo (hfits : inquiry.Fits)
    {use : Text → Text → Text → Prog EomGlobals Int}
    (h : ∀ c', Looks link c c' → meets link.device
      (use (stringText (inquiry.stringAt manufacturerNameOffset))
        (stringText (inquiry.stringAt productNameOffset))
        (stringText (inquiry.stringAt productRevisionLevelOffset))) Q c') :
    meets link.device (getDeviceInfo use) Q c := by
  rw [getDeviceInfo]
  apply meets_bind
  apply meets_get
  apply meets_bind
  apply meets_readDescriptor inquiry deviceDescriptorIdn 0
  intro c₁ r h₁ hdata
  simp only [success, ne_eq, not_true_eq_false, if_false, byte_received_zero,
    hdata]
  apply meets_readString inquiry hfits.mname (by decide)
  intro c₂ buf₂ h₂
  apply meets_readString inquiry hfits.pname (by decide)
  intro c₃ buf₃ h₃
  apply meets_readString inquiry hfits.pver (by decide)
  intro c₄ buf₄ h₄
  exact h c₄ (((h₁.trans h₂).trans h₃).trans h₄)

/-- The eye of the link at the points `main` is to measure. -/
def EyeLink.eye (link : EyeLink D) (g : EomGlobals) : List EomResult :=
  (scanBox g).points.map (link.resultAt g.eomData.localPeer)

def Inquiry.reportHeader {dev : Device SysCall SysReply D}
    (inquiry : Inquiry dev) (data : EOMData) : List Text :=
  eomReportHeader (stringText (inquiry.stringAt manufacturerNameOffset))
    (stringText (inquiry.stringAt productNameOffset))
    (stringText (inquiry.stringAt productRevisionLevelOffset)) data

/-- The results are the eye of the link, and the report lists it. -/
structure Reported (inquiry : Inquiry link.device) (g : EomGlobals)
    (c : EomMachine D) : Prop where
  results : c.mem.eomData.results = link.eye g
  lines : reportLines c =
    inquiry.reportHeader g.eomData ++ (link.eye g).map eomRecordLine

theorem Reported.note {g : EomGlobals} {n : Note}
    (hr : Reported inquiry g c) (hn : writtenOf [n] = []) :
    Reported inquiry g { c with trace := c.trace ++ [.note n] } :=
  ⟨hr.results, (reportLines_note hn).trans hr.lines⟩

theorem meets_generateEomReport {file : Text} {d : D} {g : EomGlobals}
    (hfits : inquiry.Fits) (hm : Measured link d g (scanBox g).points c) :
    meets link.device (generateEomReport file) (fun ret c' => ret = success ∧
      link.Unchanged d c'.device ∧ Reported inquiry g c') c := by
  rw [generateEomReport]
  apply meets_getDeviceInfo hfits
  intro c₁ h₁
  apply meets_bind
  apply meets_get
  apply meets_bind
  apply meets_ownCall (by simp)
  intro c₂ h₂
  simp only [if_neg (link.creates c₁.device file)]
  apply meets_bind
  apply meets_notes
  apply meets_bind
  apply meets_note
  apply meets_pure
  have hm₂ := (hm.looks h₁).looks h₂
  obtain ⟨er, n, hmem⟩ := hm₂.frame
  have hreport : eomReport (stringText (inquiry.stringAt
      manufacturerNameOffset)) (stringText (inquiry.stringAt
        productNameOffset)) (stringText (inquiry.stringAt
          productRevisionLevelOffset)) c₁.mem.eomData =
      inquiry.reportHeader g.eomData ++ (link.eye g).map eomRecordLine := by
    rw [EyeLink.eye, ← hm₂.results, ← h₂.mem, hmem]
    rfl
  refine ⟨rfl, hm₂.unchanged, Reported.note ⟨hm₂.results, ?_⟩ rfl⟩
  rw [reportLines_notes, hm₂.lines, writtenOf_map_fprint, List.nil_append,
    hreport]

/-! The loops and what stands around them. -/

/-- The loops can be started with these variables. -/
structure Startable (g : EomGlobals) : Prop where
  lanes : LanesChosen g
  target : TargetFits g.targetTestCount
  empty : g.eomData.dataCnt = 0
  timing : g.timingLeft ≤ g.timingRight
  voltage : g.voltageLow ≤ g.voltageHigh
  fits : ScanFits g

theorem meets_scanAndReport {file : Text} (hfits : inquiry.Fits)
    (hstart : Startable c.mem) (hlines : reportLines c = []) :
    meets link.device (scanAndReport file) (fun ret c' => ret = success ∧
      link.Unchanged c.device c'.device ∧ Reported inquiry c.mem c') c := by
  have hsize : ¬ intMax < scanSize c.mem := not_lt.mpr hstart.fits.size
  have hpos := scanSize_pos hstart.lanes hstart.timing hstart.voltage
  rw [scanAndReport]
  apply meets_bind
  apply meets_get
  simp only [if_neg hsize]
  apply meets_bind
  apply meets_modify
  apply meets_bind
  apply meets_ownCall (by simp)
  intro c₁ h₁
  simp only [if_neg (link.allocates _ _)]
  apply meets_bind
  apply meets_modify
  apply meets_bind
  apply meets_note
  apply meets_bind
  apply meets_ownCall (by simp)
  intro c₂ h₂
  obtain ⟨g, hg⟩ : ∃ g, g = { c.mem with
    eomResultCount := scanSize c.mem
    eomData := { c.mem.eomData with
      er := List.replicate (scanSize c.mem).toNat ⟨0, 0, 0, 0⟩ } } := ⟨_, rfl⟩
  have hmem : c₂.mem = g := by
    rw [h₂.mem, hg, h₁.mem]
    rfl
  have hready : LoopsReady g := by
    rw [hg]
    exact ⟨⟨hstart.lanes, hstart.timing, hstart.voltage, rfl⟩, hstart.target,
      hstart.fits.size, hstart.fits.timing, hstart.fits.voltage⟩
  have hm : Measured link c.device g [] c₂ := by
    refine ⟨⟨_, _, hmem⟩, ?_, ?_, ?_, ?_,
      h₁.calm.unchanged.trans h₂.calm.unchanged⟩
    · rw [hmem, hg, List.length_replicate]
      exact Int.toNat_of_nonneg hpos.le
    · rw [hmem, hg]
      exact hstart.empty
    · rw [hmem, hg, EOMData.results, hstart.empty]
      rfl
    · rw [h₂.lines, reportLines_note rfl]
      exact h₁.lines.trans hlines
  apply meets_bind
  apply meets_imp (meets_scanLanes hready hm)
  rintro out c₃ ⟨rfl, h₃⟩
  apply meets_bind
  apply meets_ownCall (by simp)
  intro c₄ h₄
  apply meets_bind
  apply meets_note
  apply meets_bind
  have h₅ {n : Note} (hn : writtenOf [n] = []) :
      Measured link c.device g (scanBox g).points
        { c₄ with trace := c₄.trace ++ [.note n] } :=
    (h₃.looks h₄).looks (.of_note hn)
  refine meets_imp (meets_generateEomReport hfits (h₅ ?_)) ?_
  · rfl
  rintro ret c₆ ⟨rfl, hsame, h₆⟩
  apply meets_bind
  apply meets_notes
  apply meets_pure
  rw [hg] at h₆
  refine ⟨rfl, hsame, h₆.results, ?_⟩
  rw [reportLines_notes, h₆.lines]
  exact List.append_nil _

/-! What `main` reads of the link before it starts. -/

/-- A capability of the lane `main` looks at. -/
def EyeLink.capability (link : EyeLink D) (d : D) (g : EomGlobals)
    (attr : Int) : Int :=
  (link.register d).reading g.eomData.localPeer attr g.lane

/-- The variables with the capabilities of the lane and the ranges they
leave. -/
def EyeLink.surveyed (link : EyeLink D) (d : D) (g : EomGlobals) :
    EomGlobals :=
  let capability := link.capability d g
  timingVoltageDefaults { g with eomData := { g.eomData with
    timingMaxSteps := capability rxEyemonTimingMaxStepsCapability
    timingMaxOffset := capability rxEyemonTimingMaxOffsetCapability
    voltageMaxSteps := capability rxEyemonVoltageMaxStepsCapability
    voltageMaxOffset := capability rxEyemonVoltageMaxOffsetCapability } }

/-- What `main` reads of the link is no failure, and the grid of a scan that
passes its checks fits an `int`. -/
structure EyeLink.Readable (link : EyeLink D) (d : D) (g : EomGlobals) :
    Prop where
  capabilities : ∀ attr ∈ capabilityAttributes,
    ((link.register d).ofLane g.eomData.localPeer attr g.lane).toNat <
      0x80000000
  speeds : ∀ attr ∈ [paRxgear, rxHsrateSeries],
    ((link.register d).ofLane .localSide attr 0).toNat < 0x80000000
  fits : timingVoltageError (link.surveyed d g) = none →
    ScanFits (link.surveyed d g)

/-- The variables are as an accepted command line leaves them. -/
structure EyeLink.Ready (link : EyeLink D) (d : D) (g : EomGlobals) : Prop
    extends link.Readable d g where
  lanes : LanesChosen g
  target : TargetFits g.targetTestCount
  empty : g.eomData.dataCnt = 0

/-- From `c` to `c'` the program read registers and left its variables as
`g`. -/
structure Probes (link : EyeLink D) (g : EomGlobals) (c c' : EomMachine D) :
    Prop where
  mem : c'.mem = g
  lines : reportLines c' = reportLines c
  calm : link.Calm c.device c'.device

variable {g g' : EomGlobals}

theorem Probes.looks (hleft : Probes link g c c') (hright : Looks link c' c'') :
    Probes link g c c'' :=
  ⟨hright.mem.trans hleft.mem, hright.lines.trans hleft.lines,
    hleft.calm.trans hright.calm⟩

theorem Looks.probes (hlooks : Looks link c c') : Probes link c.mem c c' :=
  ⟨hlooks.mem, hlooks.lines, hlooks.calm⟩

theorem Probes.modify (hprobes : Probes link g c c')
    (f : EomGlobals → EomGlobals) :
    Probes link (f g) c { c' with mem := f c'.mem } :=
  ⟨congrArg f hprobes.mem, hprobes.lines, hprobes.calm⟩

theorem LanesChosen.isLane (h : LanesChosen g) : IsLane g.lane := by
  rw [IsLane]
  rcases h with h | h <;> omega

theorem mem_heldAttributes :
    ∀ attr ∈ capabilityAttributes, attr ∈ heldAttributes := by
  decide

/-- A capability reads as it did when the program began to read them. -/
theorem meets_readCapability {attr : Int} {name : String}
    {record : EOMData → Int → EOMData} {next : Prog EomGlobals Int}
    (hread : link.Ready c.device c.mem) (hprobes : Probes link g c c')
    (hsame : g.lane = c.mem.lane ∧
      g.eomData.localPeer = c.mem.eomData.localPeer)
    (hattr : attr ∈ capabilityAttributes)
    (h : ∀ c'', Probes link { g with
      eomData := record g.eomData (link.capability c.device c.mem attr) } c
        c'' → meets link.device next Q c'') :
    meets link.device (readCapability attr name record next) Q c' := by
  have hheld := mem_heldAttributes attr hattr
  have hvalue : (link.register c'.device).ofLane c'.mem.eomData.localPeer attr
      c'.mem.lane = (link.register c.device).ofLane c.mem.eomData.localPeer
        attr c.mem.lane := by
    rw [hprobes.mem, hsame.1, hsame.2]
    exact hprobes.calm.held _ _ hread.lanes.isLane _ hheld
  rw [readCapability]
  apply meets_bind
  apply meets_get
  apply meets_readRegister hvalue (hread.capabilities attr hattr)
  intro c₁ h₁ _
  apply meets_bind
  apply meets_modify
  apply h
  have hlooked := hprobes.looks h₁
  exact ⟨by rw [hlooked.mem]; rfl, hlooked.lines, hlooked.calm⟩

/-- A run on a link as in `d` has reported its eye, or has refused to, and the
link can do what it could. -/
structure Outcome (inquiry : Inquiry link.device) (d : D) (passes : Prop)
    (g : EomGlobals) (ret : Int) (c : EomMachine D) : Prop where
  unchanged : link.Unchanged d c.device
  reports : (ret = success ∧ passes ∧ Reported inquiry g c) ∨
    (ret = error ∧ ¬ passes ∧ reportLines c = [])

variable {d : D} {passes : Prop} {ret : Int}

theorem Outcome.note {n : Note} (ho : Outcome inquiry d passes g ret c)
    (hn : writtenOf [n] = []) : Outcome inquiry d passes g ret
      { c with trace := c.trace ++ [.note n] } := by
  refine ⟨ho.unchanged, ?_⟩
  rcases ho.reports with ⟨hret, hpasses, hreported⟩ | ⟨hret, hpasses, hlines⟩
  · exact .inl ⟨hret, hpasses, hreported.note hn⟩
  · exact .inr ⟨hret, hpasses, (reportLines_note hn).trans hlines⟩

/-- The outcome is about what the variables say of the scan. -/
theorem Outcome.of_eq {passes' : Prop}
    (ho : Outcome inquiry d passes g ret c) (hpasses : passes ↔ passes')
    (heye : link.eye g' = link.eye g) (hdata : g'.eomData = g.eomData) :
    Outcome inquiry d passes' g' ret c := by
  refine ⟨ho.unchanged, ?_⟩
  rw [← hpasses]
  rcases ho.reports with ⟨hret, hpasses, hreported⟩ | hrefused
  · refine .inl ⟨hret, hpasses, ?_, ?_⟩
    · rw [heye]
      exact hreported.results
    · rw [heye, hdata]
      exact hreported.lines
  · exact .inr hrefused

/-- What came before the run left the link as it was. -/
theorem Outcome.since {d' : D} (ho : Outcome inquiry d passes g ret c)
    (hsame : link.Unchanged d' d) : Outcome inquiry d' passes g ret c :=
  ⟨hsame.trans ho.unchanged, ho.reports⟩

theorem meets_measureEye (hfits : inquiry.Fits)
    (hread : link.Ready c.device c.mem) (hlines : reportLines c = []) :
    meets link.device measureEye (Outcome inquiry c.device
      (timingVoltageError (link.surveyed c.device c.mem) = none)
      (link.surveyed c.device c.mem)) c := by
  rw [measureEye]
  apply meets_bind
  apply meets_get
  apply meets_readCapability hread ⟨rfl, rfl, .refl _⟩ ⟨rfl, rfl⟩ (by decide)
  intro c₁ h₁
  apply meets_readCapability hread h₁ ⟨rfl, rfl⟩ (by decide)
  intro c₂ h₂
  apply meets_readCapability hread h₂ ⟨rfl, rfl⟩ (by decide)
  intro c₃ h₃
  apply meets_readCapability hread h₃ ⟨rfl, rfl⟩ (by decide)
  intro c₄ h₄
  obtain ⟨entries, hdiscreet, hgoes⟩ := goesOn_checkAndScan
    (c.mem.outputPath ++ eomFileName c.mem) c₄.mem
  apply hgoes.meets
  have hfilled : timingVoltageDefaults c₄.mem =
      link.surveyed c.device c.mem := by
    rw [h₄.mem]
    rfl
  rw [hfilled]
  have hwritten : reportLines (⟨c₄.device, c₄.trace ++ entries.map .note,
      link.surveyed c.device c.mem⟩ : EomMachine D) = [] := by
    rw [← hlines, ← h₄.lines, reportLines, reportLines, notesOf_append,
      notesOf_map_note, writtenOf_append, writtenOf_of_discreet hdiscreet,
      List.append_nil]
  have hsame : link.Unchanged c.device c₄.device := h₄.calm.unchanged
  split_ifs with hcheck
  · obtain ⟨htiming, hvoltage⟩ := timingVoltage_ordered hcheck
    have hstart : Startable (link.surveyed c.device c.mem) :=
      ⟨hread.lanes, hread.target, hread.empty, htiming, hvoltage,
        hread.fits hcheck⟩
    apply meets_imp (meets_scanAndReport hfits hstart hwritten)
    rintro ret c₅ ⟨rfl, hscanned, h₅⟩
    exact ⟨hsame.trans hscanned, .inl ⟨rfl, hcheck, h₅⟩⟩
  · apply meets_pure
    exact ⟨hsame, .inr ⟨rfl, hcheck, hwritten⟩⟩

/-! What is read of the link does not depend on when it is read. -/

theorem mem_reportedAttributes :
    ∀ attr ∈ capabilityAttributes, attr ∈ reportedAttributes := by
  decide

namespace EyeLink.Unchanged

variable {d' : D}

theorem speed (hsame : link.Unchanged d d') {attr : Int}
    (hattr : attr ∈ [paRxgear, rxHsrateSeries]) :
    (link.register d').ofLane .localSide attr 0 =
      (link.register d).ofLane .localSide attr 0 :=
  hsame _ _ (.inl rfl) _ (List.mem_append_right capabilityAttributes hattr)

theorem capability (hsame : link.Unchanged d d') (hlanes : LanesChosen g)
    {attr : Int} (hattr : attr ∈ capabilityAttributes) :
    link.capability d' g attr = link.capability d g attr := by
  have hheld := hsame g.eomData.localPeer g.lane hlanes.isLane attr
    (mem_reportedAttributes attr hattr)
  rw [EyeLink.capability, EyeLink.capability, Registers.reading,
    Registers.reading, hheld]

theorem surveyed (hsame : link.Unchanged d d') (hlanes : LanesChosen g) :
    link.surveyed d' g = link.surveyed d g := by
  simp only [EyeLink.surveyed]
  rw [hsame.capability hlanes (by decide), hsame.capability hlanes (by decide),
    hsame.capability hlanes (by decide), hsame.capability hlanes (by decide)]

theorem readable (hsame : link.Unchanged d d') (hlanes : LanesChosen g)
    (hread : link.Readable d g) : link.Readable d' g := by
  constructor
  · intro attr hattr
    rw [hsame _ _ hlanes.isLane _ (mem_reportedAttributes attr hattr)]
    exact hread.capabilities attr hattr
  · intro attr hattr
    rw [hsame.speed hattr]
    exact hread.speeds attr hattr
  · rw [hsame.surveyed hlanes]
    exact hread.fits

theorem ready (hsame : link.Unchanged d d') (hread : link.Ready d g) :
    link.Ready d' g :=
  ⟨hsame.readable hread.lanes hread.toReadable, hread.lanes, hread.target,
    hread.empty⟩

end EyeLink.Unchanged

/-- The descriptors the program opens say nothing about the link. -/
theorem EyeLink.Ready.opened {d : D} (hread : link.Ready d g)
    (bsgFd tmpFd : Int) :
    link.Ready d { g with bsgFd := bsgFd, tmpFd := tmpFd } := by
  refine ⟨⟨hread.capabilities, hread.speeds, fun hcheck => ?_⟩,
    hread.lanes, hread.target, hread.empty⟩
  have hfits := hread.fits hcheck
  exact ⟨hfits.size, hfits.timing, hfits.voltage⟩

theorem meets_open {path : Text} {flag : OpenFlag}
    (h : ∀ fd c', 0 ≤ fd → Looks link c c' → Q fd c') :
    meets link.device (sysCall (.open path flag)) Q c :=
  meets_ownCall (by simp) fun c' => h _ c' (link.opens _ _ _)

theorem meets_closeTmp (ho : Outcome inquiry d passes g ret c) :
    meets link.device (closeTmp ret) (Outcome inquiry d passes g) c := by
  rw [closeTmp]
  apply meets_bind
  apply meets_get
  apply meets_bind
  apply meets_note
  exact meets_pure (ho.note rfl)

/-- With or without a file for the I/O the eye is the same. -/
theorem meets_measureAndClose (hfits : inquiry.Fits)
    (hread : link.Ready c.device g) (hprobes : Probes link g c c')
    (hlines : reportLines c = []) :
    meets link.device (measureEye >>= closeTmp) (Outcome inquiry c.device
      (timingVoltageError (link.surveyed c.device g) = none)
      (link.surveyed c.device g)) c' := by
  have hsame := hprobes.calm.unchanged
  have hread' := hsame.ready hread
  rw [← hprobes.mem] at hread'
  have hmeasured := meets_measureEye hfits hread'
    (hprobes.lines.trans hlines)
  rw [hprobes.mem, hsame.surveyed hread.lanes] at hmeasured
  apply meets_bind
  apply meets_imp hmeasured
  exact fun ret c₁ ho => meets_closeTmp (ho.since hsame)

theorem meets_prepareIo (hfits : inquiry.Fits)
    (hread : link.Ready c.device g) (hprobes : Probes link g c c')
    (hlines : reportLines c = []) :
    meets link.device prepareIo (Outcome inquiry c.device
      (timingVoltageError (link.surveyed c.device g) = none)
      (link.surveyed c.device g)) c' := by
  rw [prepareIo]
  apply meets_bind
  apply meets_get
  by_cases hio : c'.mem.doIo
  · simp only [if_pos hio]
    apply meets_bind
    apply meets_open
    intro fd c₁ hfd h₁
    apply meets_bind
    apply meets_modify
    simp only [if_neg (not_lt.mpr hfd)]
    apply meets_bind
    apply meets_ownCall (by simp)
    intro c₂ h₂
    simp only [if_neg (link.aligns _ _ _)]
    have htmp := ((hprobes.looks h₁).modify
      fun g => { g with tmpFd := fd }).looks h₂
    apply meets_imp
      (meets_measureAndClose hfits (hread.opened g.bsgFd fd) htmp hlines)
    exact fun ret c₃ ho => ho.of_eq .rfl rfl rfl
  · simp only [if_neg hio]
    exact meets_measureAndClose hfits hread hprobes hlines

/-! The checks of `main`. -/

/-- The variables behind the checks. -/
def EyeLink.probed (link : EyeLink D) (d : D) (g : EomGlobals) : EomGlobals :=
  link.surveyed d { g with eomData := { g.eomData with
    gear := (link.register d).reading .localSide paRxgear 0
    rate := (link.register d).reading .localSide rxHsrateSeries 0 } }

/-- What `main` checks about the link. -/
structure EyeLink.Passes (link : EyeLink D) (d : D) (g : EomGlobals) :
    Prop where
  capability : (link.register d).ofLane g.eomData.localPeer
    rxEyemonCapability g.lane &&& 0x1 ≠ 0
  gear : eomSupportedMinGear ≤ (link.register d).reading .localSide paRxgear 0
  ranges : timingVoltageError (link.probed d g) = none

theorem Outcome.refused (hpasses : ¬ passes) (hprobes : Probes link g' c c')
    (hlines : reportLines c = []) {n : Note} (hn : writtenOf [n] = []) :
    Outcome inquiry c.device passes g error
      { c' with trace := c'.trace ++ [.note n] } :=
  ⟨hprobes.calm.unchanged, .inr ⟨rfl, hpasses,
    (reportLines_note hn).trans (hprobes.lines.trans hlines)⟩⟩

/-- What is noted of the speed of the link changes no range. -/
theorem EyeLink.Ready.withSpeed {d : D} (hready : link.Ready d g)
    (gear rate : Int) : link.Ready d
      { g with eomData := { g.eomData with gear := gear, rate := rate } } := by
  refine ⟨⟨hready.capabilities, hready.speeds, fun hcheck => ?_⟩,
    hready.lanes, hready.target, hready.empty⟩
  have hgrid := hready.fits hcheck
  exact ⟨hgrid.size, hgrid.timing, hgrid.voltage⟩

theorem meets_checkLink (hfits : inquiry.Fits)
    (hready : link.Ready c.device g) (hprobes : Probes link g c c')
    (hlines : reportLines c = []) :
    meets link.device checkLink (Outcome inquiry c.device
      (link.Passes c.device g) (link.probed c.device g)) c' := by
  have hheld {d : D} (hcalm : link.Calm c.device d) :
      link.register d g.eomData.localPeer
          (uicArgMibSel rxEyemonCapability (selectRx g.lane)) =
        (link.register c.device).ofLane g.eomData.localPeer
          rxEyemonCapability g.lane :=
    hcalm.held _ _ hready.lanes.isLane _ (by decide)
  have hspeed {d : D} (hcalm : link.Calm c.device d) {attr : Int}
      (hattr : attr ∈ [paRxgear, rxHsrateSeries]) :
      link.register d .localSide (uicArgMibSel attr (selectRx 0)) =
        (link.register c.device).ofLane .localSide attr 0 :=
    hcalm.unchanged.speed hattr
  rw [← hprobes.mem] at hheld
  rw [checkLink]
  apply meets_bind
  apply meets_get
  apply meets_readRegister (hheld hprobes.calm)
  · rw [hprobes.mem]
    exact hready.capabilities rxEyemonCapability (by decide)
  intro c₁ h₁ _
  have hp₁ := hprobes.looks h₁
  rw [ofInt_toNat, hprobes.mem]
  split_ifs with hcap
  · apply meets_bind
    apply meets_note
    apply meets_pure
    exact Outcome.refused (fun hpasses => hpasses.capability hcap) hp₁ hlines
      rfl
  apply meets_readRegister (hspeed hp₁.calm (by decide))
    (hready.speeds paRxgear (by decide))
  intro c₂ h₂ _
  apply meets_bind
  apply meets_verboseNotes
  intro c₃ h₃
  have hp₃ := (hp₁.looks h₂).looks h₃
  split_ifs with hgear
  · apply meets_bind
    apply meets_note
    apply meets_pure
    exact Outcome.refused (fun hpasses => absurd hgear
      (not_lt.mpr hpasses.gear)) hp₃ hlines rfl
  apply meets_bind
  apply meets_modify
  have hp₄ := hp₃.modify fun g => { g with
    eomData := { g.eomData with
      gear := (link.register c.device).reading .localSide paRxgear 0 } }
  apply meets_readRegister (hspeed hp₄.calm (by decide))
    (hready.speeds rxHsrateSeries (by decide))
  intro c₅ h₅ _
  apply meets_bind
  apply meets_verboseNotes
  intro c₆ h₆
  apply meets_bind
  apply meets_modify
  have hp₇ := ((hp₄.looks h₅).looks h₆).modify fun g => { g with
    eomData := { g.eomData with
      rate := (link.register c.device).reading .localSide rxHsrateSeries 0 } }
  have hspeeded := hready.withSpeed
    ((link.register c.device).reading .localSide paRxgear 0)
    ((link.register c.device).reading .localSide rxHsrateSeries 0)
  apply meets_imp (meets_prepareIo hfits hspeeded hp₇ hlines)
  intro ret c₈ ho
  refine ho.of_eq ⟨?_, ?_⟩ rfl rfl
  · exact fun hcheck => ⟨hcap, not_lt.mp hgear, hcheck⟩
  · exact fun hpasses => hpasses.ranges

/-! The command line. -/

/-- Not given, or one of those the option takes. -/
def TargetGiven (g : EomGlobals) : Prop :=
  g.targetTestCount = init ∨
    0 < g.targetTestCount ∧ g.targetTestCount ≤ eomTargetTestCountMax

theorem parseOption_target (g : EomGlobals) (o : Occurrence) (g' : EomGlobals)
    (hg : TargetGiven g) (h : parseOption g o = .ok g') : TargetGiven g' := by
  obtain ⟨v, -, hread, rfl⟩ := parseOption_ok h
  cases v with
  | targetTestCount t => exact .inr hread
  | _ => exact hg

theorem parseArgs_target {argv : List Text} {entries : List Note}
    (h : parseArgs argv (initEomOperation {}) = .ok (g, entries)) :
    TargetFits g.targetTestCount := by
  obtain ⟨g₁, hloop, hchecks⟩ := parseArgs_loop h
  have hgiven : TargetGiven g₁ :=
    optionLoop_preserves parseOption_target (.inl rfl) hloop
  simp only [parseDefaults, reject] at hchecks
  split_ifs at hchecks
  obtain ⟨rfl, -⟩ := Prod.mk.inj (Except.ok.inj hchecks)
  have hmax : eomTargetTestCountMax = 127 := rfl
  have hdefault : eomTargetTestCountDefault = 93 := rfl
  simp only [TargetFits, setDefaults]
  rw [TargetGiven] at hgiven
  split_ifs <;> omega

theorem meets_ufseomMain {d : D} {argv : List Text} {entries : List Note}
    (hfits : inquiry.Fits)
    (hargs : parseArgs argv (initEomOperation {}) = .ok (g, entries))
    (hread : link.Readable d g)
    (h : ∀ ret c, Outcome inquiry d (link.Passes d g) (link.probed d g) ret c →
      Q ret c) :
    meets link.device (ufseomMain argv) Q ⟨d, [], {}⟩ := by
  obtain ⟨hlanes, hempty, hquiet⟩ := parseArgs_ok ⟨.inl rfl, rfl⟩ hargs
  have hready : link.Ready d g :=
    ⟨hread, hlanes, parseArgs_target hargs, hempty⟩
  have hwritten : writtenOf entries = [] :=
    writtenOf_of_quiet fun n hn => quiet_of_discreet (hquiet n hn)
  rw [ufseomMain]
  apply meets_bind
  apply meets_modify
  apply meets_bind
  apply meets_get
  simp only [hargs]
  apply meets_bind
  apply meets_notes
  apply meets_bind
  apply meets_modify
  apply meets_bind
  apply meets_open
  intro fd c₁ hfd h₁
  apply meets_bind
  apply meets_modify
  simp only [if_neg (not_lt.mpr hfd)]
  apply meets_bind
  have hopened := h₁.probes.modify fun g => { g with bsgFd := fd }
  have hnothing : reportLines (⟨d, [] ++ entries.map .note, g⟩ :
      EomMachine D) = [] := by
    simpa [reportLines] using hwritten
  apply meets_imp (meets_checkLink hfits (hready.opened fd g.tmpFd) hopened
    hnothing)
  intro ret c₂ ho
  apply meets_bind
  apply meets_note
  apply meets_pure
  apply h
  refine Outcome.note (ho.of_eq ⟨?_, ?_⟩ rfl rfl) rfl
  · exact fun hpasses => ⟨hpasses.capability, hpasses.gear, hpasses.ranges⟩
  · exact fun hpasses => ⟨hpasses.capability, hpasses.gear, hpasses.ranges⟩

/-- An eye that is open at timing 0 only, on lanes with one step either way. -/
def narrowEye : Bench where
  errors _ _ timing _ := if timing = 0 then 0 else 5
  small := by
    intro side lane timing volt
    split_ifs <;> decide
  delay := 3
  descriptor := [4, 5, 0, 65]

def narrowState : BenchState where
  memory _ sel := if sel = laneSel paRxgear 0 then 4 else 1
  started _ _ := ⟨0, 0, 0⟩
  busy := 0

theorem narrowEye_fits : narrowEye.inquiry.Fits := by
  constructor <;> exact ⟨⟨by decide, by decide⟩, by decide⟩

theorem peerLine_accepted : parseArgs peerLine (initEomOperation {}) =
    .ok (acceptedGlobals .peerSide, defaultNotes (initEomOperation {})) := by
  decide +kernel

theorem narrowEye_readable :
    narrowEye.link.Readable narrowState (acceptedGlobals .peerSide) := by
  refine ⟨by decide +kernel, by decide +kernel, fun _ => ?_⟩
  constructor <;> decide +kernel

end UfsTools
