/-
The report of `ufs-eom.py` has no line with the gear, and without one the
reader takes none of its records.
-/
import UfsTools.ReportRoundTrip
import UfsTools.ScriptRun

namespace UfsTools

open CLib PyText Process NumberFormat

variable {R : Type} [NumberFormat R]

/-! What the reader keeps over a line. -/

variable {p q : EomPlot R} {line : Text} {words : List Text}

/-- Neither the bad lines nor the gear. -/
def counts (p : EomPlot R) : Nat × Text := (p.badDataCount, p.ufsGear)

/-- The header readers count no bad line, and only one of them notes a gear. -/
theorem readHeader_keeps (h : readHeader line words p = some q) :
    q.badDataCount = p.badDataCount ∧
      ((∀ p : EomPlot R, readGear line words p = some p) → q.ufsGear = p.ufsGear) := by
  obtain ⟨p₁, h₁, h⟩ := Option.bind_eq_some_iff.mp h
  obtain ⟨p₂, h₂, h⟩ := Option.bind_eq_some_iff.mp h
  obtain ⟨p₃, h₃, h⟩ := Option.bind_eq_some_iff.mp h
  obtain ⟨p₄, h₄, h⟩ := Option.bind_eq_some_iff.mp h
  obtain ⟨p₅, h₅, h⟩ := Option.bind_eq_some_iff.mp h
  obtain ⟨p₆, h₆, h₇⟩ := Option.bind_eq_some_iff.mp h
  have hbefore : counts p₅ = counts p := by
    rw [readSize_keeps counts (fun _ _ => rfl) h₅,
      readInquiry_keeps counts (fun _ _ _ => rfl) h₄,
      readVersion_keeps counts (fun _ _ => rfl) h₃,
      readAxis_keeps counts h₂ (fun _ _ _ _ => rfl),
      readAxis_keeps counts h₁ (fun _ _ _ _ => rfl)]
  have hlast := readSide_keeps counts (fun _ _ => rfl) h₇
  constructor
  · calc q.badDataCount = p₆.badDataCount := congrArg Prod.fst hlast
      _ = p₅.badDataCount :=
          readGear_keeps EomPlot.badDataCount (fun _ _ => rfl) h₆
      _ = p.badDataCount := congrArg Prod.fst hbefore
  · intro hgear
    obtain rfl : p₅ = p₆ := Option.some.inj ((hgear p₅).symm.trans h₆)
    exact congrArg Prod.snd (hlast.trans hbefore)

theorem readRecord_keeps (h : readRecord words p = .ok q) :
    p.badDataCount ≤ q.badDataCount ∧ q.ufsGear = p.ufsGear := by
  rw [readRecord] at h
  split at h
  · obtain rfl := Except.ok.inj h
    exact ⟨Nat.le_succ _, rfl⟩
  · simp only at h
    split at h
    · obtain rfl := Except.ok.inj h
      exact ⟨Nat.le_succ _, rfl⟩
    · split at h
      · contradiction
      · split at h
        · obtain rfl := Except.ok.inj h
          exact ⟨le_rfl, rfl⟩
        · split at h
          · obtain rfl := Except.ok.inj h
            exact ⟨le_rfl, rfl⟩
          · contradiction

theorem readLine_keeps (h : readLine p line = .ok q) :
    p.badDataCount ≤ q.badDataCount ∧
      ((∀ p : EomPlot R, readGear line (split line) p = some p) →
        q.ufsGear = p.ufsGear) := by
  rw [readLine] at h
  cases hheader : readHeader line (split line) p with
  | none => simp [hheader] at h
  | some p₁ =>
      obtain ⟨hbad, hgear⟩ := readHeader_keeps hheader
      simp only [hheader] at h
      split at h
      · obtain rfl := Except.ok.inj h
        exact ⟨hbad.ge, hgear⟩
      · obtain ⟨hbad', hgear'⟩ := readRecord_keeps h
        exact ⟨hbad ▸ hbad', fun hline => hgear'.trans (hgear hline)⟩

/-- No line takes a bad line back. -/
theorem foldlM_readLine_badDataCount {lines : List Text}
    (h : lines.foldlM readLine p = .ok q) :
    p.badDataCount ≤ q.badDataCount := by
  induction lines generalizing p with
  | nil =>
      obtain rfl := Except.ok.inj h
      rfl
  | cons line lines ih =>
      rw [List.foldlM_cons] at h
      obtain ⟨p₁, hline, hrest⟩ := bind_ok_inv h
      exact (readLine_keeps hline).1.trans (ih hrest)

theorem foldlM_readLine_ufsGear {lines : List Text}
    (hlines : ∀ line ∈ lines, ∀ p : EomPlot R, readGear line (split line) p = some p)
    (h : lines.foldlM readLine p = .ok q) : q.ufsGear = p.ufsGear := by
  induction lines generalizing p with
  | nil =>
      obtain rfl := Except.ok.inj h
      rfl
  | cons line lines ih =>
      rw [List.foldlM_cons] at h
      obtain ⟨p₁, hline, hrest⟩ := bind_ok_inv h
      rw [ih (fun line' h => hlines line' (by simp [h])) hrest]
      exact (readLine_keeps hline).2 (hlines line (by simp))

/-- Without a gear a record is a bad line, whatever it says. -/
theorem readRecord_of_no_gear (hgear : p.ufsGear = [])
    (h : readRecord words p = .ok q) :
    q.badDataCount = p.badDataCount + 1 := by
  have hnone (words : List Text) (lane : Int) :
      readNumbers words (p.listLane lane) = none := by
    have hsearch : gearOf (p.listLane lane).ufsGear = none := by
      rw [EomPlot.listLane, hgear]
      rfl
    simp [readNumbers, hsearch]
  rw [readRecord] at h
  split at h
  · obtain rfl := Except.ok.inj h
    rfl
  · simp only [hnone] at h
    obtain rfl := Except.ok.inj h
    rfl

theorem foldlM_records_of_no_gear {records : List EomResult}
    (hgear : p.ufsGear = [])
    (h : (records.map eomRecordLine).foldlM readLine p = .ok q) :
    q.badDataCount = p.badDataCount + records.length := by
  induction records generalizing p with
  | nil =>
      obtain rfl := Except.ok.inj h
      rfl
  | cons e records ih =>
      rw [List.map_cons, List.foldlM_cons] at h
      obtain ⟨p₁, hline, hrest⟩ := bind_ok_inv h
      rw [eomRecordLine_eq, readLine_recordWords] at hline
      have hkeeps := (readRecord_keeps hline).2
      rw [ih (hkeeps.trans hgear) hrest, readRecord_of_no_gear hgear hline,
        List.length_cons]
      omega

/-- A file with records behind lines that tell no gear is not read. -/
theorem openFile_of_no_gear {header : List Text} {records : List EomResult}
    {rest : Text}
    (hheader : ∀ line ∈ header, IsLine line ∧
      ∀ p : EomPlot R, readGear line (split line) p = some p)
    (hrecords : records ≠ []) (p : EomPlot R) :
    openFile ((header ++ records.map eomRecordLine).flatten ++ rest) ≠
      .ok p := by
  have hlines : ∀ line ∈ header ++ records.map eomRecordLine, IsLine line := by
    intro line hline
    rcases List.mem_append.mp hline with hline | hline
    · exact (hheader line hline).1
    · obtain ⟨e, -, rfl⟩ := List.mem_map.mp hline
      rw [eomRecordLine_eq]
      exact isLine_wordLine (isWord_recordWords e)
  rw [openFile, readLines_flatten_append hlines]
  intro hopen
  obtain ⟨q, hread, hclean⟩ := bind_ok_inv hopen
  rw [List.foldlM_append, List.foldlM_append] at hread
  obtain ⟨p₂, hread, hthird⟩ := bind_ok_inv hread
  obtain ⟨p₁, hfirst, hsecond⟩ := bind_ok_inv hread
  have hgear := foldlM_readLine_ufsGear
    (fun line hline => (hheader line hline).2) hfirst
  have hbad := foldlM_records_of_no_gear hgear hsecond
  have hrest := foldlM_readLine_badDataCount hthird
  have hpos := List.length_pos_of_ne_nil hrecords
  rw [if_pos (by omega)] at hclean
  contradiction

/-! The lines of the script. -/

theorem readGear_of_not_mem (h : 'G' ∉ line) :
    readGear line words p = some p := by
  apply readTagged_of_absent
  intro hinside
  exact h (hinside.subset (by decide))

theorem mem_showOption {n : Option Nat} {c : Char} (hc : c ∈ showOption n) :
    c.isDigit = true ∨ c ∈ lit "None" := by
  cases n with
  | none => exact .inr hc
  | some n => exact .inl (isDigit_of_mem_decimal hc)

theorem not_mem_showOption {c : Char} (hdigit : c.isDigit = false)
    (hnone : c ∉ lit "None") (n : Option Nat) : c ∉ showOption n := by
  intro hc
  rcases mem_showOption hc with h | h
  · simp [h] at hdigit
  · exact hnone h

/-- A line of the report that is not a record and tells no gear. -/
structure IsHeaderLine (R : Type) [NumberFormat R] (line : Text) : Prop where
  isLine : IsLine line
  gearless : ∀ p : EomPlot R, readGear line (split line) p = some p

theorem isHeaderLine_of_not_mem (body : Text) (hend : '\n' ∉ body)
    (hreturn : '\r' ∉ body) (hgear : 'G' ∉ body) :
    IsHeaderLine R (body ++ lit "\n") := by
  have hmem (c : Char) (hc : c ∉ body) (hne : c ≠ '\n') :
      c ∉ body ++ lit "\n" := by
    simp [hc, hne, lit]
  constructor
  · exact ⟨⟨body, rfl, hend⟩, hmem _ hreturn (by decide)⟩
  · exact fun p => readGear_of_not_mem (hmem _ hgear (by decide))

theorem isHeaderLine_inquiry {mname pname prev : Text} (hmname : IsWord mname)
    (hpname : IsWord pname) (hprev : IsWord prev) :
    IsHeaderLine R (ScriptNote.inquiry mname pname prev).written := by
  have hline : (ScriptNote.inquiry mname pname prev).written =
      wordLine (inquiryWords mname pname prev) := by
    simp [ScriptNote.written, inquiryWords, tagWords, wordLine, lit]
  have hwords := isWord_inquiryWords hmname hpname hprev
  rw [hline]
  constructor
  · exact isLine_wordLine hwords
  · intro p
    rw [split_wordLine hwords]
    exact readTagged_of_other rfl

theorem isHeaderLine_capsNotes (a b c d : Option Nat) :
    ∀ n ∈ capsNotes a b c d, IsHeaderLine R n.written := by
  have hvalue (c : Char) (hdigit : c.isDigit = false) (hnone : c ∉ lit "None")
      (n : Option Nat) := not_mem_showOption hdigit hnone n
  have hend := hvalue '\n' (by decide) (by decide)
  have hreturn := hvalue '\r' (by decide) (by decide)
  have hgear := hvalue 'G' (by decide) (by decide)
  intro n hn
  simp only [capsNotes, List.mem_cons, List.not_mem_nil, or_false] at hn
  rcases hn with rfl | rfl | rfl
  · exact isHeaderLine_of_not_mem (lit "EOM Capabilities:")
      (by decide) (by decide) (by decide)
  · apply isHeaderLine_of_not_mem
    · simp [hend, lit]
    · simp [hreturn, lit]
    · simp [hgear, lit]
  · apply isHeaderLine_of_not_mem
    · simp [hend, lit]
    · simp [hreturn, lit]
    · simp [hgear, lit]

theorem isHeaderLine_sideNote (side : Text) :
    IsHeaderLine R (sideNote side).written := by
  rw [sideNote, ScriptNote.written]
  split
  · exact isHeaderLine_of_not_mem (lit "UFS Host Side Eye Monitor Start")
      (by decide) (by decide) (by decide)
  · exact isHeaderLine_of_not_mem
      (lit "UFS Device Side Eye Monitor Start")
      (by decide) (by decide) (by decide)

/-! The report. -/

section Report

variable {entries : List ScriptNote}

/-- The names of the device are words. -/
def PlainNames : ScriptNote → Prop
  | .inquiry mname pname prev => IsWord mname ∧ IsWord pname ∧ IsWord prev
  | _ => True

instance : DecidablePred PlainNames
  | .inquiry _ _ _ => inferInstanceAs (Decidable (_ ∧ _ ∧ _))
  | .openReport _ | .record _ | .report _ | .console _ => isTrue trivial

/-- The reader makes of the report what some log with the recorded points
says. -/
def ReadBack (R : Type) [NumberFormat R] (entries : List ScriptNote) : Prop :=
  ∃ (p : EomPlot R) (log : EomLog), openFile (reportOf entries) = .ok p ∧
    log.results = recordsOf entries ∧ Recovers p log

theorem isHeaderLine_headerNotes {mname pname prev : Text}
    (hnames : IsWord mname ∧ IsWord pname ∧ IsWord prev)
    (a b c d : Option Nat) :
    ∀ n ∈ headerNotes mname pname prev a b c d, IsHeaderLine R n.written := by
  obtain ⟨hmname, hpname, hprev⟩ := hnames
  intro n hn
  rcases List.mem_cons.mp hn with rfl | hn
  · exact isHeaderLine_inquiry hmname hpname hprev
  · exact isHeaderLine_capsNotes a b c d n hn

theorem recordsOf_written (mname pname prev : Text) (a b c d : Option Nat)
    (side : Text) (records : List EomResult) (micros : Int) :
    recordsOf (headerNotes mname pname prev a b c d ++
      scanNotes side records micros) = records := by
  simp [recordsOf, headerNotes, capsNotes, scanNotes, sideNote,
    List.filterMap_map]

theorem reportOf_written (mname pname prev : Text) (a b c d : Option Nat)
    (side : Text) (records : List EomResult) (micros : Int) :
    reportOf (headerNotes mname pname prev a b c d ++
        scanNotes side records micros) =
      ((headerNotes mname pname prev a b c d ++ [sideNote side]).map
          ScriptNote.written ++ records.map eomRecordLine).flatten ++
        finishedText micros := by
  simp [reportOf, scanNotes, List.flatMap_def, ScriptNote.written,
    Function.comp_def]

/-- What a completed run has written is not read back. -/
theorem not_readBack_of_written (hwritten : ScriptWritten entries)
    (hnames : ∀ n ∈ entries, PlainNames n) (hrecords : recordsOf entries ≠ []) :
    ¬ ReadBack R entries := by
  obtain ⟨mname, pname, prev, a, b, c, d, side, records, micros, rfl⟩ :=
    hwritten
  have hwords := hnames (.inquiry mname pname prev) (by simp [headerNotes])
  rw [recordsOf_written] at hrecords
  have hheader : ∀ line ∈ (headerNotes mname pname prev a b c d ++
      [sideNote side]).map ScriptNote.written, IsHeaderLine R line := by
    intro line hline
    obtain ⟨n, hn, rfl⟩ := List.mem_map.mp hline
    rcases List.mem_append.mp hn with hn | hn
    · exact isHeaderLine_headerNotes hwords a b c d n hn
    · rw [List.mem_singleton.mp hn]
      exact isHeaderLine_sideNote side
  rintro ⟨p, log, hopen, -⟩
  rw [reportOf_written] at hopen
  apply openFile_of_no_gear _ hrecords p hopen
  intro line hline
  exact ⟨(hheader line hline).isLine, (hheader line hline).gearless⟩

/-- No completed run of the script leaves a report that is read back. -/
theorem script_report_never_read_back (R : Type) [NumberFormat R]
    {options : EomOptions}
    {replies : List AdbReply} {m : ScriptMachine}
    (hrun : ufsEomPy options ⟨replies, [], {}⟩ = .done true m)
    (hnames : ∀ n ∈ entriesOf m, PlainNames n)
    (hrecords : recordsOf (entriesOf m) ≠ []) : ¬ ReadBack R (entriesOf m) := by
  have hwritten : ScriptWritten (entriesOf m) :=
    wp_done (wp_ufsEomPy rfl) hrun rfl
  exact not_readBack_of_written hwritten hnames hrecords

/-- Lane 0 of the host, at voltage 0. -/
def laneZero : EomOptions where
  side := lit "local"
  lane := some 0
  voltage := some 0
  lsufsPath := lit "/bin/lsufs"
  devicePath := lit "/dev/ufs-bsg0"

def said (s : String) : AdbReply := { output := lit s }

/-- A device with one step to each side and three errors at every point. -/
def threeErrors : List AdbReply :=
  [said "", said "",
   said "Offset 0x14 : 0x0\nOffset 0x15 : 0x1\nOffset 0x2a : 0x2\n",
   said "Offset 0x3 : 0x41\nOffset 0x5 : 0x42\n",
   said "Offset 0x3 : 0x43\n", said "Offset 0x3 : 0x44\n",
   said "steps = 0x1\n", said "offset = 0x14\n",
   said "steps = 0x1\n", said "offset = 0x1e\n", said "", said ""] ++
  (List.replicate 3 (List.replicate 6 (said "") ++
    [said "start = 0x0\n", said "tested = 0x5d\n",
     said "errors = 0x3\n"])).flatten ++
  [said "", { clock := 3723000001 }]

def threeErrorsRun : ScriptMachine :=
  (ufsEomPy laneZero ⟨threeErrors, [], {}⟩).machine

theorem threeErrorsRun_done :
    ufsEomPy laneZero ⟨threeErrors, [], {}⟩ = .done true threeErrorsRun :=
  Result.eq_done (by decide +kernel)

theorem script_report_never_read_back_three_errors :
    ¬ ReadBack Double (entriesOf threeErrorsRun) :=
  script_report_never_read_back Double threeErrorsRun_done
    (by decide +kernel) (by decide +kernel)

/-- A run with three points whose report the reader gives up. -/
theorem three_errors_not_read_back :
    ufsEomPy laneZero ⟨threeErrors, [], {}⟩ = .done true threeErrorsRun ∧
      (∀ n ∈ entriesOf threeErrorsRun, PlainNames n) ∧
      recordsOf (entriesOf threeErrorsRun) =
        [⟨0, -1, 0, 3⟩, ⟨0, 0, 0, 3⟩, ⟨0, 1, 0, 3⟩] ∧
      ¬ ReadBack Double (entriesOf threeErrorsRun) := by
  have hnames : ∀ n ∈ entriesOf threeErrorsRun, PlainNames n := by
    decide +kernel
  have hrecords : recordsOf (entriesOf threeErrorsRun) =
      [⟨0, -1, 0, 3⟩, ⟨0, 0, 0, 3⟩, ⟨0, 1, 0, 3⟩] := by decide +kernel
  refine ⟨threeErrorsRun_done, hnames, hrecords, ?_⟩
  apply not_readBack_of_written
  · exact wp_done (wp_ufsEomPy rfl) threeErrorsRun_done rfl
  · exact hnames
  · simp [hrecords]

end Report

end UfsTools
