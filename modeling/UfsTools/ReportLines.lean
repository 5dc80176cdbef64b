/-
What the reader of a report makes of each kind of line that the two programs
write, whatever it has read before.
-/
import UfsTools.EomMain
import UfsTools.EomPlot

namespace UfsTools

open CLib PyText

variable {R : Type} [NumberFormat R] {p : EomPlot R} {words : List Text}
  {line : Text}

/-- A step that answered, and what was made of its answer. -/
theorem bind_ok_inv {ε α β : Type} {x : Except ε α} {f : α → Except ε β}
    {b : β} (h : x >>= f = .ok b) : ∃ a, x = .ok a ∧ f a = .ok b := by
  cases x with
  | error e => contradiction
  | ok a => exact ⟨a, rfl, h⟩

/-! Numbers. -/

def numeralChar (c : Char) : Bool := c.isDigit || c == '-' || c == ','

/-- A number as a report has it: digits with a sign before, or a comma behind. -/
structure IsNumeral (text : Text) : Prop where
  nonempty : text ≠ []
  chars : ∀ c ∈ text, numeralChar c = true

theorem numeralChar_of_isDigit {c : Char} (hc : c.isDigit = true) :
    numeralChar c = true := by
  simp [numeralChar, hc]

theorem IsNumeral.isWord {text : Text} (h : IsNumeral text) : IsWord text := by
  constructor
  · exact h.nonempty
  · intro c hc
    have hchar := h.chars c hc
    simp only [numeralChar, Bool.or_eq_true, beq_iff_eq] at hchar
    rcases hchar with (hdigit | rfl) | rfl
    · exact isWhitespace_of_isDigit hdigit
    · decide
    · decide

theorem isNumeral_showInt (n : Int) : IsNumeral (showInt n) := by
  constructor
  · exact (isWord_showInt n).nonempty
  · intro c hc
    rw [showInt] at hc
    split at hc
    · rcases List.mem_cons.mp hc with rfl | hc
      · rfl
      · exact numeralChar_of_isDigit (isDigit_of_mem_decimal hc)
    · exact numeralChar_of_isDigit (isDigit_of_mem_decimal hc)

theorem takeWhile_comma (n : Nat) {rest : Text}
    (hrest : rest = [] ∨ rest = lit ",") :
    (Nat.toDigits 10 n ++ rest).takeWhile (fun c => decide (c ≠ ',')) =
      Nat.toDigits 10 n := by
  rw [List.takeWhile_append_of_pos]
  · rcases hrest with rfl | rfl
    · simp
    · simp [lit]
  · intro c hc
    rw [decide_eq_true_eq]
    rintro rfl
    exact absurd (isDigit_of_mem_decimal hc) (by decide)

/-- The sign rule of the reader gives a written number back. -/
theorem stringToNumber_numeral (n : Int) {rest : Text}
    (hrest : rest = [] ∨ rest = lit ",") :
    stringToNumber (showInt n ++ rest) = some n := by
  rw [showInt]
  split
  · rw [List.cons_append, stringToNumber, takeWhile_comma _ hrest,
      pyInt_toDigits]
    simp only [Option.map_some, Option.some.injEq]
    omega
  · have hvalue := pyInt_toDigits n.natAbs
    have htake := takeWhile_comma n.natAbs hrest
    cases hdigits : Nat.toDigits 10 n.natAbs with
    | nil => exact absurd hdigits Nat.toDigits_ne_nil
    | cons c digits =>
        have hc : c.isDigit = true :=
          isDigit_of_mem_decimal (n := n.natAbs) (by simp [hdigits])
        rw [hdigits] at hvalue htake
        rw [List.cons_append] at htake ⊢
        rw [stringToNumber, htake, hvalue]
        · simp only [Option.some.injEq]
          omega
        · simp
        · rintro tail htail
          rw [(List.cons.inj htail).1] at hc
          exact absurd hc (by decide)

theorem stringToNumber_showInt (n : Int) :
    stringToNumber (showInt n) = some n := by
  simpa using stringToNumber_numeral n (.inl rfl)

/-! Lines of the header. -/

/-- What a line has to contain for a header reader to look at it. -/
def marks : List Text :=
  [lit "TimingMaxSteps", lit "VoltageMaxSteps", lit "UFS", lit "Monitor"]

theorem isWord_mark : ∀ mark ∈ marks, IsWord mark := by
  decide +kernel

theorem letter_mark : ∀ mark ∈ marks, mark.all numeralChar = false := by
  decide +kernel

theorem IsNumeral.not_infix {text mark : Text} (h : IsNumeral text)
    (hmark : mark ∈ marks) : ¬ mark <:+: text := by
  intro hinside
  have hall : mark.all numeralChar = true :=
    List.all_eq_true.mpr fun c hc => h.chars c (hinside.subset hc)
  rw [letter_mark mark hmark] at hall
  contradiction

theorem absent_wordLine {mark : Text} (hmark : mark ∈ marks)
    (h : ∀ w ∈ words, IsNumeral w ∨ ¬ mark <:+: w) :
    ¬ mark <:+: wordLine words := by
  intro hinside
  obtain ⟨w, hw, hinside⟩ := infix_wordLine (isWord_mark mark hmark) hinside
  rcases h w hw with hnumeral | hnone
  · exact hnumeral.not_infix hmark hinside
  · exact hnone hinside

theorem absent_of_char {mark : Text} {c : Char} (hmark : mark ∈ marks)
    (hc : c ∈ mark) (h : ∀ w ∈ words, c ∉ w) : ¬ mark <:+: wordLine words := by
  apply absent_wordLine hmark
  intro w hw
  exact .inr fun hinside => h w hw (hinside.subset hc)

section Tagged

variable {tag : String} {expected : List (Nat × String)}
  {record : List Text → EomPlot R → Option (EomPlot R)}

theorem readTagged_of_absent (h : ¬ lit tag <:+: line) :
    readTagged tag expected record line words p = some p := by
  rw [readTagged, if_neg h]

theorem readTagged_of_other (h : wordsMatch words expected = some false) :
    readTagged tag expected record line words p = some p := by
  rw [readTagged, h]
  split
  · rfl
  · rfl

theorem readTagged_of_match (htag : lit tag <:+: line)
    (h : wordsMatch words expected = some true) :
    readTagged tag expected record line words p = record words p := by
  rw [readTagged, if_pos htag, h]
  rfl

end Tagged

section Axis

variable {steps offset : String} {stepOf : Int → Int → Option R}
  {record : Int → Int → R → EomPlot R → EomPlot R}

theorem readAxis_of_absent (h : ¬ lit steps <:+: line) :
    readAxis steps offset stepOf record line words p = some p := by
  rw [readAxis, if_neg fun hboth => h hboth.1]

end Axis

theorem readTiming_of_absent (h : ¬ lit "TimingMaxSteps" <:+: line) :
    readTiming line words p = some p :=
  readAxis_of_absent h

theorem readVoltage_of_absent (h : ¬ lit "VoltageMaxSteps" <:+: line) :
    readVoltage line words p = some p :=
  readAxis_of_absent h

/-! What a header reader keeps. -/

section Keeps

variable {α : Type} (f : EomPlot R → α) {q : EomPlot R}

theorem readTagged_keeps {tag : String}
    {expected : List (Nat × String)}
    {record : List Text → EomPlot R → Option (EomPlot R)}
    (hrecord : ∀ words p q, record words p = some q → f q = f p)
    (h : readTagged tag expected record line words p = some q) : f q = f p := by
  rw [readTagged] at h
  split at h
  · cases hmatch : wordsMatch words expected with
    | none => simp [hmatch] at h
    | some isMatch =>
        rw [hmatch] at h
        cases isMatch with
        | false =>
            obtain rfl := Option.some.inj h
            rfl
        | true => exact hrecord words p q h
  · obtain rfl := Option.some.inj h
    rfl

/-- The readers of both axes set the attributes of their axis. -/
theorem readAxis_keeps {steps offset : String} {stepOf : Int → Int → Option R}
    {record : Int → Int → R → EomPlot R → EomPlot R}
    (h : readAxis steps offset stepOf record line words p = some q)
    (hrecord : ∀ maxSteps maxOffset step p,
      f (record maxSteps maxOffset step p) = f p) :
    f q = f p := by
  rw [readAxis] at h
  split at h
  · obtain ⟨limits, -, h⟩ := Option.bind_eq_some_iff.mp h
    obtain ⟨step, -, h⟩ := Option.bind_eq_some_iff.mp h
    obtain rfl := Option.some.inj h
    exact hrecord _ _ _ p
  · obtain rfl := Option.some.inj h
    rfl

theorem readVersion_keeps
    (hf : ∀ p version, f { p with ufsVersionNo := version } = f p)
    (h : readVersion line words p = some q) : f q = f p := by
  refine readTagged_keeps f ?_ h
  intro words p q h
  obtain ⟨version, -, h⟩ := Option.bind_eq_some_iff.mp h
  obtain rfl := Option.some.inj h
  exact hf p _

theorem readInquiry_keeps
    (hf : ∀ p name id, f { p with
      ufsDeviceMfrName := name, ufsDeviceMfrId := id } = f p)
    (h : readInquiry line words p = some q) : f q = f p := by
  refine readTagged_keeps f ?_ h
  intro words p q h
  obtain ⟨name, -, h⟩ := Option.bind_eq_some_iff.mp h
  obtain ⟨id, -, h⟩ := Option.bind_eq_some_iff.mp h
  obtain rfl := Option.some.inj h
  exact hf p _ _

theorem readSize_keeps
    (hf : ∀ p size, f { p with ufsDeviceSize := size } = f p)
    (h : readSize line words p = some q) : f q = f p := by
  refine readTagged_keeps f ?_ h
  intro words p q h
  obtain ⟨size, -, h⟩ := Option.bind_eq_some_iff.mp h
  obtain ⟨unit, -, h⟩ := Option.bind_eq_some_iff.mp h
  obtain rfl := Option.some.inj h
  exact hf p _

theorem readGear_keeps
    (hf : ∀ p gear, f { p with ufsGear := gear } = f p)
    (h : readGear line words p = some q) : f q = f p := by
  refine readTagged_keeps f ?_ h
  intro words p q h
  obtain ⟨gear, -, h⟩ := Option.bind_eq_some_iff.mp h
  obtain ⟨rate, -, h⟩ := Option.bind_eq_some_iff.mp h
  obtain rfl := Option.some.inj h
  exact hf p _

theorem readSide_keeps
    (hf : ∀ p side, f { p with side := side } = f p)
    (h : readSide line words p = some q) : f q = f p := by
  refine readTagged_keeps f ?_ h
  intro words p q h
  obtain ⟨side, -, h⟩ := Option.bind_eq_some_iff.mp h
  obtain rfl := Option.some.inj h
  exact hf p _

end Keeps

/-- The readers of the tagged lines. -/
def readTags (line : Text) (words : List Text) (p : EomPlot R) :
    Option (EomPlot R) := do
  let p ← readVersion line words p
  let p ← readInquiry line words p
  let p ← readSize line words p
  let p ← readGear line words p
  readSide line words p

theorem readHeader_eq (line : Text) (words : List Text) (p : EomPlot R) :
    readHeader line words p =
      ((readTiming line words p).bind (readVoltage line words)).bind
        (readTags line words) := by
  rw [readHeader]
  cases readTiming line words p with
  | none => rfl
  | some p => rfl

theorem readTags_of_noMark (hufs : ¬ lit "UFS" <:+: line)
    (hmonitor : ¬ lit "Monitor" <:+: line) :
    readTags line words p = some p := by
  have hversion : ¬ lit "UFS Spec Version:" <:+: line :=
    fun h => hufs (List.IsInfix.trans (by decide) h)
  have hinquiry : ¬ lit "UFS INQUIRY ID:" <:+: line :=
    fun h => hufs (List.IsInfix.trans (by decide) h)
  have hsize : ¬ lit "UFS Total Size:" <:+: line :=
    fun h => hufs (List.IsInfix.trans (by decide) h)
  have hgear : ¬ lit "UFS Gear Speed:" <:+: line :=
    fun h => hufs (List.IsInfix.trans (by decide) h)
  have hside : ¬ lit "Side Eye Monitor Start" <:+: line :=
    fun h => hmonitor (List.IsInfix.trans (by decide) h)
  simp only [readTags, readVersion, readInquiry, readSize, readGear, readSide,
    readTagged_of_absent hversion, readTagged_of_absent hinquiry,
    readTagged_of_absent hsize, readTagged_of_absent hgear,
    readTagged_of_absent hside, Option.bind_eq_bind, Option.bind_some]

/-- A line that no header reader looks at. -/
def NoMark (line : Text) : Prop := ∀ mark ∈ marks, ¬ mark <:+: line

theorem noMark_wordLine
    (h : ∀ w ∈ words, IsNumeral w ∨ ∀ mark ∈ marks, ¬ mark <:+: w) :
    NoMark (wordLine words) := by
  intro mark hmark
  apply absent_wordLine hmark
  intro w hw
  exact (h w hw).imp_right fun hnone => hnone mark hmark

theorem readHeader_of_noMark (h : NoMark line) :
    readHeader line words p = some p := by
  rw [readHeader_eq, readTiming_of_absent (h _ (by simp [marks])),
    Option.bind_some, readVoltage_of_absent (h _ (by simp [marks])),
    Option.bind_some,
    readTags_of_noMark (h _ (by simp [marks])) (h _ (by simp [marks]))]

theorem readLine_of_header {q : EomPlot R}
    (hheader : readHeader line (split line) p = some q)
    (hnot : notRecord (split line) = true) : readLine p line = .ok q := by
  simp only [readLine, hheader, hnot, if_true]

/-- A line of few words without a mark is passed over. -/
theorem readLine_of_noMark (h : NoMark line)
    (hnot : notRecord (split line) = true) : readLine p line = .ok p :=
  readLine_of_header (readHeader_of_noMark h) hnot

theorem foldlM_readLine_cons {q : EomPlot R} {lines : List Text}
    (h : readLine p line = .ok q) :
    (line :: lines).foldlM readLine p = lines.foldlM readLine q := by
  rw [List.foldlM_cons, h]
  rfl

section Capabilities

variable {steps offset : Text} {maxSteps maxOffset : Int}

/-- The words of a line with the limits of one axis. -/
def capabilityWords (first third : String) (steps offset : Text) : List Text :=
  [lit first, steps, lit third, offset]

theorem readAxis_words {first third : String}
    {stepOf : Int → Int → Option R} {step : R}
    {record : Int → Int → R → EomPlot R → EomPlot R}
    (hmaxSteps : stringToNumber steps = some maxSteps)
    (hmaxOffset : stringToNumber offset = some maxOffset)
    (hstep : stepOf maxSteps maxOffset = some step) :
    readAxis first third stepOf record
        (wordLine (capabilityWords first third steps offset))
        (capabilityWords first third steps offset) p =
      some (record maxSteps maxOffset step p) := by
  have hnumbers : readCapabilities first third
      (capabilityWords first third steps offset) =
        some (maxSteps, maxOffset) := by
    simp [readCapabilities, capabilityWords, hmaxSteps, hmaxOffset]
  have htags : lit first <:+: wordLine
      (capabilityWords first third steps offset) ∧
        lit third <:+: wordLine
          (capabilityWords first third steps offset) :=
    ⟨mem_infix_wordLine (by simp [capabilityWords]),
      mem_infix_wordLine (by simp [capabilityWords])⟩
  rw [readAxis, if_pos htags, hnumbers]
  simp only [Option.bind_eq_bind, Option.bind_some, hstep]

theorem absent_capabilityWords {first third : String} {mark : Text}
    (hsteps : IsNumeral steps) (hoffset : IsNumeral offset)
    (hmark : mark ∈ marks) (hfirst : ¬ mark <:+: lit first)
    (hthird : ¬ mark <:+: lit third) :
    ¬ mark <:+: wordLine (capabilityWords first third steps offset) := by
  apply absent_wordLine hmark
  intro w hw
  simp only [capabilityWords, List.mem_cons, List.not_mem_nil, or_false] at hw
  rcases hw with rfl | rfl | rfl | rfl
  · exact .inr hfirst
  · exact .inl hsteps
  · exact .inr hthird
  · exact .inl hoffset

theorem isWord_capabilityWords {first third : String}
    (hsteps : IsNumeral steps) (hoffset : IsNumeral offset)
    (hfirst : IsWord (lit first)) (hthird : IsWord (lit third)) :
    ∀ w ∈ capabilityWords first third steps offset, IsWord w := by
  intro w hw
  simp only [capabilityWords, List.mem_cons, List.not_mem_nil, or_false] at hw
  rcases hw with rfl | rfl | rfl | rfl
  · exact hfirst
  · exact hsteps.isWord
  · exact hthird
  · exact hoffset.isWord

theorem readLine_timing (hsteps : IsNumeral steps) (hoffset : IsNumeral offset)
    (hmaxSteps : stringToNumber steps = some maxSteps)
    (hmaxOffset : stringToNumber offset = some maxOffset) {step : R}
    (hstep : timingStepOf maxSteps maxOffset = some step) :
    readLine p (wordLine (capabilityWords "TimingMaxSteps" "TimingMaxOffset"
        steps offset)) =
      .ok { p with
        timingMaxSteps := maxSteps, timingMaxOffset := maxOffset
        timingStep := step } := by
  have hwords : ∀ w ∈ capabilityWords "TimingMaxSteps" "TimingMaxOffset"
      steps offset, IsWord w :=
    isWord_capabilityWords hsteps hoffset (by decide +kernel)
      (by decide +kernel)
  have habsent {mark : Text} (hmark : mark ∈ marks)
      (hfirst : ¬ mark <:+: lit "TimingMaxSteps")
      (hthird : ¬ mark <:+: lit "TimingMaxOffset") :=
    absent_capabilityWords hsteps hoffset hmark hfirst hthird
  have hsplit := split_wordLine hwords
  apply readLine_of_header
  · rw [hsplit, readHeader_eq, readTiming,
      readAxis_words hmaxSteps hmaxOffset hstep, Option.bind_some,
      readVoltage_of_absent, Option.bind_some, readTags_of_noMark]
    · exact habsent (by simp [marks]) (by decide +kernel) (by decide +kernel)
    · exact habsent (by simp [marks]) (by decide +kernel) (by decide +kernel)
    · exact habsent (by simp [marks]) (by decide +kernel) (by decide +kernel)
  · rw [hsplit]
    rfl

theorem readLine_voltage (hsteps : IsNumeral steps)
    (hoffset : IsNumeral offset)
    (hmaxSteps : stringToNumber steps = some maxSteps)
    (hmaxOffset : stringToNumber offset = some maxOffset) {step : R}
    (hstep : voltageStepOf maxSteps maxOffset = some step) :
    readLine p (wordLine (capabilityWords "VoltageMaxSteps" "VoltageMaxOffset"
        steps offset)) =
      .ok { p with
        voltageMaxSteps := maxSteps, voltageMaxOffset := maxOffset
        voltageStep := step } := by
  have hwords : ∀ w ∈ capabilityWords "VoltageMaxSteps" "VoltageMaxOffset"
      steps offset, IsWord w :=
    isWord_capabilityWords hsteps hoffset (by decide +kernel)
      (by decide +kernel)
  have habsent {mark : Text} (hmark : mark ∈ marks)
      (hfirst : ¬ mark <:+: lit "VoltageMaxSteps")
      (hthird : ¬ mark <:+: lit "VoltageMaxOffset") :=
    absent_capabilityWords hsteps hoffset hmark hfirst hthird
  have hsplit := split_wordLine hwords
  apply readLine_of_header
  · rw [hsplit, readHeader_eq, readTiming_of_absent, Option.bind_some,
      readVoltage, readAxis_words hmaxSteps hmaxOffset hstep,
      Option.bind_some, readTags_of_noMark]
    · exact habsent (by simp [marks]) (by decide +kernel) (by decide +kernel)
    · exact habsent (by simp [marks]) (by decide +kernel) (by decide +kernel)
    · exact habsent (by simp [marks]) (by decide +kernel) (by decide +kernel)
  · rw [hsplit]
    rfl

end Capabilities

/-! The lines with a tag. -/

def sideWords (side : Text) : List Text :=
  [lit "UFS", side, lit "Side", lit "Eye", lit "Monitor", lit "Start"]

theorem readLine_side {side : Text}
    (hside : side = lit "Host" ∨ side = lit "Device") :
    readLine p (wordLine (sideWords side)) = .ok { p with side := side } := by
  have hsplit : split (wordLine (sideWords side)) = sideWords side := by
    apply split_wordLine
    rcases hside with rfl | rfl
    · decide +kernel
    · decide +kernel
  have htags : ∀ tag ∈ ["UFS Spec Version:", "UFS INQUIRY ID:",
      "UFS Total Size:", "UFS Gear Speed:", "TimingMaxSteps",
      "VoltageMaxSteps"], ¬ lit tag <:+: wordLine (sideWords side) := by
    rcases hside with rfl | rfl
    · decide +kernel
    · decide +kernel
  apply readLine_of_header
  · rw [hsplit, readHeader_eq, readTiming_of_absent (htags _ (by simp)),
      Option.bind_some, readVoltage_of_absent (htags _ (by simp)),
      Option.bind_some]
    simp only [readTags, readVersion, readInquiry, readSize, readGear,
      readTagged_of_absent (htags "UFS Spec Version:" (by simp)),
      readTagged_of_absent (htags "UFS INQUIRY ID:" (by simp)),
      readTagged_of_absent (htags "UFS Total Size:" (by simp)),
      readTagged_of_absent (htags "UFS Gear Speed:" (by simp)),
      Option.bind_eq_bind, Option.bind_some]
    exact readTagged_of_match ⟨lit "UFS " ++ side ++ lit " ", lit "\n", by
      rcases hside with rfl | rfl <;> rfl⟩ rfl
  · rw [hsplit]
    rfl

/-- The words by which the reader tells one kind of line from another. -/
def readerKeywords : List Text :=
  [lit "TimingMaxSteps", lit "TimingMaxOffset", lit "VoltageMaxSteps",
   lit "VoltageMaxOffset", lit "lane", lit "timing", lit "voltage",
   lit "error", lit "count"]

/-- A string of the inquiry data that the format has room for. -/
structure IsInquiryName (name : Text) : Prop where
  word : IsWord name
  free : ∀ keyword ∈ readerKeywords, ¬ keyword <:+: name

/-- The words a tagged line starts with. -/
def tagWords (second third : String) : List Text :=
  [lit "-", lit "-", lit "-", lit "-", lit "UFS", lit second, lit third]

/-- Of the words that make a record only the eighth is open in a tagged line. -/
theorem notRecord_tagWords {second third : String} {rest : List Text}
    (hthird : lit third ≠ lit "error") (hrest : rest[0]? ≠ some (lit "count")) :
    notRecord (tagWords second third ++ rest) = true := by
  have hdash : ∀ w : Text, w ≠ lit "-" → some (lit "-") ≠ some w :=
    fun w hw h => hw (Option.some.inj h).symm
  rw [notRecord, decide_eq_true_eq]
  apply Or.inr
  refine ⟨hdash _ (by decide), hdash _ (by decide), ?_, ?_, hrest⟩
  · intro h
    exact absurd (Option.some.inj h) (by decide)
  · exact fun h => hthird (Option.some.inj h)

def inquiryWords (mname pname pver : Text) : List Text :=
  tagWords "INQUIRY" "ID:" ++ [mname, pname, pver]

section Inquiry

variable {mname pname pver : Text}

theorem isWord_inquiryWords (hmname : IsWord mname) (hpname : IsWord pname)
    (hpver : IsWord pver) :
    ∀ w ∈ inquiryWords mname pname pver, IsWord w := by
  have htag : ∀ w ∈ tagWords "INQUIRY" "ID:", IsWord w := by
    decide +kernel
  intro w hw
  rcases List.mem_append.mp hw with hw | hw
  · exact htag w hw
  · simp only [List.mem_cons, List.not_mem_nil, or_false] at hw
    rcases hw with rfl | rfl | rfl
    · exact hmname
    · exact hpname
    · exact hpver

theorem absent_inquiryWords (hmname : IsInquiryName mname)
    (hpname : IsInquiryName pname) (hpver : IsInquiryName pver)
    {mark : Text} (hmark : mark ∈ marks) (hkeyword : mark ∈ readerKeywords) :
    ¬ mark <:+: wordLine (inquiryWords mname pname pver) := by
  have htag : ∀ mark ∈ readerKeywords, ∀ w ∈ tagWords "INQUIRY" "ID:",
      ¬ mark <:+: w := by
    decide +kernel
  apply absent_wordLine hmark
  intro w hw
  apply Or.inr
  rcases List.mem_append.mp hw with hw | hw
  · exact htag mark hkeyword w hw
  · simp only [List.mem_cons, List.not_mem_nil, or_false] at hw
    rcases hw with rfl | rfl | rfl
    · exact hmname.free mark hkeyword
    · exact hpname.free mark hkeyword
    · exact hpver.free mark hkeyword

theorem readLine_inquiry (hmname : IsInquiryName mname)
    (hpname : IsInquiryName pname) (hpver : IsInquiryName pver) :
    readLine p (wordLine (inquiryWords mname pname pver)) =
      .ok { p with ufsDeviceMfrName := mname, ufsDeviceMfrId := pname } := by
  have hsplit := split_wordLine
    (isWord_inquiryWords hmname.word hpname.word hpver.word)
  apply readLine_of_header
  · rw [hsplit, readHeader_eq, readTiming_of_absent, Option.bind_some,
      readVoltage_of_absent, Option.bind_some]
    · rw [readTags, readVersion, readTagged_of_other rfl, readInquiry,
        Option.bind_eq_bind, Option.bind_some, readTagged_of_match _ rfl]
      · rw [readSize, readGear, readSide]
        simp only [inquiryWords, tagWords, List.cons_append, List.nil_append,
          List.getElem?_cons_succ, List.getElem?_cons_zero,
          Option.bind_eq_bind, Option.bind_some]
        rw [readTagged_of_other rfl, Option.bind_some, readTagged_of_other rfl,
          Option.bind_some, readTagged_of_other rfl]
      · exact ⟨lit "- - - - ", ' ' :: wordLine [mname, pname, pver], rfl⟩
    · exact absent_inquiryWords hmname hpname hpver (by decide +kernel)
        (by decide +kernel)
    · exact absent_inquiryWords hmname hpname hpver (by decide +kernel)
        (by decide +kernel)
  · have hcount : mname ≠ lit "count" := by
      rintro rfl
      exact hmname.free (lit "count") (by decide +kernel) List.infix_rfl
    rw [hsplit]
    exact notRecord_tagWords (by decide) fun h => hcount (Option.some.inj h)

end Inquiry

def gearWords (gear rate : Text) : List Text :=
  tagWords "Gear" "Speed:" ++ [lit "HS-G" ++ gear, lit "Rate-" ++ rate]

section Gear

variable {gear rate : Text}

theorem isWord_append {x y : Text} (hx : IsWord x) (hy : IsWord y) :
    IsWord (x ++ y) := by
  constructor
  · simp [hx.nonempty]
  · intro c hc
    rcases List.mem_append.mp hc with hc | hc
    · exact hx.solid c hc
    · exact hy.solid c hc

theorem isWord_gearWords (hgear : IsNumeral gear) (hrate : IsWord rate) :
    ∀ w ∈ gearWords gear rate, IsWord w := by
  have htag : ∀ w ∈ tagWords "Gear" "Speed:", IsWord w := by
    decide +kernel
  intro w hw
  rcases List.mem_append.mp hw with hw | hw
  · exact htag w hw
  · simp only [List.mem_cons, List.not_mem_nil, or_false] at hw
    rcases hw with rfl | rfl
    · exact isWord_append (by decide +kernel) hgear.isWord
    · exact isWord_append (by decide +kernel) hrate

theorem readLine_gear (hgear : IsNumeral gear)
    (hrate : rate = lit "A" ∨ rate = lit "B") :
    readLine p (wordLine (gearWords gear rate)) =
      .ok { p with
        ufsGear := lit "HS-G" ++ gear ++ lit " " ++ (lit "Rate-" ++ rate) } := by
  have hword : IsWord rate := by
    rcases hrate with rfl | rfl
    · decide +kernel
    · decide +kernel
  have hsplit := split_wordLine (isWord_gearWords hgear hword)
  have hnone : ∀ c, numeralChar c = false →
      (∀ w ∈ gearWords [] (lit "AB"), c ∉ w) →
      ∀ w ∈ gearWords gear rate, c ∉ w := by
    intro c hletter hfixed w hw hc
    rcases List.mem_append.mp hw with hw | hw
    · exact hfixed w (List.mem_append_left _ hw) hc
    · simp only [List.mem_cons, List.not_mem_nil, or_false] at hw
      rcases hw with rfl | rfl
      · rcases List.mem_append.mp hc with hc | hc
        · exact hfixed (lit "HS-G" ++ []) (by simp [gearWords])
            (List.mem_append_left _ hc)
        · simp [hgear.chars c hc] at hletter
      · apply hfixed (lit "Rate-" ++ lit "AB") (by simp [gearWords])
        rw [List.mem_append] at hc ⊢
        apply hc.imp_right
        rcases hrate with rfl | rfl
        · exact fun hc => List.mem_append_left (lit "B") hc
        · exact fun hc => List.mem_append_right (lit "A") hc
  apply readLine_of_header
  · rw [hsplit, readHeader_eq, readTiming_of_absent, Option.bind_some,
      readVoltage_of_absent, Option.bind_some]
    · rw [readTags, readVersion, readTagged_of_other rfl, readInquiry,
        Option.bind_eq_bind, Option.bind_some, readTagged_of_other rfl,
        readSize, readGear, readSide]
      simp only [Option.bind_eq_bind, Option.bind_some]
      rw [readTagged_of_other rfl, Option.bind_some, readTagged_of_match _ rfl]
      · simp only [gearWords, tagWords, List.cons_append, List.nil_append,
          List.getElem?_cons_succ, List.getElem?_cons_zero,
          Option.bind_some]
        rw [readTagged_of_other rfl]
      · exact ⟨lit "- - - - ",
          ' ' :: wordLine [lit "HS-G" ++ gear, lit "Rate-" ++ rate], rfl⟩
    · exact absent_of_char (c := 'V') (by simp [marks]) (by decide)
        (hnone _ (by decide) (by decide +kernel))
    · exact absent_of_char (c := 'T') (by simp [marks]) (by decide)
        (hnone _ (by decide) (by decide +kernel))
  · rw [hsplit]
    apply notRecord_tagWords (by decide)
    intro h
    exact absurd (Option.some.inj h) (by simp [lit])

end Gear

/-! Records. -/

def recordWords (e : EomResult) : List Text :=
  [lit "lane:", showInt e.lane, lit "timing:", showInt e.timing,
   lit "voltage:", showInt e.volt, lit "error", lit "count:",
   showInt e.errorCnt]

theorem eomRecordLine_eq (e : EomResult) :
    eomRecordLine e = wordLine (recordWords e) := by
  simp [eomRecordLine, recordWords, wordLine, lit]

theorem mem_recordWords {e : EomResult} {w : Text} (hw : w ∈ recordWords e) :
    IsNumeral w ∨ w ∈ [lit "lane:", lit "timing:", lit "voltage:",
      lit "error", lit "count:"] := by
  simp only [recordWords, List.mem_cons, List.not_mem_nil, or_false] at hw ⊢
  rcases hw with hw | rfl | hw | rfl | hw | rfl | hw | hw | rfl
  · simp [hw]
  · exact .inl (isNumeral_showInt _)
  · simp [hw]
  · exact .inl (isNumeral_showInt _)
  · simp [hw]
  · exact .inl (isNumeral_showInt _)
  · simp [hw]
  · simp [hw]
  · exact .inl (isNumeral_showInt _)

theorem isWord_recordWords (e : EomResult) :
    ∀ w ∈ recordWords e, IsWord w := by
  have hfixed : ∀ w ∈ [lit "lane:", lit "timing:", lit "voltage:",
      lit "error", lit "count:"], IsWord w := by
    decide +kernel
  intro w hw
  rcases mem_recordWords hw with hnumeral | hw
  · exact hnumeral.isWord
  · exact hfixed w hw

theorem noMark_recordWords (e : EomResult) :
    NoMark (wordLine (recordWords e)) := by
  have hfixed : ∀ w ∈ [lit "lane:", lit "timing:", lit "voltage:",
      lit "error", lit "count:"], ∀ mark ∈ marks, ¬ mark <:+: w := by
    decide +kernel
  apply noMark_wordLine
  intro w hw
  exact (mem_recordWords hw).imp_right (hfixed w)

/-- A record line reaches the record reader, and by its seventh word only. -/
theorem readLine_recordWords (e : EomResult) :
    readLine p (wordLine (recordWords e)) = readRecord (recordWords e) p := by
  have hsplit := split_wordLine (isWord_recordWords e)
  have hrecord : notRecord (recordWords e) = false := by
    rw [notRecord, decide_eq_false_iff_not]
    rintro (hlength | hwords)
    · exact absurd hlength (by simp [recordWords])
    · exact hwords.2.2.2.1 rfl
  rw [readLine, hsplit, readHeader_of_noMark (noMark_recordWords e)]
  simp only [hrecord, Bool.false_eq_true, if_false]

end UfsTools
