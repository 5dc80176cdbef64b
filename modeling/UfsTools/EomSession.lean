/-
Runs of ufseom one after another on one link: no run depends on those before
it, and the results of two that look at the same points agree.
-/
import UfsTools.EyeMeasured

namespace UfsTools

open CLib Getopt Process

variable {D : Type} {link : EyeLink D} {inquiry : Inquiry link.device}

/-- A command line that ufseom accepts, with the variables it leaves. -/
structure EomJob where
  argv : List Text
  globals : EomGlobals
  entries : List Note
  accepted : parseArgs argv (initEomOperation {}) = .ok (globals, entries)

/-- The return value of a run and the machine behind it. -/
abbrev RunEnd (D : Type) := Int × EomMachine D

/-- A run for each command line, one after another. -/
def eomSession (dev : Device SysCall SysReply D) (jobs : List EomJob)
    (Q : List (RunEnd D) → Prop) (d : D) : Prop :=
  session dev (fun job : EomJob => ufseomMain job.argv) {} jobs
    (fun ends _ => Q ends) d

theorem EomJob.lanesChosen (job : EomJob) : LanesChosen job.globals :=
  (parseArgs_ok ⟨.inl rfl, rfl⟩ job.accepted).1

/-! What a run finds on a link that can do what it could before. -/

namespace EyeLink.Unchanged

variable {d d' : D} {g : EomGlobals}

theorem reading (hsame : link.Unchanged d d') {attr : Int}
    (hattr : attr ∈ [paRxgear, rxHsrateSeries]) :
    (link.register d').reading .localSide attr 0 =
      (link.register d).reading .localSide attr 0 := by
  rw [Registers.reading, Registers.reading, hsame.speed hattr]

theorem probed (hsame : link.Unchanged d d') (hlanes : LanesChosen g) :
    link.probed d' g = link.probed d g := by
  rw [EyeLink.probed, hsame.reading (by decide), hsame.reading (by decide)]
  exact hsame.surveyed hlanes

theorem passes_iff (hsame : link.Unchanged d d') (hlanes : LanesChosen g) :
    link.Passes d' g ↔ link.Passes d g := by
  have hcapability := hsame g.eomData.localPeer g.lane hlanes.isLane
    rxEyemonCapability (by decide)
  have hgear : (link.register d').reading .localSide paRxgear 0 =
      (link.register d).reading .localSide paRxgear 0 :=
    hsame.reading (by decide)
  constructor
  · rintro ⟨hcap, hlow, hranges⟩
    exact ⟨hcapability ▸ hcap, hgear ▸ hlow, hsame.probed hlanes ▸ hranges⟩
  · rintro ⟨hcap, hlow, hranges⟩
    exact ⟨hcapability ▸ hcap, hgear ▸ hlow,
      (hsame.probed hlanes).symm ▸ hranges⟩

end EyeLink.Unchanged

/-- The run of a job has ended as it would have on a link as in `d`. -/
def EndsAs (inquiry : Inquiry link.device) (d : D) (job : EomJob)
    (e : RunEnd D) : Prop :=
  Outcome inquiry d (link.Passes d job.globals) (link.probed d job.globals)
    e.1 e.2

/-- Each run of a session leaves the link such that the next one finds what
the first did. -/
theorem eomSession_endsAs {d : D} {jobs : List EomJob}
    {Q : List (RunEnd D) → Prop} (hfits : inquiry.Fits)
    (hread : ∀ job ∈ jobs, link.Readable d job.globals)
    (h : ∀ ends, List.Forall₂ (EndsAs inquiry d) jobs ends → Q ends) :
    eomSession link.device jobs Q d := by
  apply session_follows (fun _ (u : Unit) => u)
    (P := fun job _ => EndsAs inquiry d job) (s := ())
    (fun _ d' => link.Unchanged d d')
  · intro job hjob _ d' hsame
    have hlanes := job.lanesChosen
    apply meets_ufseomMain hfits job.accepted
      (hsame.readable hlanes (hread job hjob))
    intro ret c ho
    rw [hsame.probed hlanes] at ho
    have hends : EndsAs inquiry d job (ret, c) :=
      (ho.of_eq (hsame.passes_iff hlanes) rfl rfl).since hsame
    exact ⟨hends, hends.unchanged⟩
  · exact .refl d
  · exact fun ends _ _ hfollows _ => h ends hfollows.forall₂

/-! Two scans of one eye. -/

/-- The eye at the points of a scan is that of a larger one, less what is
outside. -/
theorem eye_eq_filter {g g' : EomGlobals}
    (hside : g.eomData.localPeer = g'.eomData.localPeer)
    (hinside : ∀ p, (scanBox g).Mem p → (scanBox g').Mem p) :
    link.eye g = (link.eye g').filter fun e => (scanBox g).Mem e.point := by
  rw [EyeLink.eye, EyeLink.eye, (scanBox g).points_eq_filter hinside, hside,
    List.filter_map]
  congr 1

/-- The scan of `e` looks at no other points than that of `e'`, on the same
side, and its results are those that `e'` has at its points. -/
def PartOf (link : EyeLink D) (d : D) (job job' : EomJob)
    (e e' : RunEnd D) : Prop :=
  job.globals.eomData.localPeer = job'.globals.eomData.localPeer →
  (∀ p, (scanBox (link.probed d job.globals)).Mem p →
    (scanBox (link.probed d job'.globals)).Mem p) →
  e.2.mem.eomData.results = e'.2.mem.eomData.results.filter fun r =>
    (scanBox (link.probed d job.globals)).Mem r.point

theorem EndsAs.reported {d : D} {job : EomJob} {e : RunEnd D}
    (hends : EndsAs inquiry d job e) (hret : e.1 = success) :
    Reported inquiry (link.probed d job.globals) e.2 := by
  obtain ⟨-, -, hreported⟩ | ⟨herror, -⟩ := hends.reports
  · exact hreported
  · rw [hret] at herror
    exact absurd herror (by decide)

theorem EndsAs.partOf {d : D} {job job' : EomJob} {e e' : RunEnd D}
    (hends : EndsAs inquiry d job e) (hends' : EndsAs inquiry d job' e')
    (hret : e.1 = success) (hret' : e'.1 = success) :
    PartOf link d job job' e e' := by
  intro hside hinside
  rw [(hends.reported hret).results, (hends'.reported hret').results]
  exact eye_eq_filter hside hinside

/-- In every session of ufseom on a link, each run ends as it would have ended
at the start of the session, whatever was run before it.  So of two successful
runs, earlier or later, the one that scans fewer points of the same side has
recorded what the other has there: a scan of one lane or of a smaller range is
a part of the scan of all. -/
theorem eom_session_agrees (link : EyeLink D) (inquiry : Inquiry link.device)
    (hfits : inquiry.Fits) (d : D) (jobs : List EomJob)
    (hread : ∀ job ∈ jobs, link.Readable d job.globals) :
    eomSession link.device jobs (fun ends =>
      List.Forall₂ (EndsAs inquiry d) jobs ends ∧
        ∀ run ∈ jobs.zip ends, ∀ run' ∈ jobs.zip ends,
          run.2.1 = success → run'.2.1 = success →
            PartOf link d run.1 run'.1 run.2 run'.2) d := by
  apply eomSession_endsAs hfits hread
  intro ends hends
  refine ⟨hends, ?_⟩
  obtain ⟨-, hall⟩ := List.forall₂_iff_zip.mp hends
  rintro ⟨job, e⟩ hrun ⟨job', e'⟩ hrun' hret hret'
  exact (hall hrun).partOf (hall hrun') hret hret'

def bothLanes : EomJob where
  argv := peerLine
  globals := acceptedGlobals .peerSide
  entries := defaultNotes (initEomOperation {})
  accepted := peerLine_accepted

def laneOne : EomJob where
  argv := [lit "ufseom", lit "-p", lit "-L", lit "1", lit "-o", lit "/data/",
    lit "-d", lit "/dev/ufs-bsg0"]
  globals := { acceptedGlobals .peerSide with
    lane := 1
    eomData := { localPeer := .peerSide, numLanes := 1 } }
  entries := (defaultNotes (initEomOperation {})).drop 1
  accepted := by decide +kernel

theorem laneOne_readable :
    narrowEye.link.Readable narrowState laneOne.globals := by
  refine ⟨by decide +kernel, by decide +kernel, fun _ => ?_⟩
  constructor <;> decide +kernel

theorem eom_session_agrees_narrow_eye :
    eomSession narrowEye.link.device [laneOne, bothLanes] (fun ends =>
      List.Forall₂ (EndsAs narrowEye.inquiry narrowState)
          [laneOne, bothLanes] ends ∧
        ∀ run ∈ [laneOne, bothLanes].zip ends,
          ∀ run' ∈ [laneOne, bothLanes].zip ends,
            run.2.1 = success → run'.2.1 = success →
              PartOf narrowEye.link narrowState run.1 run'.1 run.2 run'.2)
      narrowState := by
  apply eom_session_agrees narrowEye.link narrowEye.inquiry narrowEye_fits
  intro job hjob
  rcases List.mem_pair.mp hjob with rfl | rfl
  · exact laneOne_readable
  · exact narrowEye_readable

end UfsTools
