import CloudDetector.Proofs.DetectionReports
import CloudDetector.Proofs.Lockstep

namespace CloudDetector
open Trace

/-- Configurations that differ at most in how faults and failures are reported and in whose
connection is used. -/
structure Config.Matches (c c' : Config) : Prop where
  endpoint : c.endpoint = c'.endpoint
  retry : c.retry = c'.retry

namespace Trace

/-- The same was done, whatever was told of it to those who do not debug. -/
structure SameWork (events events' : List Event) : Prop where
  requests : requests events = requests events'
  delays : delays events = delays events'
  pace : pace events = pace events'
  handouts : times .takePolicy events = times .takePolicy events'
  consults : times .consult events = times .consult events'
  debug : (records events).filter (·.level = .debug) = (records events').filter (·.level = .debug)

/-- What is told in the end does not count as work. -/
theorem same_work_told (host : Host) (events : List Event) {rs rs' : List Log.Record}
    (h : ∀ r ∈ rs, r.level ≠ .debug) (h' : ∀ r ∈ rs', r.level ≠ .debug) :
    SameWork (events ++ rs.map (fun r => host.event (.log r)))
      (events ++ rs'.map (fun r => host.event (.log r))) where
  requests := by simp only [requests_append, requests_told]
  delays := by simp only [delays_append, delays_told]
  pace := by simp only [pace_append, pace_told]
  handouts := by simp only [times_append, times_told (a := .takePolicy) rfl]
  consults := by simp only [times_append, times_told (a := .consult) rfl]
  debug := by
    rw [records_append, records_append, List.filter_append, List.filter_append,
      debug_told host h, debug_told host h']

end Trace

namespace Detector

/-- Detectors that do the same, if they may report it differently. -/
structure Matches (d d' : Detector) : Prop where
  url : d.url = d'.url
  source : d.source = d'.source
  cache : d.cache = d'.cache

theorem Matches.refl (d : Detector) : Matches d d := ⟨rfl, rfl, rfl⟩

theorem matches_new {c c' : Config} (h : c.Matches c') : Matches (.new c) (.new c') :=
  ⟨congrArg Query.url h.endpoint, h.retry, rfl⟩

/-- The fault that breaks a detection off. -/
def fault? (d : Detector) (host : Host) : Option Fault :=
  match d.cache, d.source.take with
  | none, .error fault => some fault
  | none, .ok policy =>
    match (Query.attempts d.url policy host).result with
    | .error fault => some fault
    | .ok _ => none
  | some _, _ => none

theorem Matches.attempts {d d' : Detector} (h : d.Matches d') (host : Host) :
    d.attempts? host = d'.attempts? host := by
  unfold attempts?
  rw [h.url, h.source, h.cache]

/-- A policy that raises when it is asked about the last request breaks the attempts off. -/
theorem attempts_raised {url : Text} {policy : Query.Policy} {host : Host} {reason : Reason}
    {fault : Fault}
    (hlast : host.lastResult (Query.attempts url policy host).events = .ok (.retryable reason))
    (hverdict : policy.verdict
      ((requests (Query.attempts url policy host).events).length - 1) = .raise fault) :
    (Query.attempts url policy host).result = .error fault := by
  obtain ⟨n, hcourse⟩ := Query.attempts_course url policy host
  rw [hcourse.lastResult] at hlast
  rw [hcourse.requests, List.length_replicate, Nat.add_sub_cancel] at hverdict
  cases hcourse.ending with
  | settled last =>
    rw [hlast] at last
    cases last
  | stopped reason last verdict =>
    rw [hverdict] at verdict
    cases verdict
  | raised reason fault' last verdict result =>
    rw [hverdict] at verdict
    cases verdict
    exact result

/-- A fault that escapes from anywhere breaks the detection off, and no other does. -/
theorem escapes_iff {d : Detector} {environment : Resource.Environment} {host : Host}
    {fault : Fault} :
    Escapes d host (d.detect environment host).events fault ↔ d.fault? host = some fault := by
  have hsent : ∀ policy, d.cache = none → d.source.take = .ok policy →
      requests (d.detect environment host).events =
        requests (Query.attempts d.url policy host).events := by
    intro policy hc hs
    exact detect_made_sends (attempts_of_take hc hs) environment
  constructor
  · intro h
    cases h with
    | factory uncached unmade unsent => simp only [fault?, uncached, unmade]
    | fetch uncached sent last =>
      cases hs : d.source.take with
      | error fault' => exact absurd (detect_unmade_sends uncached hs environment host) sent
      | ok policy =>
        rw [Host.lastResult, hsent policy uncached hs] at last
        rcases Query.attempts_result d.url policy host with hr | ⟨reason, _, hr, _, _⟩
        · simp only [fault?, uncached, hs, hr.trans last]
        · cases last.symm.trans hr
    | policy policy reason uncached made sent last verdict =>
      rw [Host.lastResult, hsent policy uncached made] at last
      rw [hsent policy uncached made] at verdict
      simp only [fault?, uncached, made, attempts_raised last verdict]
  · intro h
    unfold fault? at h
    split at h
    · rename_i fault' hc hs
      cases h
      exact .factory hc hs (detect_unmade_sends hc hs environment host)
    · rename_i policy hc hs
      split at h
      · rename_i fault' hr
        cases h
        exact escapes_of_attempts (attempts_of_take hc hs) hr (hsent policy hc hs)
      · cases h
    · cases h

/-- Two detections that do the same and leave the same. -/
structure Detection.Matches (x y : Detection) : Prop where
  work : SameWork x.events y.events
  host : x.host = y.host
  detector : x.detector.Matches y.detector

/-- Two detections answer the same, and each tells the same in the name of its detector. -/
def SameReport (d d' : Detector) (x y : Detection) : Prop :=
  x.answer = y.answer ∧ ∃ tells : List (Log.Level × Log.Message),
    loud x.events = tells.map (fun t => ⟨d.config.logger, t.1, t.2⟩) ∧
    loud y.events = tells.map (fun t => ⟨d'.config.logger, t.1, t.2⟩)

/-- Two detections do the same and report the same, unless a fault escapes; then each reports it as
its detector is set to. -/
structure DifferInReports (d d' : Detector) (host : Host) (x y : Detection) : Prop where
  effects : x.Matches y
  settled : (∀ fault, ¬Escapes d host x.events fault) → SameReport d d' x y
  escaped : ∀ fault, Escapes d host x.events fault →
    ReportsFault d fault x.answer x.events ∧ ReportsFault d' fault y.answer y.events

theorem break_off_events (d : Detector) (fault : Fault) (events : List Event) (host : Host) :
    (d.breakOff fault events host).events = events ++
      (if d.config.raiseOnError then [] else [d.detectionFailed fault]).map
        (fun r => host.event (.log r)) := by
  unfold breakOff
  split
  · exact (List.append_nil events).symm
  · rfl

theorem break_off_told_loud (d : Detector) (fault : Fault) :
    ∀ r ∈ (if d.config.raiseOnError then [] else [d.detectionFailed fault]), r.level ≠ .debug := by
  split <;> simp [detectionFailed]

/-- Where a fault breaks both off. -/
theorem Matches.breakOff {d d' : Detector} (h : d.Matches d') (fault : Fault) (events : List Event)
    (host : Host) : (d.breakOff fault events host).Matches (d'.breakOff fault events host) := by
  refine ⟨?_, ?_, ?_⟩
  · rw [break_off_events, break_off_events]
    exact same_work_told host events (d.break_off_told_loud fault) (d'.break_off_told_loud fault)
  · rw [(d.break_off_leaves fault events host).2, (d'.break_off_leaves fault events host).2]
  · rw [break_off_detector, break_off_detector]
    exact h

/-- What is told of an outcome. -/
def concluding (d : Detector) : Outcome → List Log.Record
  | .success _ => []
  | .retryable reason | .fatal reason => [d.unavailable reason]

theorem conclude_events (d : Detector) (environment : Resource.Environment) (outcome : Outcome)
    (events : List Event) (host : Host) :
    (d.conclude environment outcome events host).events =
      events ++ (d.concluding outcome).map (fun r => host.event (.log r)) := by
  cases outcome with
  | success document => exact (List.append_nil events).symm
  | retryable reason | fatal reason => rfl

theorem concluding_loud (d : Detector) (outcome : Outcome) :
    ∀ r ∈ d.concluding outcome, r.level ≠ .debug := by
  cases outcome <;> simp [concluding, unavailable]

theorem Matches.conclude {d d' : Detector} (h : d.Matches d') (environment : Resource.Environment)
    (outcome : Outcome) {events : List Event} (host : Host) (hq : loud events = []) :
    (d.conclude environment outcome events host).Matches
        (d'.conclude environment outcome events host) ∧
      SameReport d d' (d.conclude environment outcome events host)
        (d'.conclude environment outcome events host) := by
  have htold := fun d : Detector => loud_told host (d.concluding_loud outcome)
  have hwork := same_work_told host events (d.concluding_loud outcome) (d'.concluding_loud outcome)
  rw [SameReport, conclude_events, conclude_events, loud_append, loud_append, hq, htold, htold]
  refine ⟨⟨?_, ?_, ?_⟩, ?_, ?_⟩
  · rw [conclude_events, conclude_events]
    exact hwork
  · cases outcome <;> rfl
  · cases outcome with
    | success document => exact ⟨h.url, h.source, rfl⟩
    | retryable reason | fatal reason => exact h
  · cases outcome <;> rfl
  · cases outcome with
    | success document => exact ⟨[], rfl, rfl⟩
    | retryable reason | fatal reason => exact ⟨[(.info, .unavailable reason)], rfl, rfl⟩

theorem Matches.giveBack {d d' : Detector} (h : d.Matches d') (tried : Query.Attempts) :
    (d.giveBack tried).Matches (d'.giveBack tried) :=
  ⟨h.url, congrArg (PolicySource.giveBack tried.policy) h.source, h.cache⟩

theorem differ_of_fault {d d' : Detector} {environment : Resource.Environment} {host : Host}
    {fault : Fault} {y : Detection} (hf : d.fault? host = some fault)
    (hm : (d.detect environment host).Matches y)
    (hx : ReportsFault d fault (d.detect environment host).answer
      (d.detect environment host).events)
    (hy : ReportsFault d' fault y.answer y.events) :
    DifferInReports d d' host (d.detect environment host) y where
  effects := hm
  settled hnone := absurd (escapes_iff.mpr hf) (hnone fault)
  escaped := by
    intro fault' hescapes
    obtain rfl := Option.some.inj (hf.symm.trans (escapes_iff.mp hescapes))
    exact ⟨hx, hy⟩

theorem differ_of_none {d d' : Detector} {environment : Resource.Environment} {host : Host}
    {y : Detection} (hf : d.fault? host = none)
    (hm : (d.detect environment host).Matches y)
    (hsame : SameReport d d' (d.detect environment host) y) :
    DifferInReports d d' host (d.detect environment host) y where
  effects := hm
  settled _ := hsame
  escaped := by
    intro fault hescapes
    cases hf.symm.trans (escapes_iff.mp hescapes)

/-- Detectors that do the same differ at most in what they report. -/
theorem Matches.detect {d d' : Detector} (h : d.Matches d') (environment : Resource.Environment)
    (host : Host) : DifferInReports d d' host (d.detect environment host)
      (d'.detect environment host) := by
  cases hc : d.cache with
  | some attributes =>
    have hc' : d'.cache = some attributes := h.cache ▸ hc
    apply differ_of_none (by simp only [fault?, hc])
    · rw [detect_kept hc, detect_kept hc']
      exact ⟨⟨rfl, rfl, rfl, rfl, rfl, rfl⟩, rfl, h⟩
    · rw [detect_kept hc, detect_kept hc']
      exact ⟨rfl, [], rfl, rfl⟩
  | none =>
    have hc' : d'.cache = none := h.cache ▸ hc
    cases hs : d.source.take with
    | error fault =>
      have hs' : d'.source.take = .error fault := h.source ▸ hs
      have hfault : d.fault? host = some fault := by simp only [fault?, hc, hs]
      apply differ_of_fault hfault
      · rw [detect_without_policy hc hs, detect_without_policy hc' hs']
        exact h.breakOff fault _ host
      · rw [detect_without_policy hc hs]
        exact (d.break_off_reports fault _ host rfl).2
      · rw [detect_without_policy hc' hs']
        exact (d'.break_off_reports fault _ host rfl).2
    | ok policy =>
      have made : d.attempts? host = some (Query.attempts d.url policy host) :=
        attempts_of_take hc hs
      have made' := (h.attempts host).symm.trans made
      have hq : loud (host.event .takePolicy :: (Query.attempts d.url policy host).events) = [] :=
        Query.attempts_quiet d.url policy host
      have hgiven := h.giveBack (Query.attempts d.url policy host)
      cases hr : (Query.attempts d.url policy host).result with
      | error fault =>
        have hfault : d.fault? host = some fault := by simp only [fault?, hc, hs, hr]
        apply differ_of_fault hfault
        · rw [detect_broken made hr, detect_broken made' hr]
          exact hgiven.breakOff fault _ _
        · rw [detect_broken made hr]
          exact ((d.giveBack _).break_off_reports fault _ _ hq).2
        · rw [detect_broken made' hr]
          exact ((d'.giveBack _).break_off_reports fault _ _ hq).2
      | ok outcome =>
        obtain ⟨hm, hsame⟩ := hgiven.conclude environment outcome _ hq
        apply differ_of_none (by simp only [fault?, hc, hs, hr])
        · rw [detect_ended made hr, detect_ended made' hr]
          exact hm
        · rw [detect_ended made hr, detect_ended made' hr]
          exact hsame

theorem matches_lockstep : Lockstep Matches Detection.Matches where
  refl := Matches.refl
  detect h environment host := (h.detect environment host).effects
  host := Detection.Matches.host
  detector := Detection.Matches.detector

end Detector

namespace World
open Detector

/-- Steps of two runs that are the same but for reporting options. -/
abbrev Step.Matches : Step → Step → Prop := Step.Related Config.Matches

/-- Two worlds in which the same goes on. -/
abbrev Matches : World → World → Prop := Related Detector.Matches

/-- In two runs of the same steps whose detectors differ at most in reporting options, each detection
does the same and leaves all detectors with the same attributes and policies, the fault that escapes
from one escapes from the other, and only what is reported of it follows the options. -/
theorem reports_alone_follow_options (environment : Resource.Environment) (host : Host)
    {before before' : List Step} (hsame : List.Forall₂ Step.Matches before before')
    (later later' : List Step) (id : Text) (d : Detector)
    (hd : ((start environment host).after before).detectors.get? id = some d) :
    let w := (start environment host).after before
    let w' := (start environment host).after before'
    ∃ d', w'.detectors.get? id = some d' ∧ d.Matches d' ∧
      let x := d.detect w.environment w.host
      let y := d'.detect w'.environment w'.host
      ((start environment host).run (before ++ .detect id :: later))[before.length]? =
        some (.detected x.answer x.events) ∧
      ((start environment host).run (before' ++ .detect id :: later'))[before'.length]? =
        some (.detected y.answer y.events) ∧
      DifferInReports d d' w.host x y ∧
      (w.step (.detect id)).2.Matches (w'.step (.detect id)).2 := by
  intro w w'
  obtain ⟨_, hworlds⟩ := (related_start environment host).run matches_lockstep matches_new hsame
  obtain ⟨d', hd', hm⟩ := hworlds.detector hd
  obtain ⟨_, hnext⟩ := hworlds.step matches_lockstep matches_new (.same (.detect id))
  refine ⟨d', hd', hm, ?_, ?_, ?_, hnext⟩
  · rw [run_report, (step_detect hd).1]
  · rw [run_report, (step_detect hd').1]
  · rw [← hworlds.environment, ← hworlds.host]
    exact hm.detect w.environment w.host

/-- A fault on the first request is handed on by one detector, and told by another that is set up
otherwise and does the same. -/
theorem fault_reported_by_options :
    let fault : Fault := .missingKey "k"
    let host : Host := ⟨Table.empty, fun _ => .broken fault, 0⟩
    let before : List Step := [.create "here" { raiseOnError := true, logger := .own "custom" }]
    let before' : List Step := [.create "here" { session := .own }]
    let w := (start Table.empty host).after before
    let d : Detector := .new { raiseOnError := true, logger := .own "custom" }
    let d' : Detector := .new { session := .own }
    List.Forall₂ Step.Matches before before' ∧ w.detectors.get? "here" = some d ∧
    ((start Table.empty host).run (before' ++ [.detect "here"]))[1]? =
      some (.detected (d'.detect Table.empty host).answer (d'.detect Table.empty host).events) ∧
    (d.detect Table.empty host).answer = .error fault ∧
    (d'.detect Table.empty host).answer = .ok Table.empty ∧
    (loud (d'.detect Table.empty host).events).map told =
      [(.detecting, .warning, "GoogleCloudResourceDetector failed: " ++ fault.text)] := by
  intro fault host before before' w d d'
  have hsame : List.Forall₂ Step.Matches before before' := .cons (.create "here" ⟨rfl, rfl⟩) .nil
  have hd : w.detectors.get? "here" = some d := step_create _ _ _
  have hraised : (Query.attempts d.url .standard host).result = .error fault :=
    Query.attempts_settled rfl
  have hescapes : Escapes d host (d.detect Table.empty host).events fault := by
    apply escapes_iff.mpr
    change (match (Query.attempts d.url .standard host).result with
      | .error fault => some fault
      | .ok _ => none) = some fault
    rw [hraised]
  obtain ⟨other, hother, _, _, hreport, hdiffer, _⟩ :=
    reports_alone_follow_options Table.empty host hsame [] [] "here" d hd
  obtain rfl : other = d' := Option.some.inj (hother.symm.trans (step_create _ _ _))
  obtain ⟨hraise, htell⟩ := hdiffer.escaped fault hescapes
  exact ⟨hsame, hd, hreport, hraise.1, htell⟩

end World

end CloudDetector
