import CloudDetector.Proofs.NonInterference

namespace CloudDetector
open Trace

namespace Context

/-- The context that an action for a caller is done in: instrumentation is suppressed while a
request is out, and all else is done in the caller's own. -/
def during (caller : Context) : Action → Context
  | .get _ => caller.suppress
  | _ => caller

theorem during_of_other (caller : Context) {a : Action} (h : a.request? = none) :
    caller.during a = caller := by
  cases a with
  | get request => cases h
  | _ => rfl

theorem suppress_suppressed (c : Context) : c.suppress.isSuppressed = true := by
  simp [suppress, isSuppressed, Table.get?_put]

/-- Suppression touches no other flag. -/
theorem get?_suppress (c : Context) {key : Text} (h : key ≠ suppression) :
    c.suppress.get? key = c.get? key := by
  simp [suppress, Table.get?_put, h]

end Context

/-- Each action was done in the context that is due to it, and the one that is left is the
caller's. -/
structure Restores (caller : Context) (events : List Event) (left : Host) : Prop where
  events : ∀ e ∈ events, e.context = caller.during e.action
  left : left.context = caller

namespace Restores

variable {caller : Context} {es es' : List Event} {host host' : Host}

theorem append (h : Restores caller es host) (h' : Restores caller es' host') :
    Restores caller (es ++ es') host' := by
  refine ⟨?_, h'.left⟩
  intro e he
  rcases List.mem_append.mp he with hm | hm
  · exact h.events e hm
  · exact h'.events e hm

/-- What is done between requests needs no other context than the one in force. -/
theorem between (left : host.context = caller) (actions : List Action)
    (h : ∀ a ∈ actions, a.request? = none) :
    Restores caller (actions.map host.event) host := by
  refine ⟨?_, left⟩
  intro e he
  obtain ⟨a, ha, rfl⟩ := List.mem_map.mp he
  rw [← left]
  exact (host.context.during_of_other (h a ha)).symm

theorem told (left : host.context = caller) (rs : List Log.Record) :
    Restores caller (rs.map (fun r => host.event (.log r))) host := by
  have h := between left (rs.map Action.log) (by simp [Action.request?])
  simpa [Function.comp_def] using h

end Restores

namespace Query

/-- One try puts the caller's context back, whatever the request came to. -/
theorem fetch_restores (url : Text) (host : Host) :
    Restores host.context (fetch url host).events (fetch url host).host := by
  have hsent : Restores host.context [⟨host.context.suppress, .get (request url)⟩] host :=
    ⟨by simp [Context.during], rfl⟩
  have hleft : (host.answered 1).context = host.context := rfl
  exact hsent.append (.told hleft (host.judgement 0).records)

/-- So does a failed try together with what is told of it and the question to the policy. -/
theorem failure_restores (url : Text) (host : Host) (reason : Reason) :
    Restores host.context
      ((fetch url host).events ++ [(fetch url host).host.event (.log (requestFailed reason)),
        (fetch url host).host.event .consult]) (fetch url host).host := by
  have hfetched := fetch_restores url host
  have hasked := Restores.between hfetched.left [.log (requestFailed reason), .consult]
    (by simp [Action.request?])
  exact hfetched.append hasked

/-- Any number of tries put the caller's context back, and the questions and pauses between them
find it in force. -/
theorem attempts_restores (url : Text) (policy : Policy) (host : Host) :
    Restores host.context (attempts url policy host).events (attempts url policy host).host := by
  fun_induction attempts url policy host with
  | case1 policy host fetched after settled => exact fetch_restores url host
  | case2 policy host fetched after reason failed events delay next asked waits rest ih =>
    have hfailed : Restores host.context events after := failure_restores url host reason
    have hwaited := Restores.between hfailed.left (delay.toList.map .wait)
      (by simp [Action.request?])
    rw [List.map_map] at hwaited
    rw [hfailed.left] at ih
    exact (hfailed.append hwaited).append ih
  | case3 policy host fetched after reason failed events next asked =>
    exact failure_restores url host reason
  | case4 policy host fetched after reason failed events fault next asked =>
    exact failure_restores url host reason

end Query

namespace Detector

theorem detect_restores (d : Detector) (environment : Resource.Environment) (host : Host) :
    Restores host.context (d.detect environment host).events (d.detect environment host).host := by
  have htaken : Restores host.context [host.event .takePolicy] host :=
    .between rfl [.takePolicy] (by simp [Action.request?])
  cases hc : d.cache with
  | some attributes =>
    rw [detect_kept hc]
    exact ⟨by simp, rfl⟩
  | none =>
    cases hs : d.source.take with
    | error fault =>
      obtain ⟨⟨rs, he⟩, _, hhost⟩ := detect_unmade hc hs environment host
      rw [he, hhost]
      exact htaken.append (.told rfl rs)
    | ok policy =>
      obtain ⟨⟨rs, he⟩, _, hhost⟩ := detect_made (attempts_of_take hc hs) environment
      have htried := Query.attempts_restores d.url policy host
      rw [he, hhost]
      exact (htaken.append htried).append (.told htried.left rs)

end Detector

/-- A use of what sends requests. -/
inductive Call
  | fetch (url : Text)
  | attempts (url : Text) (policy : Query.Policy)
  | detect (d : Detector) (environment : Resource.Environment)

namespace Host

/-- What a call does, and the host that it leaves. -/
def call (h : Host) : Call → List Event × Host
  | .fetch url => ((Query.fetch url h).events, (Query.fetch url h).host)
  | .attempts url policy => ((Query.attempts url policy h).events, (Query.attempts url policy h).host)
  | .detect d environment => ((d.detect environment h).events, (d.detect environment h).host)

/-- Calls one after another, each on the host that the one before it leaves. -/
def calls (h : Host) : List Call → List Event × Host
  | [] => ([], h)
  | c :: later => ((h.call c).1 ++ ((h.call c).2.calls later).1, ((h.call c).2.calls later).2)

theorem call_restores (h : Host) (c : Call) : Restores h.context (h.call c).1 (h.call c).2 := by
  cases c with
  | fetch url => exact Query.fetch_restores url h
  | attempts url policy => exact Query.attempts_restores url policy h
  | detect d environment => exact d.detect_restores environment h

theorem calls_restore (h : Host) (cs : List Call) :
    Restores h.context (h.calls cs).1 (h.calls cs).2 := by
  induction cs generalizing h with
  | nil => exact ⟨by simp [calls], rfl⟩
  | cons c later ih =>
    have hcall := h.call_restores c
    have hlater := ih (h.call c).2
    rw [hcall.left] at hlater
    exact hcall.append hlater

end Host

namespace World

theorem step_restores (w : World) (s : Step) :
    Restores w.host.context (w.step s).1.events (w.step s).2.host := by
  refine ⟨?_, w.step_context s⟩
  cases s with
  | detect id =>
    cases hd : w.detectors.get? id with
    | none => simp [step, hd, Report.events]
    | some d =>
      rw [(step_detect hd).1]
      exact (d.detect_restores w.environment w.host).events
  | _ => simp [step, Report.events]

theorem run_restores (w : World) (steps : List Step) :
    Restores w.host.context ((w.run steps).flatMap Report.events) (w.after steps).host := by
  induction steps generalizing w with
  | nil => exact ⟨by simp [run], rfl⟩
  | cons s steps ih =>
    have hstep := w.step_restores s
    have hlater := ih (w.step s).2
    rw [hstep.left] at hlater
    exact hstep.append hlater

end World

/-- From a context of any kind, instrumentation is suppressed for requests and nothing else. -/
structure SuppressesRequests (host : Host) : Prop where
  sent : ∀ request, (host.context.during (.get request)).isSuppressed = true
  apart : ∀ request key, key ≠ Context.suppression →
    (host.context.during (.get request)).get? key = host.context.get? key
  /-- Each try sends a request, so there is something to suppress. -/
  requests : ∀ url, requests (host.call (.fetch url)).1 = [Query.request url]
  calls : ∀ cs, Restores host.context (host.calls cs).1 (host.calls cs).2
  /-- What follows on an outcome, the classification with it, finds the caller's context. -/
  concluded : ∀ (d : Detector) environment tried outcome, d.attempts? host = some tried →
    tried.result = .ok outcome → tried.host.context = host.context ∧
      d.detect environment host = (d.giveBack tried).conclude environment outcome
        (host.event .takePolicy :: tried.events) tried.host
  runs : ∀ (w : World) steps, w.host = host →
    Restores host.context ((w.run steps).flatMap World.Report.events) (w.after steps).host

/-- Whatever the caller's context says of suppression, each request goes out with it set, and the
very same context is back in force once the request has come to its reply or its fault: for the
policy and the pauses, for what is told and classified, and for the caller after any number of tries
and calls, answered or broken off. -/
theorem suppressed_for_requests_alone (host : Host) : SuppressesRequests host where
  sent _ := host.context.suppress_suppressed
  apart _ _ h := host.context.get?_suppress h
  requests url := by
    have htold := requests_told (host.answered 1) (host.judgement 0).records
    rw [Host.call, Query.fetch_eq, ← List.singleton_append, requests_append]
    exact congrArg ([Query.request url] ++ ·) htold
  calls := host.calls_restore
  concluded := by
    intro d environment tried outcome made result
    obtain ⟨_, policy, _, rfl⟩ := Detector.attempts_made made
    exact ⟨(Query.attempts_restores d.url policy host).left,
      Detector.detect_ended made result environment⟩
  runs := by
    rintro w steps rfl
    exact w.run_restores steps

end CloudDetector
