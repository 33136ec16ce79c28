import CloudDetector.Proofs.LifeBudget
import CloudDetector.Proofs.RepliesReceived

namespace CloudDetector
open Trace

namespace World

/-- The name of the detector that a step is about. -/
def Step.name? : Step → Option Text
  | .create id _ | .detect id => some id
  | _ => none

def Step.changesEnvironment : Step → Bool
  | .setVariable _ _ | .unsetVariable _ => true
  | _ => false

/-- The steps that are left when all is taken away that belongs to other names. -/
def Step.concerns (id : Text) (s : Step) : Bool := s.name? = some id || s.changesEnvironment

def Step.isDetection (id : Text) : Step → Bool
  | .detect id' => id' = id
  | _ => false

/-- What a run reports of the detections under a name, in order. -/
def detections (id : Text) (steps : List Step) (reports : List Report) : List Report :=
  ((steps.zip reports).filter (fun p => p.1.isDetection id)).map Prod.snd

/-- The replies that the requests of a step get, if it is a detection under this name. -/
def repliesAt (w : World) (id : Text) (s : Step) : List Http.Reply :=
  w.host.server.upcoming (requests (w.seenAt id s)).length

/-- The replies that all requests under a name get in the course of the steps. -/
def received (w : World) (id : Text) : List Step → List Http.Reply
  | [] => []
  | s :: steps => w.repliesAt id s ++ (w.step s).2.received id steps

theorem detections_cons (id : Text) (s : Step) (steps : List Step) (r : Report)
    (reports : List Report) : detections id (s :: steps) (r :: reports) =
      (if s.isDetection id then [r] else []) ++ detections id steps reports := by
  unfold detections
  rw [List.zip_cons_cons, List.filter_cons]
  split <;> rfl

theorem repliesAt_of_ne (w : World) {id : Text} {s : Step} (h : s ≠ .detect id) :
    w.repliesAt id s = [] := by
  rw [repliesAt, w.seenAt_of_ne h]
  rfl

theorem Step.isDetection_of_ne {id : Text} {s : Step} (h : s ≠ .detect id) :
    s.isDetection id = false := by
  cases s with
  | detect id' =>
    simp only [Step.isDetection, decide_eq_false_iff_not]
    rintro rfl
    exact h rfl
  | _ => rfl

theorem step_environment (w : World) {s : Step} (h : s.changesEnvironment = false) :
    (w.step s).2.environment = w.environment := by
  cases s with
  | detect id =>
    simp only [step]
    split <;> rfl
  | setVariable name value | unsetVariable name => cases h
  | _ => rfl

/-- The host has answered what a step sent, and is otherwise as it was. -/
theorem step_host (w : World) {s : Step} (h : ∀ server, s ≠ .serve server) :
    (w.step s).2.host = w.host.answered (requests (w.step s).1.events).length := by
  cases s with
  | serve server => exact absurd rfl (h server)
  | detect id =>
    cases hd : w.detectors.get? id with
    | none =>
      simp only [step, hd]
      rfl
    | some d =>
      simp only [step, hd]
      exact d.detect_host w.environment w.host
  | _ => rfl

theorem step_context (w : World) (s : Step) : (w.step s).2.host.context = w.host.context := by
  by_cases h : ∃ server, s = .serve server
  · obtain ⟨server, rfl⟩ := h
    rfl
  · rw [w.step_host (not_exists.mp h)]
    rfl

theorem step_detector (w : World) {s : Step} {id : Text} (h : s.name? ≠ some id) :
    (w.step s).2.detectors.get? id = w.detectors.get? id := by
  apply w.step_detectors_of_ne
  · rintro config rfl
    exact h rfl
  · rintro rfl
    exact h rfl

/-- A step about one detector changes no other. Of what they share, it takes replies. -/
theorem step_of_other (w : World) {s : Step} {id other : Text} (hs : s.name? = some other)
    (hne : other ≠ id) :
    (w.step s).2.detectors.get? id = w.detectors.get? id ∧
      (w.step s).2.environment = w.environment ∧
      (w.step s).2.host = w.host.answered (requests (w.step s).1.events).length := by
  refine ⟨?_, ?_, ?_⟩
  · apply w.step_detector
    rw [hs]
    exact fun h => hne (Option.some.inj h)
  · apply w.step_environment
    cases s <;> first | rfl | cases hs
  · apply w.step_host
    rintro server rfl
    cases hs

/-- Two worlds that look the same to the detectors under a name. -/
structure Agree (id : Text) (w w' : World) : Prop where
  environment : w'.environment = w.environment
  context : w'.host.context = w.host.context
  detector : w'.detectors.get? id = w.detectors.get? id

/-- A step that does not concern a name may be left out. -/
theorem Agree.leaveOut {id : Text} {w w' : World} (h : Agree id w w') {s : Step}
    (hs : s.concerns id = false) : Agree id (w.step s).2 w' := by
  obtain ⟨hname, hchange⟩ := Bool.or_eq_false_iff.mp hs
  have hname : s.name? ≠ some id := by simpa using hname
  refine ⟨?_, ?_, ?_⟩
  · rw [w.step_environment hchange]
    exact h.environment
  · rw [w.step_context]
    exact h.context
  · rw [w.step_detector hname]
    exact h.detector

/-- A detection comes to the same in worlds that agree, if the same replies come. -/
theorem Agree.detect {id : Text} {w w' : World} (h : Agree id w w')
    (hreplies : w'.host.server.Hands (w.repliesAt id (.detect id))) :
    (w'.step (.detect id)).1 = (w.step (.detect id)).1 ∧
      Agree id (w.step (.detect id)).2 (w'.step (.detect id)).2 ∧
      (w'.step (.detect id)).2.host =
        w'.host.answered (w.repliesAt id (.detect id)).length := by
  have hcontext := (w'.step_context (.detect id)).trans
    (h.context.trans (w.step_context (.detect id)).symm)
  cases hd : w.detectors.get? id with
  | none =>
    have hd' : w'.detectors.get? id = none := h.detector.trans hd
    have hnone : w.repliesAt id (.detect id) = [] := by
      simp only [repliesAt, seenAt, World.step, hd, if_pos]
      rfl
    simp only [hnone, World.step, hd, hd', true_and]
    exact ⟨h, rfl⟩
  | some d =>
    have hd' : w'.detectors.get? id = some d := h.detector.trans hd
    have hsame : d.detect w'.environment w'.host = { d.detect w.environment w.host with
        host := w'.host.answered (requests (d.detect w.environment w.host).events).length } := by
      rw [repliesAt, seenAt_detect hd] at hreplies
      rw [h.environment]
      exact d.detect_elsewhere w.environment h.context hreplies
    have hlength : (w.repliesAt id (.detect id)).length =
        (requests (d.detect w.environment w.host).events).length := by
      rw [repliesAt, Http.Server.upcoming_length, seenAt_detect hd]
    refine ⟨?_, ⟨?_, hcontext, ?_⟩, ?_⟩
    · rw [(step_detect hd').1, (step_detect hd).1, hsame]
    · rw [w'.step_environment rfl, w.step_environment rfl]
      exact h.environment
    · rw [(step_detect hd').2, (step_detect hd).2, hsame]
    · rw [hlength]
      simp only [World.step, hd', hsame]

/-- A step that concerns a name reports the same in worlds that agree, if the same replies come. -/
theorem Agree.step {id : Text} {w w' : World} (h : Agree id w w') {s : Step}
    (hs : s.concerns id = true) (hreplies : w'.host.server.Hands (w.repliesAt id s)) :
    (w'.step s).1 = (w.step s).1 ∧ Agree id (w.step s).2 (w'.step s).2 ∧
      (w'.step s).2.host = w'.host.answered (w.repliesAt id s).length := by
  cases s with
  | create id' config =>
    obtain rfl : id' = id := by simpa [Step.concerns, Step.name?, Step.changesEnvironment] using hs
    exact ⟨rfl, ⟨h.environment, h.context, by rw [step_create, step_create]⟩, rfl⟩
  | setVariable name value =>
    exact ⟨rfl, ⟨congrArg (·.put name value) h.environment, h.context, h.detector⟩, rfl⟩
  | unsetVariable name =>
    exact ⟨rfl, ⟨congrArg (·.erase name) h.environment, h.context, h.detector⟩, rfl⟩
  | serve server => cases hs
  | detect id' =>
    obtain rfl : id' = id := by simpa [Step.concerns, Step.name?, Step.changesEnvironment] using hs
    exact h.detect hreplies

/-- A run without the steps that do not concern a name reports the same of the detections under it,
and takes exactly the replies that these got. -/
theorem Agree.run {id : Text} {w w' : World} (h : Agree id w w') {steps : List Step}
    (hreplies : w'.host.server.Hands (w.received id steps)) :
    let own := steps.filter (Step.concerns id)
    detections id own (w'.run own) = detections id steps (w.run steps) ∧
      Agree id (w.after steps) (w'.after own) ∧
      (w'.after own).host = w'.host.answered (w.received id steps).length := by
  induction steps generalizing w w' with
  | nil => exact ⟨rfl, h, rfl⟩
  | cons s steps ih =>
    obtain ⟨hnow, hlater⟩ := Http.Server.hands_append.mp hreplies
    rw [World.run, detections_cons, World.after, received, List.length_append]
    cases hs : s.concerns id with
    | true =>
      obtain ⟨hreport, hagree, hhost⟩ := h.step hs hnow
      obtain ⟨hreports, hend, hleft⟩ := ih hagree (by rw [hhost]; exact hlater)
      rw [List.filter_cons_of_pos hs]
      dsimp only
      rw [World.run, detections_cons, World.after, hreport, hreports, hleft, hhost,
        Host.answered_answered]
      exact ⟨rfl, hend, rfl⟩
    | false =>
      have hne : s ≠ .detect id := by
        rintro rfl
        simp [Step.concerns, Step.name?] at hs
      rw [w.repliesAt_of_ne hne] at hlater ⊢
      obtain ⟨hreports, hend, hleft⟩ := ih (h.leaveOut hs) hlater
      rw [List.filter_cons_of_neg (by simp [hs]), Step.isDetection_of_ne hne]
      refine ⟨hreports, hend, ?_⟩
      rw [List.length_nil, Nat.zero_add]
      exact hleft

/-- The changes of the environment by themselves make the same environment. -/
theorem after_changes {w w' : World} (h : w'.environment = w.environment) (steps : List Step) :
    let changed := w'.after (steps.filter Step.changesEnvironment)
    changed.environment = (w.after steps).environment ∧ changed.host = w'.host ∧
      (w.after steps).host.context = w.host.context := by
  induction steps generalizing w w' with
  | nil => exact ⟨h, rfl, rfl⟩
  | cons s steps ih =>
    cases hs : s.changesEnvironment with
    | true =>
      rw [List.filter_cons_of_pos hs]
      cases s with
      | setVariable name value => exact ih (congrArg (·.put name value) h)
      | unsetVariable name => exact ih (congrArg (·.erase name) h)
      | _ => cases hs
    | false =>
      obtain ⟨henvironment, hhost, hcontext⟩ := ih (h.trans (w.step_environment hs).symm)
      rw [List.filter_cons_of_neg (by simp [hs])]
      exact ⟨henvironment, hhost, hcontext.trans (w.step_context s)⟩

/-- Whatever else happens in a run, a detector and those that take its place answer as they do
alone: in the same changes of the environment and against any server that hands them the replies
that their own requests got. Alone they use up just these replies and are left in the same state.
And a step about one detector leaves every other as it is, and takes only the replies to what it
sends. -/
theorem detectors_do_not_interfere (environment : Resource.Environment) (host : Host)
    (before life : List Step) (id : Text) (config : Config) (server : Http.Server)
    (hserver : server.Hands
      (((start environment host).after (before ++ [.create id config])).received id life)) :
    let born := (start environment host).after (before ++ [.create id config])
    let alone := (start environment { host with server }).after
      (before.filter Step.changesEnvironment ++ [.create id config])
    let own := life.filter (Step.concerns id)
    detections id own (alone.run own) = detections id life (born.run life) ∧
    (alone.after own).detectors.get? id = (born.after life).detectors.get? id ∧
    (alone.after own).host = Host.answered { host with server } (born.received id life).length ∧
    ∀ (w : World) s other, Step.name? s = some other → other ≠ id →
      (w.step s).2.detectors.get? id = w.detectors.get? id ∧
      (w.step s).2.environment = w.environment ∧
      (w.step s).2.host = w.host.answered (requests (w.step s).1.events).length := by
  intro born alone own
  have hstart : (start environment { host with server }).environment =
      (start environment host).environment := rfl
  obtain ⟨henvironment, hhost, hcontext⟩ := after_changes hstart before
  have halone : alone.host = { host with server } := by
    simp only [alone, after_append]
    exact hhost
  have hagree : Agree id born alone := by
    simp only [born, alone, after_append]
    refine ⟨henvironment, ?_, ?_⟩
    · exact (congrArg Host.context hhost).trans hcontext.symm
    · exact (step_create _ id config).trans (step_create _ id config).symm
  have hreplies : alone.host.server.Hands (born.received id life) := by
    rw [halone]
    exact hserver
  obtain ⟨hreports, hend, hleft⟩ := hagree.run hreplies
  refine ⟨hreports, hend.detector, ?_, ?_⟩
  · rw [hleft, halone]
  · intro w s other hs hne
    exact w.step_of_other hs hne

/-- Another detector takes the first reply, which is a fault, and the second is answered as if there
had been no other. -/
theorem second_reply_answered_alone :
    let once : Config := { retry := .fresh (.ofDelays []) }
    let refused : Http.Reply := .response ⟨404, .ofFields [], .ofBytes []⟩
    let host : Host := ⟨Table.empty, .ofScript (.broken (.other "KeyError" "k")) [refused]⟩
    let server : Http.Server := ⟨fun _ => refused, 0⟩
    let before : List Step := [.create "there" once]
    let life : List Step := [.detect "there", .setVariable "K_SERVICE" "shop", .detect "here"]
    let born := (start Table.empty host).after (before ++ [.create "here" once])
    let alone := (start Table.empty { host with server }).after [.create "here" once]
    let own : List Step := [.setVariable "K_SERVICE" "shop", .detect "here"]
    born.received "here" life = [refused] ∧ server.Hands (born.received "here" life) ∧
    detections "here" own (alone.run own) = detections "here" life (born.run life) := by
  intro once refused host server before life born alone own
  -- Without delays there is one request, whatever the reply.
  have hone : ∀ environment host,
      (requests ((Detector.new once).detect environment host).events).length = 1 := by
    intro environment host
    have hpolicy : (Detector.new once).source.take = .ok (.backoff [] 0) := rfl
    obtain ⟨n, hn, hsent, _⟩ := Detector.detect_draws rfl hpolicy environment host
    obtain rfl := Nat.le_zero.mp hn
    exact hsent
  have hthere : born.detectors.get? "there" = some (.new once) := rfl
  let next := (born.step (.detect "there")).2
  have hhere : next.detectors.get? "here" = some (.new once) := by
    have hname : Step.name? (.detect "there") = some "there" := rfl
    apply (born.step_of_other hname (by decide)).1.trans
    exact step_create _ _ _
  have hhost : next.host = born.host.answered 1 := by
    have h := born.step_host (s := .detect "there") (by simp)
    rw [(step_detect hthere).1] at h
    exact h.trans (congrArg _ (hone _ _))
  have hreceived : born.received "here" life = [refused] := by
    let changed := (next.step (.setVariable "K_SERVICE" "shop")).2
    have hlast : changed.repliesAt "here" (.detect "here") = next.host.server.upcoming 1 := by
      rw [repliesAt, seenAt_detect (w := changed) hhere, hone]
      rfl
    have hfirst : born.repliesAt "here" (.detect "there") = [] :=
      born.repliesAt_of_ne (by simp; decide)
    change born.repliesAt "here" (.detect "there") ++
      ([] ++ (changed.repliesAt "here" (.detect "here") ++ [])) = _
    rw [hfirst, hlast, hhost]
    rfl
  have hserver : server.Hands (born.received "here" life) := by
    rw [hreceived]
    intro i reply hi
    obtain ⟨_, rfl⟩ := List.getElem?_eq_some_iff.mp hi
    simp [server]
  obtain ⟨hanswers, _⟩ :=
    detectors_do_not_interfere Table.empty host before life "here" once server hserver
  exact ⟨hreceived, hserver, hanswers⟩

end World

end CloudDetector
