import CloudDetector.Proofs.BackoffBudget
import CloudDetector.Proofs.DetectorLife

namespace CloudDetector
open Trace

namespace Detector

/-- A policy is handed out once and before all else. -/
theorem detect_hands_out {d : Detector} (hc : d.cache = none)
    (environment : Resource.Environment) (host : Host) :
    times .takePolicy (d.detect environment host).events = 1 ∧
      (d.detect environment host).events.head?.map Event.action = some .takePolicy := by
  cases hs : d.source.take with
  | error fault =>
    obtain ⟨⟨rs, he⟩, _, _⟩ := detect_unmade hc hs environment host
    rw [he]
    exact ⟨times_between rfl host host [] rs, rfl⟩
  | ok policy =>
    obtain ⟨⟨rs, he⟩, _, _⟩ := detect_made (attempts_of_take hc hs) environment
    obtain ⟨n, hcourse⟩ := Query.attempts_course d.url policy host
    rw [he, times_between rfl, hcourse.handouts]
    exact ⟨rfl, rfl⟩

/-- A detection sends one request more than it waits out delays, and these stand next in the list.
Its policy is left where they end. -/
theorem detect_draws {d : Detector} {delays : List Delay} {position : Nat} (hc : d.cache = none)
    (hs : d.source.take = .ok (.backoff delays position)) (environment : Resource.Environment)
    (host : Host) :
    ∃ n ≤ delays.length - position,
      (requests (d.detect environment host).events).length = n + 1 ∧
      Trace.delays (d.detect environment host).events = (delays.drop position).take n ∧
      (d.detect environment host).detector.source =
        d.source.giveBack (.backoff delays (position + n)) := by
  obtain ⟨⟨rs, he⟩, hsource, _⟩ := detect_made (attempts_of_take hc hs) environment
  obtain ⟨n, hcourse⟩ := Query.attempts_course d.url (.backoff delays position) host
  have href := hcourse.backoff_reference
  refine ⟨n, hcourse.within_budget, ?_, ?_, ?_⟩
  · rw [he, requests_between, href.sent, List.length_replicate]
  · rw [he, delays_between, href.waited]
  · rw [hsource, href.left]

end Detector

namespace World

/-- One for a detection under this name that has nothing kept. -/
def uncachedAt (w : World) (id : Text) (s : Step) : Nat :=
  match s, w.detectors.get? id with
  | .detect id', some d => if id' = id ∧ d.cache.isNone then 1 else 0
  | _, _ => 0

/-- How many detections under a name had nothing kept. -/
def uncached (w : World) (id : Text) : List Step → Nat
  | [] => 0
  | s :: steps => w.uncachedAt id s + (w.step s).2.uncached id steps

theorem uncachedAt_detect {w : World} {id : Text} {d : Detector}
    (hd : w.detectors.get? id = some d) :
    w.uncachedAt id (.detect id) = if d.cache.isNone then 1 else 0 := by
  simp only [uncachedAt, hd, true_and]

theorem uncachedAt_of_ne (w : World) {id : Text} {s : Step} (h : s ≠ .detect id) :
    w.uncachedAt id s = 0 := by
  cases s with
  | detect id' =>
    have hne : id' ≠ id := fun he => h (he ▸ rfl)
    unfold uncachedAt
    split
    · rename_i he hd
      cases he
      exact if_neg (fun h => hne h.1)
    · rfl
  | _ => rfl

/-- How one detection draws on the source of its policies. -/
structure Draws (retry : PolicySource) (kept : Option Attributes) (events : List Event) : Prop where
  idle : kept ≠ none → events = []
  once : kept = none → times .takePolicy events = 1 ∧
    events.head?.map Event.action = some .takePolicy
  unmade : kept = none → ∀ fault, retry = .failing fault → requests events = []
  /-- One delay between each two requests, from the first on. -/
  fresh : kept = none → ∀ delays, retry = .fresh (.ofDelays delays) →
    ∃ g, 1 ≤ g ∧ g ≤ delays.length + 1 ∧ (requests events).length = g ∧
      Trace.delays events = delays.take (g - 1)

theorem draws {config : Config} {d : Detector} (h : Detector.Formed config d)
    (environment : Resource.Environment) (host : Host) :
    Draws config.retry d.cache (d.detect environment host).events where
  idle := by
    intro hc
    obtain ⟨attributes, hc⟩ := Option.ne_none_iff_exists'.mp hc
    rw [Detector.detect_kept hc]
  once hc := Detector.detect_hands_out hc environment host
  unmade := by
    intro hc fault hr
    have hs : d.source = .failing fault := (h.source.of_unshared (by rw [hr]; nofun)).trans hr
    exact Detector.detect_unmade_sends hc (congrArg PolicySource.take hs) environment host
  fresh := by
    intro hc delays hr
    have hs : d.source = .fresh (.ofDelays delays) :=
      (h.source.of_unshared (by rw [hr]; nofun)).trans hr
    obtain ⟨n, hn, hsent, hwaited, _⟩ :=
      Detector.detect_draws hc (congrArg PolicySource.take hs) environment host
    exact ⟨n + 1, Nat.succ_pos n, Nat.succ_le_succ hn, hsent, hwaited⟩

/-- One step of a life that shares its policy uses up the delays that stand next. -/
theorem shared_step {w : World} {id : Text} {d : Detector} {delays : List Delay} {position : Nat}
    (hd : w.detectors.get? id = some d) (hs : d.source = .shared (.backoff delays position)) :
    ∃ n ≤ delays.length - position,
      (requests (w.seenAt id (.detect id))).length = n + w.uncachedAt id (.detect id) ∧
      Trace.delays (w.seenAt id (.detect id)) = (delays.drop position).take n ∧
      (d.detect w.environment w.host).detector.source =
        .shared (.backoff delays (position + n)) := by
  rw [seenAt_detect hd, uncachedAt_detect hd]
  cases hc : d.cache with
  | some attributes =>
    rw [Detector.detect_kept hc]
    exact ⟨0, Nat.zero_le _, rfl, rfl, hs⟩
  | none =>
    obtain ⟨n, hn, hsent, hwaited, hsource⟩ :=
      Detector.detect_draws hc (congrArg PolicySource.take hs) w.environment w.host
    exact ⟨n, hn, hsent, hwaited, by rw [hsource, hs]; rfl⟩

/-- In the course of a life the delays are used up one after another, one for each request beyond
the first of a detection. -/
theorem shared_life {w : World} {id : Text} {d : Detector} {delays : List Delay} {position : Nat}
    (hd : w.detectors.get? id = some d) (hs : d.source = .shared (.backoff delays position))
    {life : List Step} (hlife : ∀ other, .create id other ∉ life) :
    ∃ n ≤ delays.length - position,
      (requests (w.seen id life)).length = n + w.uncached id life ∧
      Trace.delays (w.seen id life) = (delays.drop position).take n ∧
      ∃ d', (w.after life).detectors.get? id = some d' ∧
        d'.source = .shared (.backoff delays (position + n)) := by
  induction life generalizing w d position with
  | nil => exact ⟨0, Nat.zero_le _, rfl, rfl, d, hd, hs⟩
  | cons s life ih =>
    obtain ⟨hcreate, hrest⟩ := never_created_cons hlife
    simp only [seen, uncached, requests_append, delays_append, List.length_append]
    rcases life_step hd hcreate with ⟨rfl, hnext⟩ | ⟨hne, hnext⟩
    · obtain ⟨n, hn, hsent, hwaited, hsource⟩ := shared_step hd hs
      obtain ⟨m, hm, hsent', hwaited', d', hd', hs'⟩ := ih hnext hsource hrest
      refine ⟨n + m, by omega, by omega, ?_, d', hd', ?_⟩
      · rw [hwaited, hwaited', ← List.drop_drop, ← List.take_add]
      · rw [hs', Nat.add_assoc]
    · obtain ⟨n, hn, hsent, hwaited, hend⟩ := ih hnext hs hrest
      rw [w.seenAt_of_ne hne, w.uncachedAt_of_ne hne, Nat.zero_add]
      exact ⟨n, hn, (Nat.zero_add _).trans hsent, hwaited, hend⟩

/-- How a life draws on one list of delays that all its detections share. No delay is waited out
twice. -/
structure SharesBudget (delays : List Delay) (w : World) (id : Text) (life : List Step) : Prop where
  waited : Trace.delays (w.seen id life) =
    delays.take ((requests (w.seen id life)).length - w.uncached id life)
  atLeast : w.uncached id life ≤ (requests (w.seen id life)).length
  atMost : (requests (w.seen id life)).length ≤ delays.length + w.uncached id life
  /-- Once all delays are used up, a detection tries once. -/
  spent : ∀ earlier later, life = earlier ++ .detect id :: later →
    Trace.delays (w.seen id earlier) = delays → (w.after earlier).kept? id = none →
    (requests ((w.after earlier).seenAt id (.detect id))).length = 1 ∧
      Trace.delays ((w.after earlier).seenAt id (.detect id)) = []

theorem shares_budget {w : World} {id : Text} {d : Detector} {delays : List Delay}
    (hd : w.detectors.get? id = some d) (hs : d.source = .shared (.backoff delays 0))
    {life : List Step} (hlife : ∀ other, .create id other ∉ life) :
    SharesBudget delays w id life := by
  obtain ⟨n, hn, hsent, hwaited, _⟩ := shared_life hd hs hlife
  refine ⟨?_, by omega, by omega, ?_⟩
  · rw [hwaited, hsent, Nat.add_sub_cancel]
    rfl
  · intro earlier later he hspent hkept
    subst life
    obtain ⟨m, hm, _, hused, d', hd', hs'⟩ := shared_life hd hs (never_created_append hlife).1
    have hlength : m = delays.length := by
      have htake := congrArg List.length (hused.symm.trans hspent)
      simp only [List.drop_zero, List.length_take] at htake
      omega
    have hc : d'.cache = none := by
      rw [kept?, hd'] at hkept
      exact hkept
    obtain ⟨g, hg, hsent', hwaited', _⟩ := Detector.detect_draws hc
      (congrArg PolicySource.take hs') (w.after earlier).environment (w.after earlier).host
    have hnone : g = 0 := by omega
    subst g
    rw [seenAt_detect hd', hsent', hwaited']
    exact ⟨rfl, rfl⟩

/-- In the life of a detector, whatever the other steps are and however earlier detections ended,
each detection with nothing kept takes one policy and stays within its delays. Detections that share
their policy stay within them all together. -/
theorem life_within_budget (w : World) (id : Text) (config : Config) (life : List Step)
    (hlife : ∀ other, .create id other ∉ life) :
    let born := (w.step (.create id config)).2
    (∀ earlier later, life = earlier ++ .detect id :: later →
      ∃ answer events, ((born.after earlier).step (.detect id)).1 = .detected answer events ∧
        Draws config.retry ((born.after earlier).kept? id) events) ∧
    ∀ delays, config.retry = .shared (.ofDelays delays) → SharesBudget delays born id life := by
  intro born
  have hborn : born.detectors.get? id = some (.new config) := w.step_create id config
  constructor
  · intro earlier later he
    subst life
    have hkeep : ∀ d environment host, Detector.Formed config d →
        Detector.Formed config (d.detect environment host).detector :=
      fun d environment host h => h.detect environment host
    obtain ⟨d, hd, hformed⟩ := life_invariant hkeep hborn (Detector.formed_new config)
      (never_created_append hlife).1
    refine ⟨_, _, (step_detect hd).1, ?_⟩
    rw [kept?, hd]
    exact draws hformed _ _
  · intro delays hr
    exact shares_budget hborn hr hlife

/-- Two detections that share one delay stay within it together. -/
theorem two_detections_within_one_delay :
    let w := start Table.empty ⟨Table.empty, fun _ => .response ⟨503, .ofFields [], .ofBytes []⟩, 0⟩
    let config : Config := { retry := .shared (.ofDelays [.seconds 1]) }
    let life : List Step := [.detect "here", .setVariable "K_SERVICE" "shop", .detect "here"]
    let born := (w.step (.create "here" config)).2
    (∀ other, .create "here" other ∉ life) ∧
    SharesBudget [.seconds 1] born "here" life := by
  intro w config life born
  have hlife : ∀ other, .create "here" other ∉ life := by
    intro other
    simp [life]
  obtain ⟨_, hshared⟩ := life_within_budget w "here" config life hlife
  exact ⟨hlife, hshared [.seconds 1] rfl⟩

end World

end CloudDetector
