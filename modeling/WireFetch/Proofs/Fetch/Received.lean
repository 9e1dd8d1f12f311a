import WireFetch.Fetch.Fetcher
import WireFetch.Proofs.Fetch.Activity

/-!
# What a peer takes

The log of a fetch says what is sent in each step, and besides it there is a record of what the peer
took. A step may fail before the peer takes anything, so the second may be less than the first. It
is never more, and never in another order: `Fetcher.received_sublist` says so for whole fetches.
What the log does not contain has therefore reached nobody.

Within a step there is no further step, and the peer takes at most what the step is to send
(`Fetching.Within`). Around the steps logs and records grow side by side (`Fetching.Hands`).

## Main definitions

* `Fetching.handed` — what is sent in the steps of a log
* `Fetching.Within`, `Fetching.Hands` — activities in a step, and activities with steps

## Main results

* `Fetching.Within.during`, `Fetching.Hands.bind` — how they are put together
* `Fetch.hands_direct`, `Fetcher.received_sublist` — what is taken was sent
-/

namespace WireFetch

/-- What is sent in a step. -/
def Step.handed : Step → List Received
  | send _ bytes _ => [.bytes bytes]
  | handshake .. => [.hello]
  | _ => []

namespace Fetching

variable {α β : Type} {act : Fetching α} {f : α → Fetching β} {rs rs' : List Received}

/-- What is sent in the steps of a log. -/
def handed (log : List Event) : List Received :=
  log.flatMap fun
    | .begun step => step.handed
    | .done _ => []

/-! ### Within a step -/

/-- The activity takes no step, and the peer takes a part of `rs`, in order. -/
def Within (rs : List Received) (act : Fetching α) : Prop :=
  ∀ p : Progress, (act p).2.events = p.events ∧
    ∃ taken, (act p).2.received = p.received ++ taken ∧ taken.Sublist rs

theorem within_of_eq (h : ∀ p : Progress, (act p).2.events = p.events ∧
    (act p).2.received = p.received) : Within [] act := fun p =>
  ⟨(h p).1, [], by rw [(h p).2, List.append_nil], .slnil⟩

theorem within_pure (a : α) : Within [] (pure a) := within_of_eq fun _ => ⟨rfl, rfl⟩

theorem within_fail (e : FetchError) : Within [] (fail e : Fetching α) :=
  within_of_eq fun _ => ⟨rfl, rfl⟩

theorem within_notes (records : List Log.Record) : Within [] (notes records) :=
  within_of_eq fun _ => ⟨rfl, rfl⟩

theorem within_note (level : Log.Level) (area : Log.Area) (message : String) :
    Within [] (note level area message) := within_notes _

theorem within_expect (stream : ByteStream) : Within [] (expect stream) :=
  within_of_eq fun _ => ⟨rfl, rfl⟩

theorem within_ofOutcome (outcome : Except Stop α) : Within [] (ofOutcome outcome) :=
  within_of_eq fun _ => ⟨rfl, rfl⟩

theorem within_accept (value : Except FetchError α) : Within [] (accept value) := by
  cases value with
  | ok a => exact within_pure a
  | error e => exact within_fail e

theorem within_reading (reader : Reader) (activity : Reading α) :
    Within [] (reading reader activity) := within_of_eq fun _ => ⟨rfl, rfl⟩

theorem within_take (r : Received) : Within [r] (take r) := fun _ => ⟨rfl, [r], rfl, .refl [r]⟩

theorem within_takeIf (takes : Bool) (r : Received) : Within [r] (takeIf takes r) := by
  cases takes with
  | true => exact within_take r
  | false => exact fun _ => ⟨rfl, [], (List.append_nil _).symm, List.nil_sublist _⟩

theorem within_stopIf (stops : Bool) (stop : Stop) : Within [] (stopIf stops stop) := by
  cases stops with
  | true => exact within_of_eq fun _ => ⟨rfl, rfl⟩
  | false => exact within_pure ()

theorem Within.bind (h : Within rs act) (hf : ∀ a, Within rs' (f a)) :
    Within (rs ++ rs') (act >>= f) := by
  intro p
  obtain ⟨hlog, taken, htaken, hsub⟩ := h p
  rcases hact : act p with ⟨stop | a, p'⟩ <;> rw [hact] at hlog htaken
  · rw [bind_of_error hact]
    exact ⟨hlog, taken, htaken, hsub.trans (List.sublist_append_left rs rs')⟩
  · obtain ⟨hlog', taken', htaken', hsub'⟩ := hf a p'
    rw [bind_of_ok hact]
    refine ⟨hlog'.trans hlog, taken ++ taken', ?_, hsub.append hsub'⟩
    rw [htaken', htaken, List.append_assoc]

theorem Within.weaken (h : Within rs act) (hrs : rs.Sublist rs') : Within rs' act := fun p =>
  let ⟨hlog, taken, htaken, hsub⟩ := h p
  ⟨hlog, taken, htaken, hsub.trans hrs⟩

/-! ### Around the steps -/

/-- What the peer takes during the activity was sent in the steps of it, in this order. -/
def Hands (act : Fetching α) : Prop :=
  ∀ p : Progress, ∃ log taken, (act p).2.events = p.events ++ log ∧
    (act p).2.received = p.received ++ taken ∧ taken.Sublist (handed log)

theorem Within.hands (h : Within [] act) : Hands act := fun p =>
  let ⟨hlog, taken, htaken, hsub⟩ := h p
  ⟨[], taken, by rw [hlog, List.append_nil], htaken, hsub⟩

theorem Hands.bind (h : Hands act) (hf : ∀ a, Hands (f a)) : Hands (act >>= f) := by
  intro p
  obtain ⟨log, taken, hlog, htaken, hsub⟩ := h p
  rcases hact : act p with ⟨stop | a, p'⟩ <;> rw [hact] at hlog htaken
  · rw [bind_of_error hact]
    exact ⟨log, taken, hlog, htaken, hsub⟩
  · obtain ⟨log', taken', hlog', htaken', hsub'⟩ := hf a p'
    rw [bind_of_ok hact]
    refine ⟨log ++ log', taken ++ taken', ?_, ?_, ?_⟩
    · rw [hlog', hlog, List.append_assoc]
    · rw [htaken', htaken, List.append_assoc]
    · rw [handed, List.flatMap_append]
      exact hsub.append hsub'

/-- A step hands over what is to be sent in it, or nothing. -/
theorem Within.during {step : Step} (h : Within step.handed act) : Hands (during step act) := by
  intro p
  -- the step is in the log before the activity is, so it counts whatever comes of that
  obtain ⟨hlog, taken, htaken, hsub⟩ := h { p with events := p.events ++ [.begun step] }
  rcases hact : act { p with events := p.events ++ [.begun step] } with ⟨stop | a, p'⟩ <;>
    rw [hact] at hlog htaken
  · rw [during_of_error hact]
    refine ⟨[.begun step], taken, hlog, htaken, ?_⟩
    rwa [handed, List.flatMap_singleton]
  · rw [during_of_ok hact]
    refine ⟨[.begun step, .done step], taken, ?_, htaken, ?_⟩
    · rw [show p'.events = _ from hlog, List.append_assoc]
      rfl
    · rwa [handed, List.flatMap_cons, List.flatMap_singleton, List.append_nil]

theorem Hands.outcome (h : Hands act) : Hands (outcome act) := h

end Fetching

/-! ### Direct fetches -/

namespace Fetch

open Fetching

theorem hands_dial (network : Network) (host : String) (port : Nat) (limit : Duration) :
    Hands (dial network host port limit) := by
  refine (within_note _ _ _).hands.bind fun _ => ?_
  have hanswer : Within (Step.dial host port limit).handed
      (accept (answer (network host port) (host ++ ":" ++ toString port) limit)) :=
    within_accept _
  exact hanswer.during.bind fun peer => ((within_notes _).bind fun _ => within_pure _).hands

theorem within_call (fault : Option Fault) (limit : Duration) : Within [] (call fault limit) := by
  cases fault with
  | some fault => exact within_fail _
  | none => exact within_pure _

theorem within_writeAll (peer : Peer) (stage : Stage) (size : Nat) (taken : Bool)
    (bytes : List UInt8) (limit : Duration) :
    Within [.bytes bytes] (writeAll peer stage size taken bytes limit) :=
  (within_call _ limit).bind fun _ => (within_stopIf _ _).bind fun _ =>
    (within_takeIf _ _).bind fun _ => within_call _ limit

theorem hands_sendBare (peer : Peer) (stage : Stage) (bytes : List UInt8) (limit : Duration) :
    Hands (sendBare peer stage bytes limit) := Within.during (within_writeAll _ _ _ _ _ _)

theorem hands_sendSealed (peer : Peer) (session : Tls.Session) (bytes : List UInt8)
    (limit : Duration) : Hands (sendSealed peer session bytes limit) :=
  Within.during (within_writeAll _ _ _ _ _ _)

theorem hands_passProxy (peer : Peer) (target : Target) (proxied : Bool) (limit : Duration) :
    Hands (passProxy peer target proxied limit) := by
  cases proxied with
  | false => exact (within_pure _).hands
  | true =>
    have hread : Within (Step.receive false limit).handed
        (reading { source := peer.bareReply .tunnel, limit := some limit } readHead) :=
      within_reading _ _
    refine (within_note _ _ _).hands.bind fun _ =>
      (hands_sendBare peer .tunnel _ limit).bind fun _ => hread.during.bind ?_
    rintro ⟨head, reader⟩
    exact ((within_stopIf _ _).bind fun _ => (within_notes _).bind fun _ => within_pure _).hands

theorem hands_handshake (peer : Peer) (offer : Tls.Negotiator) (host : String)
    (arriving : ByteStream) (behindTunnel : Bool) (limit : Duration) :
    Hands (handshake peer offer host arriving behindTunnel limit) := by
  have hgreeted : Within (Step.handshake host limit).handed
      (greeted peer offer host arriving behindTunnel limit) :=
    (within_takeIf _ .hello).bind fun _ => within_accept _
  exact (within_stopIf _ _).hands.bind fun _ => hgreeted.during.bind fun tls =>
    ((within_notes _).bind fun _ => within_pure tls).hands

theorem hands_connect (network : Network) (config : Config) (offer : Tls.Negotiator)
    (target : Target) : Hands (connect network config offer target) := by
  refine (hands_dial _ _ _ _).bind fun peer => ?_
  cases target.scheme with
  | http => exact (within_pure _).hands
  | https =>
    exact (hands_passProxy _ _ _ _).bind fun arriving =>
      (hands_handshake _ _ _ _ _ _).bind fun tls => (within_pure _).hands

theorem hands_send (c : Connection) (bytes : List UInt8) (limit : Duration) :
    Hands (c.send bytes limit) := by
  obtain ⟨peer, _ | ⟨endpoint, session⟩⟩ := c
  · exact hands_sendBare _ _ _ _
  · exact hands_sendSealed _ _ _ _

theorem hands_exchange (c : Connection) (config : Config) (target : Target) (request : Request) :
    Hands (exchange c config target request) := by
  have hread : Within (Step.receive c.tls.isSome config.timeout).handed
      (reading { source := c.reply, limit := some config.timeout }
        (readResponse target config.maxContentLength)) :=
    within_reading _ _
  refine (within_notes _).hands.bind fun _ => (within_expect _).hands.bind fun _ =>
    (hands_send c _ config.timeout).bind fun _ => ?_
  exact hread.during.bind fun _ => (within_pure _).hands

theorem within_shutDown (c : Connection) (sent : Nat) : Within [] (c.shutDown sent) := by
  have hleft : Within [] left := within_of_eq fun _ => ⟨rfl, rfl⟩
  exact hleft.bind fun left => (within_stopIf _ _).bind fun _ => within_notes _

theorem hands_close (c : Connection) (sent : Nat) : Hands (c.close sent) := by
  have hshutDown : Within (Step.close c.tls.isSome).handed (c.shutDown sent) :=
    within_shutDown c sent
  exact hshutDown.during

theorem hands_complete (config : Config) (request : FetchRequest) (target : Target)
    (c : Connection) : Hands (complete config request target c) := by
  refine (hands_exchange c config target (requestFor config request target)).outcome.bind
    fun result => (hands_close c _).bind fun _ => ?_
  refine (within_ofOutcome result).hands.bind fun ⟨head, body⟩ => ?_
  exact ((within_note _ _ _).bind fun _ => within_pure _).hands

theorem hands_direct (network : Network) (config : Config) (offer : Tls.Negotiator)
    (request : FetchRequest) (target : Target) :
    Hands (direct network config offer request target) :=
  (hands_connect network config offer target).bind fun c => hands_complete config request target c

end Fetch

/-! ### Whole fetches -/

namespace Fetcher

open Fetching

/-- For a page that is rendered no step is taken. -/
theorem within_rendered (f : Fetcher) (request : FetchRequest) :
    Within [] (f.rendered request) := by
  unfold rendered
  cases f.engine with
  | none => exact within_fail _
  | some engine =>
    have hrender (job : RenderJob) : Within [] (render engine job) :=
      within_of_eq fun _ => ⟨rfl, rfl⟩
    exact (hrender _).bind fun _ => within_pure _

theorem hands_fetch (f : Fetcher) (network : Network) (request : FetchRequest)
    (strategy : Option Strategy) : Hands (f.fetch network request strategy) := by
  refine (within_accept _).hands.bind fun target => (within_note _ _ _).hands.bind fun _ => ?_
  split
  · exact Fetch.hands_direct network f.config f.offer request target
  · exact (f.within_rendered request).hands

/-- What the peer takes was sent, in this order: there is nothing in it that is not in the log. -/
theorem received_sublist (f : Fetcher) (network : Network) (request : FetchRequest)
    (strategy : Option Strategy) :
    let progress := (f.run network request strategy).2
    progress.received.Sublist (handed progress.events) := by
  obtain ⟨log, taken, hlog, htaken, hsub⟩ := f.hands_fetch network request strategy {}
  rw [List.nil_append] at hlog htaken
  intro progress
  rw [show progress.received = taken from htaken, show progress.events = log from hlog]
  exact hsub

end Fetcher

end WireFetch
