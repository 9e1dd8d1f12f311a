import WireFetch.Proofs.Fetch.Deadlines
import WireFetch.Proofs.Fetch.Mirrors

/-!
# How a fetch ends

Once a connection is open, whatever comes of the exchange on it, the connection is closed: once, and
behind everything that was sent and read. The fetch then comes to what the exchange came to. An
error of the exchange is not lost, and none of closing takes its place, for there is none: that it
could not be said that nothing follows is only noted.

The one exception is the wait that has no deadline. If there is no room for the last record of a TLS
session, closing was begun, but the fetch does not come to its end.

## Main definitions

* `Fetch.responseOf` — the response that is made of what an exchange brings
* `Fetch.Ends` — the result of a fetch and the log of closing
* `Fetch.EndsInOrder` — how a fetch ends whose connection was opened

## Main results

* `Fetch.complete_run_exchange` — what is left of a fetch behind the exchange
* `Fetch.endsInOrder_direct` — the end of every direct fetch that came to the exchange
-/

namespace WireFetch

namespace Fetch

open Fetching Itinerary Text

/-- The response that is made of what an exchange on a connection brings. -/
def responseOf (config : Config) (request : FetchRequest) (target : Target) (c : Connection)
    (x : Exchanged) : Response where
  url := request.url
  status := x.head.status
  headers := x.head.headers
  body := x.body
  strategy := .direct
  rawRequest :=
    if config.capture.request then some (requestFor config request target).render else none
  rawHeaders := if config.capture.headers then some x.head.text else none
  peerAddress := keptAddress config c.peer
  tls := c.tls.map (·.2)

/-- The result of a fetch whose exchange came to `answer`, and the log from there on; `blocked` says
that the last record is not taken. -/
inductive Ends (inside : Bool) (blocked : Prop) (answer : Except Stop Response) :
    Except Stop Response → List Event → Prop
  | closed (hfree : ¬ blocked) :
    Ends inside blocked answer answer [.begun (.close inside), .done (.close inside)]
  /-- closing was begun, and the fetch does not return -/
  | endless (hblocked : blocked) :
    Ends inside blocked answer (.error .endless) [.begun (.close inside)]

/-- How a fetch ends that was begun at `p` and has opened the connection `c`. What came of the
exchange, and the state then, are `exchanged` and `q`; what came of the fetch, and the state at its
end, are `result` and `q'`. -/
structure EndsInOrder (network : Network) (config : Config) (offer : Tls.Negotiator)
    (request : FetchRequest) (target : Target) (c : Connection) (p : Progress)
    (exchanged : Except Stop Exchanged) (q : Progress) (result : Except Stop Response)
    (q' : Progress) : Prop where
  /-- the exchange has an end -/
  answered : (∃ x, exchanged = .ok x) ∨ ∃ e, exchanged = .error (.failed e)
  /-- nothing was closed before that -/
  unclosed : ∃ log, q.events = p.events ++ log ∧ ∀ inside, .begun (.close inside) ∉ log
  /-- behind it, closing is all that is done -/
  closed : ∃ closing, q' = { q with events := q.events ++ closing, notes := q'.notes } ∧
    Ends c.tls.isSome (c.isBlocked (sentBytes config request target).length q.left)
      (exchanged.map (responseOf config request target c)) result closing
  /-- it does not matter whether the calls fail without which a fetch does -/
  regardless : ∀ sides : String → Nat → SideFaults, ∃ notes,
    direct (network.withSideFaults sides) config offer request target p =
      (result.map (addressedTo config (c.peer.withSideFaults (sides (address config target).1
        (address config target).2))), { q' with notes })

variable {network : Network} {config : Config} {offer : Tls.Negotiator} {request : FetchRequest}
  {target : Target} {c : Connection} {p p₁ q : Progress} {exchanged : Except Stop Exchanged}

/-! ### Behind the exchange -/

/-- Closing comes behind the exchange, and what the exchange came to is the result. -/
theorem complete_run_exchange
    (hexchange : exchange c config target (requestFor config request target) p = (exchanged, q)) :
    ∃ result closing notes, complete config request target c p
        = (result, { q with events := q.events ++ closing, notes }) ∧
      Ends c.tls.isSome (c.isBlocked (sentBytes config request target).length q.left)
        (exchanged.map (responseOf config request target c)) result closing := by
  have houtcome : outcome (exchange c config target (requestFor config request target)) p
      = (.ok exchanged, q) := by
    rw [outcome, hexchange]
  rw [complete, bind_of_ok houtcome]
  rcases close_run c (sentBytes config request target).length q with
    ⟨hfree, notes, hclose⟩ | ⟨hblocked, hclose⟩
  · rw [sentBytes] at hclose
    rw [bind_of_ok hclose]
    cases exchanged with
    | error stop => exact ⟨_, _, _, rfl, .closed (ne_true_of_eq_false hfree)⟩
    | ok x => exact ⟨_, _, _, rfl, .closed (ne_true_of_eq_false hfree)⟩
  · rw [sentBytes] at hclose
    rw [bind_of_error hclose]
    exact ⟨_, _, _, rfl, .endless hblocked⟩

/-! ### Before closing -/

/-- Nothing is closed while the connection is opened. -/
theorem close_notMem_connect (hconnect : connect network config offer target p = (.ok c, p₁)) :
    ∃ log, p₁.events = p.events ++ log ∧ ∀ inside, .begun (.close inside) ∉ log := by
  obtain ⟨log, hlog, -, hok⟩ := takes_connect network config offer target p
  rw [hconnect] at hlog hok
  obtain ⟨rfl, -⟩ := hok c rfl
  exact ⟨_, hlog, fun inside hmem => close_notMem_opening inside (begun_mem_allDone.1 hmem)⟩

/-- Nothing is closed in an exchange. -/
theorem close_notMem_exchange {r : Request}
    (hexchange : exchange c config target r p = (exchanged, q)) :
    ∃ log, q.events = p.events ++ log ∧ ∀ inside, .begun (.close inside) ∉ log := by
  obtain ⟨log, hlog, hstop, hok⟩ := takes_exchange c config target r p
  rw [hexchange] at hlog hstop hok
  have hsteps : ∀ inside, .close inside ∉
      exchangeSteps c.tls.isSome (encodeUtf8 r.render) config.timeout := by
    simp [exchangeSteps]
  refine ⟨log, hlog, fun inside hmem => hsteps inside ?_⟩
  cases exchanged with
  | error stop => exact (hstop stop rfl).1.mem hmem
  | ok x => exact begun_mem_allDone.1 ((hok x rfl).1 ▸ hmem)

/-- An exchange has an end. -/
theorem isAnswered_exchange {r : Request}
    (hexchange : exchange c config target r p = (exchanged, q)) :
    (∃ x, exchanged = .ok x) ∨ ∃ e, exchanged = .error (.failed e) := by
  obtain ⟨_, -, hstop, -⟩ := takes_exchange c config target r p
  rw [hexchange] at hstop
  cases exchanged with
  | ok x => exact .inl ⟨x, rfl⟩
  | error stop =>
    obtain ⟨e, rfl, -⟩ := (hstop stop rfl).2
    exact .inr ⟨e, rfl⟩

/-! ### Whole fetches -/

/-- **The end of a direct fetch.** If a fetch comes to the exchange, then whatever comes of that,
the connection is closed once, behind all that was sent and read, and the result is that of the
exchange, unless there is no room for the last record of a TLS session. It does not matter whether
the calls fail without which a fetch does. -/
theorem endsInOrder_direct (network : Network) (config : Config) (offer : Tls.Negotiator)
    (request : FetchRequest) (target : Target) (c : Connection) (p p₁ : Progress)
    (hconnect : connect network config offer target p = (.ok c, p₁)) :
    let (exchanged, q) := exchange c config target (requestFor config request target) p₁
    let (result, q') := direct network config offer request target p
    EndsInOrder network config offer request target c p exchanged q result q' := by
  rcases hexchange : exchange c config target (requestFor config request target) p₁
    with ⟨exchanged, q⟩
  obtain ⟨result, closing, notes, hcomplete, hends⟩ := complete_run_exchange hexchange
  have hdirect : direct network config offer request target p
      = (result, { q with events := q.events ++ closing, notes }) := by
    rw [direct, bind_of_ok hconnect, hcomplete]
  obtain ⟨opened, hopened, hnotOpened⟩ := close_notMem_connect hconnect
  obtain ⟨log, hlog, hnotLog⟩ := close_notMem_exchange hexchange
  rw [hdirect]
  refine {
    answered := isAnswered_exchange hexchange
    unclosed := ⟨opened ++ log, by rw [hlog, hopened, List.append_assoc], fun inside => ?_⟩
    closed := ⟨closing, rfl, hends⟩
    regardless := fun sides => ?_ }
  · rw [List.mem_append, not_or]
    exact ⟨hnotOpened inside, hnotLog inside⟩
  · have hsides := direct_withSideFaults request sides hconnect
    rwa [hdirect] at hsides

/-- In a TLS session nothing can be written any more. The request fails with this fault, and closing
fails with it as well, which changes nothing. -/
theorem endsInOrder_direct_unwritten :
    let peer : Peer := {
      address := "192.0.2.1"
      tls := some {}
      faults := { request := { write := some ⟨.other, "no buffer space available"⟩ } } }
    let network : Network := fun _ _ => some peer
    let request : FetchRequest :=
      { url := ⟨"https", some { host := .domain "www.test" }, "/a.pdf", none, none⟩ }
    let target : Target := ⟨.https, "www.test", "www.test", 443, false, "/a.pdf"⟩
    let offer : Tls.Negotiator := ⟨[.tls13], [.newer .aes128], false⟩
    let c : Connection := { peer, tls := some ({}, ⟨.tls13, .newer .aes128, none⟩) }
    let (connected, p₁) := connect network {} offer target {}
    let (exchanged, q) := exchange c {} target (requestFor {} request target) p₁
    let (result, q') := direct network {} offer request target {}
    connected matches .ok _ ∧
      EndsInOrder network {} offer request target c {} exchanged q result q' ∧
      result matches .error (.failed (.io ⟨.other, "no buffer space available"⟩)) ∧
      q'.events = q.events ++ [.begun (.close true), .done (.close true)] := by
  refine ⟨?_, endsInOrder_direct _ {} _ _ _ _ {} _ rfl, ?_, ?_⟩ <;> decide +kernel

end Fetch

end WireFetch
