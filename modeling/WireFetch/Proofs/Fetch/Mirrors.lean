import WireFetch.Proofs.Fetch.Activity
import WireFetch.Fetch.Direct

/-!
# Fetches that differ in what is only noted

Three calls on a connection may fail without any harm: asking for small writes to be sent at once,
saying that nothing follows, and asking for the address of the peer. A fetch makes a note of it or
does without the address, and goes on. So the same fetch in a network where these calls fail
otherwise takes the same steps, has the same bytes sent and comes to the same.

To say this of two runs, one follows them side by side. Notes are never looked at, so an activity
may begin with other notes: `Fetching.Mirrors g act act'` says that `act'`, with any notes, does
what `act` does but for notes, and that what comes of it is what comes of `act`, with `g` applied to
a result. For all but the activities in which one of the three calls is made, the two are the same
activity, and `g` does nothing.

## Main definitions

* `Fetching.Mirrors` — two activities that differ in notes, and in results as a function says
* `SideFaults`, `Network.withSideFaults` — other failures of the three calls

## Main results

* `Fetching.Mirrors.bind`, `Mirrors.during`, `Mirrors.outcome` — activities put together
* `Fetch.mirrors_connect`, `mirrors_exchange`, `mirrors_complete` — the parts of a direct fetch
* `Fetch.direct_withSideFaults` — a whole direct fetch
-/

namespace WireFetch

namespace Fetching

/-! ### Activities side by side -/

variable {α β γ δ : Type} {g : α → β} {k : γ → δ} {act : Fetching α} {act' : Fetching β}
  {f : α → Fetching γ} {f' : β → Fetching δ}

/-- Whatever was noted before, `act'` does what `act` does but for notes, and comes to the same,
with `g` applied to a result. -/
def Mirrors (g : α → β) (act : Fetching α) (act' : Fetching β) : Prop :=
  ∀ (p : Progress) (notes : List Log.Record), ∃ notes' : List Log.Record,
    act' { p with notes } = ((act p).1.map g, { (act p).2 with notes := notes' })

/-- An activity that does not look at the notes. -/
abbrev Blind (act : Fetching α) : Prop := Mirrors id act act

theorem mirrors_pure (a : α) : Mirrors g (pure a) (pure (g a)) := fun _ notes => ⟨notes, rfl⟩

theorem blind_pure (a : α) : Blind (pure a) := mirrors_pure a

theorem blind_throw (stop : Stop) : Blind (throw stop : Fetching α) := fun _ notes => ⟨notes, rfl⟩

theorem mirrors_notes (records records' : List Log.Record) :
    Mirrors id (notes records) (notes records') := fun _ notes => ⟨notes ++ records', rfl⟩

theorem blind_notes (records : List Log.Record) : Blind (notes records) := mirrors_notes _ _

theorem blind_record (event : Event) : Blind (record event) := fun _ notes => ⟨notes, rfl⟩

theorem blind_take (r : Received) : Blind (take r) := fun _ notes => ⟨notes, rfl⟩

theorem blind_takeIf (takes : Bool) (r : Received) : Blind (takeIf takes r) := by
  cases takes with
  | true => exact blind_take r
  | false => exact blind_pure ()

theorem blind_stopIf (stops : Bool) (stop : Stop) : Blind (stopIf stops stop) := by
  cases stops with
  | true => exact blind_throw stop
  | false => exact blind_pure ()

theorem blind_expect (stream : ByteStream) : Blind (expect stream) := fun _ notes => ⟨notes, rfl⟩

theorem blind_left : Blind left := fun _ notes => ⟨notes, rfl⟩

theorem mirrors_ofOutcome (result : Except Stop α) :
    Mirrors g (ofOutcome result) (ofOutcome (result.map g)) := fun _ notes => ⟨notes, rfl⟩

theorem mirrors_accept (value : Except FetchError α) :
    Mirrors g (accept value) (accept (value.map g)) := by
  cases value with
  | ok a => exact mirrors_pure a
  | error e => exact fun _ notes => ⟨notes, rfl⟩

theorem blind_accept (value : Except FetchError α) : Blind (accept value) := by
  have haccept := mirrors_accept (g := id) value
  rwa [Except.map_id] at haccept

theorem blind_reading (reader : Reader) (activity : Reading α) :
    Blind (reading reader activity) := fun _ notes => by
  refine ⟨notes ++ (activity { reader }).2.notes, ?_⟩
  unfold reading
  rcases activity { reader } with ⟨_ | _, session⟩ <;> rfl

theorem Mirrors.bind (h : Mirrors g act act') (hf : ∀ a, Mirrors k (f a) (f' (g a))) :
    Mirrors k (act >>= f) (act' >>= f') := by
  intro p notes
  obtain ⟨notes₁, h₁⟩ := h p notes
  rcases hact : act p with ⟨stop | a, p₁⟩ <;> rw [hact] at h₁
  · rw [bind_of_error hact, bind_of_error h₁]
    exact ⟨notes₁, rfl⟩
  · rw [bind_of_ok hact, bind_of_ok h₁]
    exact hf a p₁ notes₁

theorem Blind.bind {f : α → Fetching γ} (h : Blind act) (hf : ∀ a, Blind (f a)) :
    Blind (act >>= f) := Mirrors.bind h hf

/-- An outcome does not stop the activity that asks for it. -/
theorem Mirrors.outcome (h : Mirrors g act act') :
    Mirrors (Except.map g) (outcome act) (outcome act') := by
  intro p notes
  obtain ⟨notes', h'⟩ := h p notes
  refine ⟨notes', ?_⟩
  rw [Fetching.outcome, Fetching.outcome, h']
  rfl

theorem Mirrors.during (h : Mirrors g act act') (step : Step) :
    Mirrors g (during step act) (during step act') :=
  Mirrors.bind (blind_record _) fun _ => h.bind fun a =>
    Mirrors.bind (blind_record _) fun _ => mirrors_pure a

end Fetching

/-! ### Calls that may fail -/

/-- Failures of the calls without which a fetch does. -/
structure SideFaults where
  shutdown : Option Fault
  noDelay : Option Fault
  address : Option Fault

/-- The peer, with these failures in place of its own. -/
def Peer.withSideFaults (peer : Peer) (side : SideFaults) : Peer :=
  { peer with faults := { peer.faults with
      shutdown := side.shutdown, noDelay := side.noDelay, address := side.address } }

/-- The network, with these failures at each host and port. -/
def Network.withSideFaults (network : Network) (sides : String → Nat → SideFaults) : Network :=
  fun host port => (network host port).map (·.withSideFaults (sides host port))

/-- The connection, with these failures of its peer. -/
def Connection.withSideFaults (c : Connection) (side : SideFaults) : Connection :=
  { c with peer := c.peer.withSideFaults side }

namespace Fetch

open Fetching Text

variable {config : Config} {request : FetchRequest} {target : Target}

/-! ### Connecting -/

theorem answer_withSideFaults (network : Network) (sides : String → Nat → SideFaults)
    (host : String) (port : Nat) (address : String) (limit : Duration) :
    answer (network.withSideFaults sides host port) address limit
      = (answer (network host port) address limit).map (·.withSideFaults (sides host port)) := by
  rw [Network.withSideFaults]
  cases network host port with
  | none => rfl
  | some peer =>
    have hdelay : (peer.withSideFaults (sides host port)).delay = peer.delay := rfl
    have hrefusal : (peer.withSideFaults (sides host port)).refusal = peer.refusal := rfl
    simp only [Option.map_some, answer, hdelay, hrefusal]
    split
    · rfl
    · cases peer.refusal <;> rfl

theorem mirrors_dial (network : Network) (sides : String → Nat → SideFaults) (host : String)
    (port : Nat) (limit : Duration) :
    Mirrors (·.withSideFaults (sides host port)) (dial network host port limit)
      (dial (network.withSideFaults sides) host port limit) := by
  refine (mirrors_notes _ _).bind fun _ => ?_
  have haccept := mirrors_accept (g := (·.withSideFaults (sides host port)))
    (answer (network host port) (host ++ ":" ++ toString port) limit)
  rw [← answer_withSideFaults] at haccept
  exact (haccept.during _).bind fun peer => (mirrors_notes _ _).bind fun _ => mirrors_pure peer

theorem blind_call (fault : Option Fault) (limit : Duration) : Blind (call fault limit) := by
  cases fault with
  | some fault => exact blind_throw _
  | none => exact blind_pure ()

theorem blind_writeAll (peer : Peer) (stage : Stage) (size : Nat) (taken : Bool)
    (bytes : List UInt8) (limit : Duration) :
    Blind (writeAll peer stage size taken bytes limit) :=
  (blind_call _ limit).bind fun _ => (blind_stopIf _ _).bind fun _ =>
    (blind_takeIf _ _).bind fun _ => blind_call _ limit

theorem blind_sendBare (peer : Peer) (stage : Stage) (bytes : List UInt8) (limit : Duration) :
    Blind (sendBare peer stage bytes limit) := (blind_writeAll _ _ _ _ _ _).during _

theorem blind_sendSealed (peer : Peer) (session : Tls.Session) (bytes : List UInt8)
    (limit : Duration) : Blind (sendSealed peer session bytes limit) :=
  (blind_writeAll _ _ _ _ _ _).during _

theorem blind_passProxy (peer : Peer) (target : Target) (proxied : Bool) (limit : Duration) :
    Blind (passProxy peer target proxied limit) := by
  cases proxied with
  | false => exact blind_pure _
  | true =>
    refine (blind_notes _).bind fun _ => (blind_sendBare peer .tunnel _ limit).bind fun _ =>
      Blind.bind ((blind_reading _ _).during _) ?_
    rintro ⟨head, reader⟩
    exact (blind_stopIf _ _).bind fun _ => (blind_notes _).bind fun _ => blind_pure _

theorem blind_handshake (peer : Peer) (offer : Tls.Negotiator) (host : String)
    (arriving : ByteStream) (behindTunnel : Bool) (limit : Duration) :
    Blind (handshake peer offer host arriving behindTunnel limit) := by
  have hgreeted : Blind (greeted peer offer host arriving behindTunnel limit) :=
    (blind_takeIf _ .hello).bind fun _ => blind_accept _
  exact (blind_stopIf _ _).bind fun _ => Blind.bind (hgreeted.during _) fun tls =>
    (blind_notes _).bind fun _ => blind_pure tls

theorem mirrors_connect (network : Network) (sides : String → Nat → SideFaults) (config : Config)
    (offer : Tls.Negotiator) (target : Target) :
    Mirrors (·.withSideFaults (sides (address config target).1 (address config target).2))
      (connect network config offer target)
      (connect (network.withSideFaults sides) config offer target) := by
  refine (mirrors_dial network sides _ _ _).bind fun peer => ?_
  -- from here on the peers do the same
  cases target.scheme with
  | http => exact mirrors_pure (g := (Connection.withSideFaults · _)) ({ peer } : Connection)
  | https =>
    exact Mirrors.bind (blind_passProxy peer target _ _) fun arriving =>
      Mirrors.bind (blind_handshake peer offer target.connectHost arriving _ _) fun tls =>
        mirrors_pure _

/-! ### On an open connection -/

theorem blind_send (c : Connection) (bytes : List UInt8) (limit : Duration) :
    Blind (c.send bytes limit) := by
  obtain ⟨peer, _ | ⟨endpoint, session⟩⟩ := c
  · exact blind_sendBare _ _ _ _
  · exact blind_sendSealed _ _ _ _

theorem blind_exchange (c : Connection) (config : Config) (target : Target) (request : Request) :
    Blind (exchange c config target request) :=
  (blind_notes _).bind fun _ => (blind_expect _).bind fun _ =>
    (blind_send c _ config.timeout).bind fun _ =>
      Blind.bind ((blind_reading _ _).during _) fun _ => blind_pure _

theorem mirrors_exchange (c : Connection) (side : SideFaults) (config : Config) (target : Target)
    (request : Request) : Mirrors id (exchange c config target request)
      (exchange (c.withSideFaults side) config target request) := by
  have hsame : exchange (c.withSideFaults side) config target request
      = exchange c config target request := by
    obtain ⟨peer, _ | tls⟩ := c <;> rfl
  rw [hsame]
  exact blind_exchange c config target request

theorem mirrors_shutDown (c : Connection) (side : SideFaults) (sent : Nat) :
    Mirrors id (c.shutDown sent) ((c.withSideFaults side).shutDown sent) := by
  refine Mirrors.bind blind_left fun left => ?_
  -- whether or not a fault is noted, nothing else is done
  exact Mirrors.bind (blind_stopIf (c.isBlocked sent left) _) fun _ => mirrors_notes _ _

theorem mirrors_close (c : Connection) (side : SideFaults) (sent : Nat) :
    Mirrors id (c.close sent) ((c.withSideFaults side).close sent) :=
  (mirrors_shutDown c side sent).during _

/-- The response, with the address of a peer with these failures. -/
def addressedTo (config : Config) (peer : Peer) (r : Response) : Response :=
  { r with peerAddress := keptAddress config peer }

theorem mirrors_complete (c : Connection) (side : SideFaults) :
    Mirrors (addressedTo config (c.peer.withSideFaults side)) (complete config request target c)
      (complete config request target (c.withSideFaults side)) := by
  refine (mirrors_exchange c side config target _).outcome.bind fun result =>
    (mirrors_close c side _).bind fun _ => ?_
  refine (mirrors_ofOutcome result).bind ?_
  rintro ⟨head, body⟩
  exact (blind_notes _).bind fun _ => mirrors_pure _

/-- **The same fetch where calls fail otherwise.** If a connection is opened, the whole fetch takes
the same steps and comes to the same, but for the address of the peer. -/
theorem direct_withSideFaults {network : Network} {offer : Tls.Negotiator} {c : Connection}
    {p p₁ : Progress} (request : FetchRequest) (sides : String → Nat → SideFaults)
    (hconnect : connect network config offer target p = (.ok c, p₁)) :
    ∃ notes, direct (network.withSideFaults sides) config offer request target p =
      ((direct network config offer request target p).1.map
          (addressedTo config (c.peer.withSideFaults (sides (address config target).1
            (address config target).2))),
        { (direct network config offer request target p).2 with notes }) := by
  obtain ⟨notes, hconnect'⟩ := mirrors_connect network sides config offer target p p.notes
  rw [hconnect] at hconnect'
  rw [direct, direct, bind_of_ok hconnect, bind_of_ok hconnect']
  exact mirrors_complete c _ p₁ notes

end Fetch

end WireFetch
