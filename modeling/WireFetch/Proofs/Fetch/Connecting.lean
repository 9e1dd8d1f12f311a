import WireFetch.Fetch.Direct
import WireFetch.Proofs.Body.Failures
import WireFetch.Proofs.Fetch.Activity
import WireFetch.Proofs.Head.Failures

/-!
# The steps of a connection

Which steps connecting, sending, asking for a tunnel, a handshake and reading a response take, and
how each of them fails. But for one, all failures are of one kind: something went wrong in
operation, and nothing can be said against the settings (`Stop.IsOperational`). The exception is a
host that cannot be named in a handshake. It is noticed before the handshake is begun, so it is the
one failure between two steps that is not about what a peer answered.

## Main definitions

* `Stop.IsOperational` — a failure in operation
* `Fetch.approach`, `opening`, `exchangeSteps` — the steps of the two halves of a fetch
* `Fetch.TunnelOpened`, `IsOpen` — a proxy opened the tunnel, a connection can be used
* `Fetch.NotOpened` — how it fails to open a connection

## Main results

* `Fetch.takes_dial`, `takes_sendBare`, `takes_sendSealed`, `takes_openTunnel`, `takes_handshake`
* `Fetch.takes_connect`, `takes_exchange` — the two halves of a fetch
-/

namespace WireFetch

/-- A failure in operation: not one of the settings, and not a wait without end. -/
def Stop.IsOperational (stop : Stop) : Prop :=
  ∃ e, stop = .failed e ∧ e.category ≠ .configuration

theorem Stop.isOperational_ofFault (phase : Phase) (limit : Option Duration) (cause : Fault) :
    (Stop.failed (.ofFault phase limit cause)).IsOperational := by
  refine ⟨_, rfl, ?_⟩
  unfold FetchError.ofFault
  split
  · nofun
  · unfold FetchError.category
    dsimp only
    split <;> nofun

/-- With a limit, nothing that stops a reader is a wait without end. -/
theorem Stop.OfLimit.isOperational {limit : Duration} {stop : Stop}
    (h : stop.OfLimit (some limit)) : stop.IsOperational := by
  rcases h with ⟨cause, rfl⟩ | rfl
  · exact isOperational_ofFault ..
  · exact ⟨_, rfl, nofun⟩

theorem Head.Failure.isOperational {S : Stop → Prop} {stop : Stop}
    (hS : ∀ stop, S stop → stop.IsOperational) (h : Head.Failure S stop) :
    stop.IsOperational := by
  cases h with
  | stopped h => exact hS stop h
  | _ => exact ⟨_, rfl, nofun⟩

theorem Body.Failure.isOperational {S : Stop → Prop} {headers : Headers} {stop : Stop}
    (hS : ∀ stop, S stop → stop.IsOperational) (h : Body.Failure S headers stop) :
    stop.IsOperational := by
  cases h with
  | stopped h => exact hS stop h
  | _ => exact ⟨_, rfl, nofun⟩

namespace Fetch

open Fetching Itinerary Text

variable {network : Network} {peer : Peer} {host : String} {port : Nat} {limit : Duration}
  {stop : Stop} {s : Session}

/-! ### Single steps -/

theorem eq_some_of_answer {listener : Option Peer} {address : String}
    (h : answer listener address limit = .ok peer) : listener = some peer := by
  unfold answer at h
  split at h
  · cases h
  · split at h
    · cases h
    · split at h <;> cases h
      rfl

theorem isOperational_of_answer {listener : Option Peer} {address : String} {e : FetchError}
    (h : answer listener address limit = .error e) : (Stop.failed e).IsOperational := by
  unfold answer at h
  split at h
  · cases h
    exact ⟨_, rfl, nofun⟩
  · split at h
    · cases h
      exact ⟨_, rfl, nofun⟩
    · split at h <;> cases h
      exact ⟨_, rfl, nofun⟩

theorem takes_dial (network : Network) (host : String) (port : Nat) (limit : Duration) :
    Takes [.dial host port limit] (Fails [.dial host port limit] Stop.IsOperational)
      (dial network host port limit) (network host port = some ·) := by
  -- only the step in the middle can fail, a note cannot
  refine (silent_note (E := fun _ => False) _ _ _).bind_takes (fun _ _ => ?_) nofun
  refine ((silent_accept fun e => isOperational_of_answer).during _).bind_silent
    (E := fun _ => False) (fun peer hpeer => ?_) nofun
  exact (silent_notes _).bind fun _ _ => silent_pure (eq_some_of_answer hpeer)

theorem silent_call (fault : Option Fault) (limit : Duration) :
    Silent Stop.IsOperational (call fault limit) fun _ => True := by
  cases fault with
  | some fault => exact silent_fail (Stop.isOperational_ofFault ..)
  | none => exact silent_pure trivial

theorem silent_writeAll (peer : Peer) (stage : Stage) (size : Nat) (taken : Bool)
    (bytes : List UInt8) (limit : Duration) :
    Silent Stop.IsOperational (writeAll peer stage size taken bytes limit) fun _ => True :=
  (silent_call _ limit).bind fun _ _ => (silent_stopIf fun _ => ⟨_, rfl, nofun⟩).bind fun _ _ =>
    (silent_takeIf _ _).bind fun _ _ => silent_call _ limit

theorem takes_sendBare (peer : Peer) (stage : Stage) (bytes : List UInt8) (limit : Duration) :
    Takes [.send false bytes limit] (Fails [.send false bytes limit] Stop.IsOperational)
      (sendBare peer stage bytes limit) fun _ => True :=
  (silent_writeAll _ _ _ _ _ _).during _

theorem takes_sendSealed (peer : Peer) (session : Tls.Session) (bytes : List UInt8)
    (limit : Duration) :
    Takes [.send true bytes limit] (Fails [.send true bytes limit] Stop.IsOperational)
      (sendSealed peer session bytes limit) fun _ => True :=
  (silent_writeAll _ _ _ _ _ _).during _

/-! ### Tunnels -/

/-- What answers a request for a tunnel is a head with a status from 200 to 299. -/
def Opens (proxy : Peer) (limit : Duration) : Prop :=
  ∃ head s, readHead { reader := { source := proxy.bareReply .tunnel, limit := some limit } }
    = (.ok head, s) ∧ 200 ≤ head.status ∧ head.status < 300

/-- The steps that ask for a tunnel. -/
def tunnelSteps (target : Target) (limit : Duration) : List Step :=
  [.send false (encodeUtf8 (tunnelRequest target.authority)) limit, .receive false limit]

theorem isOperational_of_readHead (hs : s.reader.limit = some limit)
    (h : (readHead s).1 = .error stop) : stop.IsOperational :=
  ((ends_readHead (Reader.keeps_limit (some limit)) s hs).2.1 stop h).isOperational
    fun _ => Stop.OfLimit.isOperational

/-- The answer of a proxy may not be read, and if it is, it may not open the tunnel. -/
theorem takes_openTunnel (proxy : Peer) (target : Target) (limit : Duration) :
    Takes (tunnelSteps target limit) (FailsBehind (tunnelSteps target limit) Stop.IsOperational)
      (openTunnel proxy target limit) fun _ => Opens proxy limit := by
  have hread : Silent Stop.IsOperational
      (reading { source := proxy.bareReply .tunnel, limit := some limit } readHead)
      fun x => ∃ s,
        readHead { reader := { source := proxy.bareReply .tunnel, limit := some limit } }
          = (.ok x.1, s) :=
    silent_reading _ _ fun _ => isOperational_of_readHead rfl
  refine (silent_note (E := fun _ => False) _ _ _).bind_takes (fun _ _ => ?_) nofun
  refine (takes_sendBare proxy .tunnel _ limit).bind_failsBehind fun _ _ =>
    (hread.during (.receive false limit)).bind_silent_failsBehind ?_
  rintro ⟨head, reader⟩ ⟨s, hhead⟩
  refine (silent_stopIf fun _ => ⟨_, rfl, nofun⟩).bind fun _ hopened => ?_
  have hopens : Opens proxy limit := ⟨head, s, hhead, by simpa [isOpened] using hopened⟩
  exact (silent_notes _).bind fun _ _ => silent_pure hopens

/-- The steps that ask for a tunnel, if the peer is a proxy. -/
def passage (target : Target) (proxied : Bool) (limit : Duration) : List Step :=
  if proxied then tunnelSteps target limit else []

theorem takes_passProxy (peer : Peer) (target : Target) (proxied : Bool) (limit : Duration) :
    Takes (passage target proxied limit)
      (FailsBehind (passage target proxied limit) Stop.IsOperational)
      (passProxy peer target proxied limit) fun _ => proxied → Opens peer limit := by
  cases proxied with
  | true => exact (takes_openTunnel peer target limit).weaken fun _ hopens _ => hopens
  | false => exact (silent_pure nofun).takes.mono fun _ _ h => ⟨.inr h.1, h.2⟩

/-! ### Handshakes -/

/-- The host cannot be named in a handshake. -/
def IsUnnamed (host : String) (stop : Stop) : Prop :=
  Tls.isServerName host = false ∧ stop = .failed (.tls (.invalidServerName host))

/-- How it fails to set up a TLS session. -/
def NoSession (host : String) (limit : Duration) (stop : Stop) (log : List Event) : Prop :=
  Fails [.handshake host limit] Stop.IsOperational stop log ∨ log = [] ∧ IsUnnamed host stop

/-- The session is one on which the offer and the peer agree. -/
def IsAgreed (peer : Peer) (offer : Tls.Negotiator) (tls : Tls.Endpoint × Tls.Session) : Prop :=
  peer.tls = some tls.1 ∧ offer.agree tls.1 = .ok tls.2

theorem isAgreed_of_greet {offer : Tls.Negotiator} {arriving : ByteStream} {behindTunnel : Bool}
    {endpoint : Tls.Endpoint} {session : Tls.Session}
    (h : greet peer offer arriving behindTunnel limit = .agreed endpoint session) :
    IsAgreed peer offer (endpoint, session) := by
  unfold greet at h
  repeat' split at h <;> try cases h
  next htls hagree => exact ⟨htls, hagree⟩

theorem isOperational_of_outcome {greeting : Greeting} {e : FetchError}
    (h : greeting.outcome host limit = .error e) : (Stop.failed e).IsOperational := by
  cases greeting with
  | agreed => cases h
  | failed cause =>
    cases h
    exact ⟨_, rfl, nofun⟩
  | silence =>
    cases h
    exact ⟨_, rfl, nofun⟩

theorem eq_agreed_of_outcome {greeting : Greeting} {tls : Tls.Endpoint × Tls.Session}
    (h : greeting.outcome host limit = .ok tls) : greeting = .agreed tls.1 tls.2 := by
  cases greeting with
  | agreed endpoint session =>
    cases h
    rfl
  | failed cause => cases h
  | silence => cases h

theorem takes_handshake (peer : Peer) (offer : Tls.Negotiator) (host : String)
    (arriving : ByteStream) (behindTunnel : Bool) (limit : Duration) :
    Takes [.handshake host limit] (NoSession host limit)
      (handshake peer offer host arriving behindTunnel limit) (IsAgreed peer offer) := by
  have hgreet : Silent Stop.IsOperational
      (accept ((greet peer offer arriving behindTunnel limit).outcome host limit))
      (IsAgreed peer offer) :=
    (silent_accept fun _ => isOperational_of_outcome).weaken fun _ hok =>
      isAgreed_of_greet (eq_agreed_of_outcome hok)
  have hstep : Silent Stop.IsOperational (greeted peer offer host arriving behindTunnel limit)
      (IsAgreed peer offer) := (silent_takeIf _ _).bind fun _ _ => hgreet
  have hnamed : Silent (IsUnnamed host)
      (stopIf (!Tls.isServerName host) (.failed (.tls (.invalidServerName host)))) fun _ => True :=
    (silent_stopIf fun hname => ⟨by simpa using hname, rfl⟩).weaken fun _ _ => trivial
  refine hnamed.bind_takes (fun _ _ => ?_) fun _ h => .inr ⟨rfl, h⟩
  refine ((hstep.during _).mono fun _ _ => .inl).bind_silent (E := fun _ => False)
    (fun _ hagreed => ?_) nofun
  exact (silent_notes _).bind fun _ _ => silent_pure hagreed

/-! ### Connecting -/

/-- The steps before a handshake, if there is one. -/
def approach (config : Config) (target : Target) : List Step :=
  .dial (address config target).1 (address config target).2 config.timeout ::
    match target.scheme with
    | .http => []
    | .https => passage target (isProxied config target) config.timeout

/-- If the target is reached through the proxy, the proxy opened the tunnel. -/
def TunnelOpened (network : Network) (config : Config) (target : Target) : Prop :=
  isProxied config target → ∃ peer,
    network (address config target).1 (address config target).2 = some peer ∧
      Opens peer config.timeout

/-- A connection to the peer that is asked, with a TLS session if the scheme asks for one. -/
structure IsOpen (network : Network) (config : Config) (offer : Tls.Negotiator) (target : Target)
    (c : Connection) : Prop where
  peer : network (address config target).1 (address config target).2 = some c.peer
  inside : c.tls.isSome = decide (target.scheme = .https)
  agreed : ∀ tls, c.tls = some tls → IsAgreed c.peer offer tls
  tunnel : target.scheme = .https → TunnelOpened network config target

/-- How it fails to set up a TLS session when the steps in `taken` come first. -/
inductive Unopened (taken : List Step) (host : String) (limit : Duration) (opened : Prop) :
    Stop → List Event → Prop
  | approach {stop : Stop} {log : List Event} (h : Breaks taken log)
      (hstop : stop.IsOperational) : Unopened taken host limit opened stop log
  | refused {stop : Stop} (hstop : stop.IsOperational) :
    Unopened taken host limit opened stop (allDone taken)
  | unnamed {stop : Stop} (h : IsUnnamed host stop) :
    Unopened taken host limit opened stop (allDone taken)
  | handshake {stop : Stop} (h : opened) (hstop : stop.IsOperational) :
    Unopened taken host limit opened stop (allDone taken ++ [.begun (.handshake host limit)])

theorem Unopened.cons {taken : List Step} {opened : Prop} {log : List Event} (step : Step)
    (h : Unopened taken host limit opened stop log) :
    Unopened (step :: taken) host limit opened stop (allDone [step] ++ log) := by
  cases h with
  | approach h hstop => exact .approach (h.allDone_append [step]) hstop
  | refused hstop => exact .refused hstop
  | unnamed h => exact .unnamed h
  | handshake h hstop => exact .handshake h hstop

variable {config : Config} {offer : Tls.Negotiator} {target : Target}

theorem takes_connect_http (network : Network) (config : Config) (offer : Tls.Negotiator)
    (h : target.scheme = .http) :
    Takes (approach config target) (Fails (approach config target) Stop.IsOperational)
      (connect network config offer target) (IsOpen network config offer target) := by
  have happroach : approach config target
      = [.dial (address config target).1 (address config target).2 config.timeout] := by
    simp [approach, h]
  rw [happroach, connect]
  refine (takes_dial _ _ _ _).bind_silent (E := fun _ => False) (fun peer hpeer => ?_) nofun
  rw [h]
  exact silent_pure ⟨hpeer, by rw [h]; rfl, nofun, by rw [h]; nofun⟩

theorem takes_connect_https (network : Network) (config : Config) (offer : Tls.Negotiator)
    (h : target.scheme = .https) :
    Takes (approach config target ++ [.handshake target.connectHost config.handshakeTimeout])
      (Unopened (approach config target) target.connectHost config.handshakeTimeout
        (TunnelOpened network config target))
      (connect network config offer target) (IsOpen network config offer target) := by
  have happroach : approach config target
      = .dial (address config target).1 (address config target).2 config.timeout ::
        passage target (isProxied config target) config.timeout := by
    rw [approach, h]
  rw [happroach, connect]
  refine (takes_dial _ _ _ _).bind (fun peer hpeer => ?_)
    (fun _ _ hfails => .approach (hfails.1.append _) hfails.2) fun _ _ => Unopened.cons _
  rw [h]
  have hshake : ∀ arriving : ByteStream, TunnelOpened network config target →
      Takes [.handshake target.connectHost config.handshakeTimeout]
        (fun stop log => TunnelOpened network config target ∧
          NoSession target.connectHost config.handshakeTimeout stop log)
        (do
          let tls ← handshake peer offer target.connectHost arriving (isProxied config target)
            config.handshakeTimeout
          return ({ peer, tls := some tls } : Connection))
        (IsOpen network config offer target) := by
    intro arriving hopened
    refine ((takes_handshake peer offer target.connectHost arriving _
      config.handshakeTimeout).mono fun _ _ hfails => ⟨hopened, hfails⟩).bind_silent
        (E := fun _ => False) (fun tls hagreed => silent_pure ?_) nofun
    refine ⟨hpeer, by rw [h]; rfl, fun tls' hsome => ?_, fun _ => hopened⟩
    cases hsome
    exact hagreed
  refine (takes_passProxy peer target _ config.timeout).bind (fun arriving hopens =>
    hshake arriving fun hproxied => ⟨peer, hpeer, hopens hproxied⟩) ?_ ?_
  · rintro stop log ⟨hbreaks | rfl, hstop⟩
    · exact .approach hbreaks hstop
    · exact .refused hstop
  · rintro stop log ⟨hopened, ⟨hbreaks, hstop⟩ | ⟨rfl, hunnamed⟩⟩
    · rw [hbreaks.eq_of_singleton]
      exact .handshake hopened hstop
    · rw [List.append_nil]
      exact .unnamed hunnamed

/-- The steps until a connection can be used. -/
def opening (config : Config) (target : Target) : List Step :=
  approach config target ++
    match target.scheme with
    | .http => []
    | .https => [.handshake target.connectHost config.handshakeTimeout]

/-- How it fails to open a connection. -/
def NotOpened (network : Network) (config : Config) (target : Target) (stop : Stop)
    (log : List Event) : Prop :=
  Fails (approach config target) Stop.IsOperational stop log ∨
    target.scheme = .https ∧ Unopened (approach config target) target.connectHost
      config.handshakeTimeout (TunnelOpened network config target) stop log

theorem takes_connect (network : Network) (config : Config) (offer : Tls.Negotiator)
    (target : Target) :
    Takes (opening config target) (NotOpened network config target)
      (connect network config offer target) (IsOpen network config offer target) := by
  cases hscheme : target.scheme with
  | http =>
    have hopening : opening config target = approach config target := by
      rw [opening, hscheme, List.append_nil]
    rw [hopening]
    exact (takes_connect_http network config offer hscheme).mono fun _ _ => .inl
  | https =>
    have hopening : opening config target = approach config target ++
        [.handshake target.connectHost config.handshakeTimeout] := by
      rw [opening, hscheme]
    rw [hopening]
    exact (takes_connect_https network config offer hscheme).mono fun _ _ h => .inr ⟨hscheme, h⟩

/-! ### Exchanges -/

theorem takes_send (c : Connection) (bytes : List UInt8) (limit : Duration) :
    Takes [.send c.tls.isSome bytes limit]
      (Fails [.send c.tls.isSome bytes limit] Stop.IsOperational) (c.send bytes limit)
      fun _ => True := by
  obtain ⟨peer, _ | ⟨endpoint, session⟩⟩ := c
  · exact takes_sendBare peer .request bytes limit
  · exact takes_sendSealed peer session bytes limit

theorem isOperational_of_readResponse {allowed : Option Nat} (hs : s.reader.limit = some limit)
    (h : (readResponse target allowed s).1 = .error stop) : stop.IsOperational := by
  have hkeeps := Reader.keeps_limit (some limit)
  obtain ⟨hleft, -⟩ := ends_readHead hkeeps s hs
  unfold readResponse at h
  rcases hhead : readHead s with ⟨stop' | head, s₁⟩ <;> rw [hhead] at hleft
  · rw [Reading.bind_of_error hhead] at h
    cases h
    exact isOperational_of_readHead hs (by rw [hhead])
  obtain ⟨s₂, hnote, hreader⟩ : ∃ s₂ : Session, Reading.note .debug .fetch
      ("Status " ++ toString head.status ++ " from " ++ target.authority) s₁ = (.ok (), s₂) ∧
        s₂.reader = s₁.reader := ⟨_, rfl, rfl⟩
  rw [Reading.bind_of_ok hhead, Reading.bind_of_ok hnote] at h
  rw [← hreader] at hleft
  rcases hbody : readBody head.status head.headers allowed s₂ with ⟨stop' | body, s₃⟩
  · rw [Reading.bind_of_error hbody] at h
    cases h
    exact (Body.failure_of_readBody hkeeps hleft (congrArg Prod.fst hbody)).isOperational
      fun _ => Stop.OfLimit.isOperational
  · rw [Reading.bind_of_ok hbody] at h
    cases h

/-- The steps of one request and its response. -/
def exchangeSteps (inside : Bool) (bytes : List UInt8) (limit : Duration) : List Step :=
  [.send inside bytes limit, .receive inside limit]

theorem takes_exchange (c : Connection) (config : Config) (target : Target) (request : Request) :
    let steps := exchangeSteps c.tls.isSome (encodeUtf8 request.render) config.timeout
    Takes steps (Fails steps Stop.IsOperational) (exchange c config target request)
      fun _ => True := by
  have hread := silent_reading { source := c.reply, limit := some config.timeout }
    (readResponse target config.maxContentLength) fun _ => isOperational_of_readResponse rfl
  refine (silent_notes (E := fun _ => False) _).bind_takes (fun _ _ => ?_) nofun
  refine (silent_expect (E := fun _ => False) _).bind_takes (fun _ _ => ?_) nofun
  refine (takes_send c _ config.timeout).bind_fails fun _ _ => ?_
  exact (hread.during _).bind_silent (E := fun _ => False) (fun _ _ => silent_pure trivial) nofun

end Fetch

end WireFetch
