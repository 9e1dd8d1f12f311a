import WireFetch.Fetch.Direct
import WireFetch.Proofs.CommandLine.Setting
import WireFetch.Proofs.Time.HeaderForm
import WireFetch.Proofs.Url.AbsoluteForm

/-!
# Targets as proxies

A target is written as `host:port` where a proxy is asked for a tunnel, and this is the form in
which a proxy is given on the command line. A number is read as it was written, and since no port
has a colon, the last colon of the text is the one that was put there: the host is read as it was
written, too.

But as it was written is not as it is dialled. The host of a target is kept in two forms, with
brackets for texts and without for the resolver, and the options keep the first one only. So it is
for all hosts but addresses of 128 bits that the proxy that was meant is the one that is asked
(`CommandLine.proxy_of_authority`).

## Main results

* `CommandLine.portNumber_toString`, `CommandLine.proxyAddress_append` — a host and a port are read
  as they were written
* `Target.host_eq_connectHost_iff` — which hosts are written as they are dialled
* `CommandLine.proxy_of_authority` — a target as a proxy
-/

namespace WireFetch

open Text

/-! ### Reading what was written -/

namespace CommandLine

variable {s : List Char} {n m : Nat} {host : String} {port : Nat}

/-- With each digit a number grows. -/
theorem le_of_digitsFrom? (h : digitsFrom? n s = some m) : n ≤ m := by
  induction s generalizing n with
  | nil => exact Nat.le_of_eq (Option.some.inj h)
  | cons c s ih =>
    obtain ⟨d, -, h⟩ := Option.bind_eq_some_iff.1 h
    have hle := ih h
    omega

/-- Digits of a port are read like those of any number. -/
theorem portFrom_of_digitsFrom? (h : digitsFrom? n s = some m) (hm : m ≤ maxPort) :
    portFrom n s = .ok m := by
  induction s generalizing n with
  | nil =>
    cases h
    rfl
  | cons c s ih =>
    obtain ⟨d, hd, h⟩ := Option.bind_eq_some_iff.1 h
    have hle := le_of_digitsFrom? h
    rw [portFrom, hd]
    dsimp only
    rw [if_neg (by omega)]
    exact ih h

theorem portNumber_toString (h : n ≤ maxPort) : portNumber (toString n).toList = .ok n := by
  have hdigit : ∀ c ∈ (toString n).toList, c.isDigit := Url.forall_mem_toString (by decide) n
  have hvalue := digitsFrom?_toString n
  cases hs : (toString n).toList with
  | nil =>
    rw [toList_toString] at hs
    exact absurd hs Nat.toDigits_ne_nil
  | cons c s =>
    rw [hs] at hdigit hvalue
    have hsign : c ≠ '+' := by
      rintro rfl
      exact absurd (hdigit '+' (List.mem_cons_self ..)) (by decide)
    have hport := portFrom_of_digitsFrom? hvalue h
    unfold portNumber
    split
    · next hnil => cases hnil
    · next hplus => exact absurd (List.cons_eq_cons.1 hplus).1 hsign
    · next hplus => exact absurd (List.cons_eq_cons.1 hplus).1 hsign
    · exact hport

/-- A host and a port with a colon between them are read as they were written. -/
theorem proxyAddress_append (hhost : host ≠ "") (hport : port ≤ maxPort) :
    proxyAddress (host ++ ":" ++ toString port) = .ok (host, port) := by
  have hcolon : ':' ∉ (toString port).toList := Target.not_mem_toString (by decide) port
  have hspec : (host ++ ":" ++ toString port).toList
      = host.toList ++ ':' :: (toString port).toList := by
    rw [String.toList_append, String.toList_append, List.append_assoc]
    rfl
  have hchars : host.toList ≠ [] := mt String.toList_eq_nil_iff.1 hhost
  obtain ⟨c, s, hs⟩ := List.exists_cons_of_ne_nil hchars
  rw [proxyAddress, hspec, splitAtLast?_append hcolon, hs]
  dsimp only
  rw [portNumber_toString hport, ← hs, String.ofList_toList]

end CommandLine

/-! ### Targets -/

namespace Target

open Url

variable {text : String} {url : Url} {t : Target} {host : Host}

theorem hostText_eq_name_iff : hostText host = host.name ↔ ∀ a, host ≠ .ipv6 a := by
  cases host with
  | ipv6 a =>
    have hne : hostText (.ipv6 a) ≠ Host.name (.ipv6 a) := by
      intro heq
      have hlength := congrArg String.length heq
      simp only [hostText, String.length_append] at hlength
      have hopen : "[".length = 1 := rfl
      omega
    simp [hne]
  | _ => simp [hostText]

theorem hostText_ne_empty (h : host.isEmpty = false) : hostText host ≠ "" := by
  cases host with
  | domain name => simpa [hostText, Host.name, Host.isEmpty] using h
  | opaqueName name => simpa [hostText, Host.name, Host.isEmpty] using h
  | ipv4 n =>
    intro hempty
    have hlist := congrArg String.toList hempty
    simp [hostText, Host.name, Ipv4.render, join] at hlist
  | ipv6 a => simp [hostText]

/-- A host is written as it is dialled, unless it is an address of 128 bits. -/
theorem host_eq_connectHost_iff (hurl : parseUrl text = some url) (h : ofUrl url = .ok t) :
    t.host = t.connectHost ↔ ∀ a, url.host? ≠ some (.ipv6 a) := by
  obtain ⟨s, host, hsome, -, hhost, hconnect⟩ := exists_host hurl h
  rw [hhost, hconnect, hostText_eq_name_iff, hsome]
  simp

theorem host_ne_empty (hurl : parseUrl text = some url) (h : ofUrl url = .ok t) : t.host ≠ "" := by
  obtain ⟨s, host, hsome, -, hhost, -⟩ := exists_host hurl h
  rw [host?, Option.filter_eq_some_iff] at hsome
  rw [hhost]
  exact hostText_ne_empty (by simpa using hsome.2)

end Target

/-! ### Options -/

namespace Options

variable {o : Options}

theorem boundOrError_of_le (h : -1 ≤ o.maxContentLength) :
    ∃ bound, o.boundOrError = .ok bound := by
  unfold boundOrError
  split
  · exact ⟨none, rfl⟩
  · rw [if_neg (by omega)]
    exact ⟨_, rfl⟩

/-- Options with a proxy that can be read make a configuration with this proxy. -/
theorem exists_toConfig {spec host : String} {port : Nat} (hproxy : o.proxy = some spec)
    (haddress : CommandLine.proxyAddress spec = .ok (host, port)) (h : -1 ≤ o.maxContentLength) :
    ∃ config, o.toConfig = .ok config ∧ config.proxy = some ⟨host, port, o.noProxy⟩ := by
  obtain ⟨bound, hbound⟩ := boundOrError_of_le h
  have hread : o.proxyOrError = .ok (some ⟨host, port, o.noProxy⟩) := by
    rw [proxyOrError, hproxy]
    dsimp only
    rw [haddress]
  rw [toConfig, hread, hbound]
  exact ⟨_, rfl, rfl⟩

end Options

/-! ### Proxies on the command line -/

namespace CommandLine

open Url

/-- **A target as a proxy.** The host and the port of a target are read as they were written, behind
any options that are settled. A target that is reached through this proxy is then asked for where
the target that was written would be dialled, unless this is at an address of 128 bits. -/
theorem proxy_of_authority {text : String} {url : Url} {t : Target}
    (hurl : parseUrl text = some url) (htarget : Target.ofUrl url = .ok t) {g g' : Gathered}
    (hsettle : g.settle = .ok g') (hnew : .proxy ∉ g'.given)
    (hbound : -1 ≤ g'.options.maxContentLength) {arguments : List String}
    (harguments : arguments = ["--proxy=" ++ t.authority] ∨
      arguments = ["--proxy", t.authority] ∧ Argument.ofText t.authority = .plain) :
    ∃ read settled config, g.readAll arguments = .ok read ∧ read.settle = .ok settled ∧
      settled.options.toConfig = .ok config ∧
      config.proxy = some ⟨t.host, t.port, g'.options.noProxy⟩ ∧
      ∀ (other : Target) (plain : Config), Fetch.isProxied config other →
        Fetch.isProxied plain t = false →
        (Fetch.address config other = Fetch.address plain t ↔ ∀ a, url.host? ≠ some (.ipv6 a)) := by
  let options : Options := { g'.options with proxy := some t.authority }
  have hset : g'.options.set .proxy t.authority = .ok options := rfl
  obtain ⟨read, hread, hsettled⟩ : ∃ read, g.readAll arguments = .ok read ∧
      read.settle = .ok { g' with latest := none, options, given := .proxy :: g'.given } := by
    rcases harguments with rfl | ⟨rfl, hplain⟩
    · exact Gathered.readAll_attached hsettle hnew hset
    · exact Gathered.readAll_setting hsettle hnew hplain hset
  have haddress : proxyAddress t.authority = .ok (t.host, t.port) :=
    proxyAddress_append (Target.host_ne_empty hurl htarget) (Target.port_le hurl htarget)
  obtain ⟨config, hconfig, hproxy⟩ := Options.exists_toConfig (o := options) rfl haddress hbound
  refine ⟨read, _, config, hread, hsettled, hconfig, hproxy, fun other plain hother hplain => ?_⟩
  have hthrough : Fetch.address config other = (t.host, t.port) := by
    obtain ⟨proxy, hfor⟩ := Option.isSome_iff_exists.1 hother
    obtain ⟨hsame, -⟩ := Option.filter_eq_some_iff.1 hfor
    rw [hproxy] at hsame
    cases hsame
    rw [Fetch.address, hfor]
  have hdirect : Fetch.address plain t = (t.connectHost, t.port) := by
    rw [Fetch.address, Option.not_isSome_iff_eq_none.1 (Bool.eq_false_iff.1 hplain)]
  rw [hthrough, hdirect, Prod.mk.injEq, ← Target.host_eq_connectHost_iff hurl htarget]
  simp

/-- A target at this host and port. -/
def targetAt (host connectHost : String) (port : Nat) : Target :=
  ⟨.http, host, connectHost, port, true, "/"⟩

/-- An address of 32 bits, behind another option. -/
theorem proxy_of_authority_ipv4 :
    ∃ read settled config,
      Gathered.readAll { latest := some (.userAgent, some "x") } ["--proxy", "10.0.0.1:3128"]
        = .ok read ∧
      read.settle = .ok settled ∧ settled.options.toConfig = .ok config ∧
      config.proxy = some ⟨"10.0.0.1", 3128, []⟩ ∧
      Fetch.address config (targetAt "[::1]" "::1" 80)
        = Fetch.address {} (targetAt "10.0.0.1" "10.0.0.1" 3128) := by
  let url : Url :=
    ⟨"http", some { host := .ipv4 167772161, port := some 3128 }, "/", none, none⟩
  let g : Gathered := { latest := some (.userAgent, some "x") }
  have hurl : parseUrl "http://10.0.0.1:3128/" = some url := by decide +kernel
  have htarget : Target.ofUrl url = .ok (targetAt "10.0.0.1" "10.0.0.1" 3128) := by rfl
  have hsettle : g.settle
      = .ok { options := { userAgent := "x" }, given := [.userAgent] } := rfl
  obtain ⟨read, settled, config, hread, hsettled, hconfig, hproxy, haddress⟩ :=
    proxy_of_authority hurl htarget hsettle (by decide) (by decide)
      (.inr ⟨rfl, by decide +kernel⟩)
  have hother : Fetch.isProxied config (targetAt "[::1]" "::1" 80) := by
    rw [Fetch.isProxied, Config.proxyFor, hproxy]
    rfl
  exact ⟨read, settled, config, hread, hsettled, hconfig, hproxy,
    (haddress _ {} hother rfl).2 nofun⟩

/-- An address of 128 bits. The proxy is looked for at the address with its brackets. -/
theorem proxy_of_authority_ipv6 :
    ∃ url read settled config,
      parseUrl "http://[::1]:3128/" = some url ∧
      Target.ofUrl url = .ok (targetAt "[::1]" "::1" 3128) ∧
      (targetAt "[::1]" "::1" 3128).authority = "[::1]:3128" ∧
      Gathered.readAll {} ["--proxy", "[::1]:3128"] = .ok read ∧ read.settle = .ok settled ∧
      settled.options.toConfig = .ok config ∧
      Fetch.address config (targetAt "example.com" "example.com" 80) = ("[::1]", 3128) ∧
      Fetch.address {} (targetAt "[::1]" "::1" 3128) = ("::1", 3128) := by
  let url : Url := ⟨"http",
    some { host := .ipv6 [0, 0, 0, 0, 0, 0, 0, 1], port := some 3128 }, "/", none, none⟩
  let options : Options := { proxy := some "[::1]:3128" }
  have haddress : proxyAddress "[::1]:3128" = .ok ("[::1]", 3128) := by decide +kernel
  obtain ⟨config, hconfig, hproxy⟩ :=
    Options.exists_toConfig (o := options) rfl haddress (by decide)
  refine ⟨url, { latest := some (.proxy, some "[::1]:3128") }, { options, given := [.proxy] },
    config, by decide +kernel, ?_, by decide +kernel, ?_, rfl, hconfig, ?_, rfl⟩
  · rfl
  · rfl
  · rw [Fetch.address, Config.proxyFor, hproxy]
    rfl

end CommandLine

end WireFetch
