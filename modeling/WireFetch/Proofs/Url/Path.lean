import WireFetch.Target

/-!
# What a web URL asks for

The path of a web URL begins with a slash, however its text is written: dots are resolved, but never
to nothing. So what is asked for of a target is not empty and begins with a slash as well.

## Main results

* `Url.of_parseUrl_web` — the parts of a web URL
* `Url.exists_renderPath`, `Url.parseUrl_path` — a path begins with a slash
* `Target.ofUrl_eq_ok_iff` — which URLs have a target, and which one
* `Target.exists_host`, `Target.port_le` — who is asked
* `Target.path_ne_empty`, `Target.exists_path` — what is asked for
-/

namespace WireFetch

namespace Url

open Text

theorem resolve_ne_nil {segments : List (List Char)} (before : List (List Char))
    (h : segments ≠ []) : resolve before segments ≠ [] := by
  induction segments generalizing before with
  | nil => exact absurd rfl h
  | cons segment segments ih =>
    cases segments with
    | nil =>
      unfold resolve
      split
      · simp
      · split <;> simp
    | cons next segments =>
      unfold resolve
      split
      · exact ih _ (List.cons_ne_nil next segments)
      · split <;> exact ih _ (List.cons_ne_nil next segments)

/-- A path begins with a slash. -/
theorem exists_renderPath (special : Bool) (s : List Char) :
    ∃ rest, renderPath special s = "/" ++ rest := by
  have hsegments : (segments special s).map (Percent.encode Percent.pathSet) ≠ [] := by
    unfold segments
    rw [ne_eq, List.map_eq_nil_iff]
    exact splitAll_ne_nil _ _
  unfold renderPath
  cases hresolve : resolve [] ((segments special s).map (Percent.encode Percent.pathSet)) with
  | nil => exact absurd hresolve (resolve_ne_nil [] hsegments)
  | cons segment rest =>
    refine ⟨String.ofList (segment ++ joinSegments rest), ?_⟩
    rw [show "/" = String.ofList ['/'] from rfl, ← String.ofList_append]
    rfl

theorem isSpecial_of_ofName? {name : String} {scheme : Scheme}
    (h : Scheme.ofName? name = some scheme) : isSpecial name = true := by
  unfold Scheme.ofName? at h
  split at h
  · rfl
  · rfl
  · cases h

/-- No port is larger than the largest one. -/
theorem port_le_of_parsePort {scheme : String} {s rest : List Char} {named : Option Nat}
    {port : Nat} (h : parsePort scheme s = some (named, rest)) (hport : named = some port) :
    port ≤ maxPort := by
  subst hport
  unfold parsePort at h
  split at h
  · dsimp only at h
    split at h
    · cases h
    · split at h
      · cases h
      · obtain ⟨n, -, h⟩ := Option.bind_eq_some_iff.1 h
        split at h
        · cases h
        · next hle =>
          split at h
          · cases h
          · cases h
            exact Nat.not_lt.1 hle
  · cases h

/-- The host of a web URL is read as one, and its port is none that is too large. -/
theorem of_parseAuthority {scheme : String} {more : Bool} {s rest : List Char} {a : Authority}
    (hspecial : isSpecial scheme = true) (h : parseAuthority scheme more s = some (a, rest)) :
    (∃ text, Host.parseWeb text = some a.host) ∧ ∀ port, a.port = some port → port ≤ maxPort := by
  unfold parseAuthority at h
  simp only [hspecial, if_true] at h
  -- with and without a user; what is read as the host differs, but not that it is read
  split at h
  all_goals
    split at h
    · cases h
    · obtain ⟨host, hhost, h⟩ := Option.bind_eq_some_iff.1 h
      split at h
      · cases h
      · obtain ⟨_, hport, h⟩ := Option.bind_eq_some_iff.1 h
        cases h
        exact ⟨⟨_, hhost⟩, fun _ => port_le_of_parsePort hport⟩

/-- A URL of the web has an authority, its path begins with a slash, and its query is encoded. -/
theorem of_parseUrl_web {text : String} {url : Url} {scheme : Scheme}
    (h : parseUrl text = some url) (hscheme : Scheme.ofName? url.scheme = some scheme) :
    (∃ authority more s rest, url.authority = some authority ∧
      parseAuthority url.scheme more s = some (authority, rest)) ∧
      (∃ s, url.path = renderPath true s) ∧
      ∃ query : Option (List Char), url.query = query.map fun s =>
        String.ofList (Percent.encode Percent.specialQuerySet s) := by
  unfold parseUrl at h
  obtain ⟨⟨name, rest⟩, -, h⟩ := Option.bind_eq_some_iff.1 h
  rcases hfragment : cutAt '#' rest with ⟨rest, fragment⟩
  rcases hquery : cutAt '?' rest with ⟨rest, query⟩
  simp only [hfragment, hquery] at h
  split at h
  · next hfile =>
    obtain ⟨_, -, h⟩ := Option.bind_eq_some_iff.1 h
    cases h
    subst hfile
    cases hscheme
  · split at h
    · next hspecial =>
      obtain ⟨_, hparse, h⟩ := Option.bind_eq_some_iff.1 h
      obtain ⟨⟨authority, path⟩, hauthority, hpath⟩ := Option.bind_eq_some_iff.1 hparse
      cases hpath
      cases h
      exact ⟨⟨authority, _, _, path, rfl, hauthority⟩, ⟨path, rfl⟩, query, rfl⟩
    · next hspecial =>
      obtain ⟨_, -, h⟩ := Option.bind_eq_some_iff.1 h
      cases h
      exact absurd (isSpecial_of_ofName? hscheme) hspecial

/-- The path of a web URL begins with a slash. -/
theorem parseUrl_path {text : String} {url : Url} {scheme : Scheme}
    (h : parseUrl text = some url) (hscheme : Scheme.ofName? url.scheme = some scheme) :
    ∃ rest, url.path = "/" ++ rest := by
  obtain ⟨-, ⟨s, hs⟩, -⟩ := of_parseUrl_web h hscheme
  exact hs ▸ exists_renderPath true s

end Url

namespace Target

/-- A URL has a target if its scheme can be fetched and it has a host. -/
theorem ofUrl_eq_ok_iff {url : Url} {target : Target} : Target.ofUrl url = .ok target ↔
    ∃ scheme host, Scheme.ofName? url.scheme = some scheme ∧ url.host? = some host ∧ target =
      { scheme
        host := hostText host
        connectHost := host.name
        port := url.port?.getD scheme.defaultPort
        explicitPort := url.port?.isSome
        path := (if url.path.isEmpty then "/" else url.path) ++ Url.announced "?" url.query } := by
  unfold ofUrl
  cases Scheme.ofName? url.scheme with
  | none => simp
  | some scheme =>
    cases url.host? with
    | none => simp
    | some host => simp [@eq_comm _ target]

theorem scheme_of_ofUrl {url : Url} {target : Target} (h : Target.ofUrl url = .ok target) :
    Scheme.ofName? url.scheme = some target.scheme ∧
      target.path
        = (if url.path.isEmpty then "/" else url.path) ++ Url.announced "?" url.query := by
  obtain ⟨scheme, host, hscheme, -, rfl⟩ := ofUrl_eq_ok_iff.1 h
  exact ⟨hscheme, rfl⟩

/-- The host of a target is read as the host of a web URL. -/
theorem exists_host {text : String} {url : Url} {target : Target}
    (hurl : Url.parseUrl text = some url) (h : Target.ofUrl url = .ok target) :
    ∃ s host, url.host? = some host ∧ Url.Host.parseWeb s = some host ∧
      target.host = hostText host ∧ target.connectHost = host.name := by
  obtain ⟨scheme, host, hscheme, hhost, rfl⟩ := ofUrl_eq_ok_iff.1 h
  obtain ⟨⟨authority, more, s, rest, hauthority, hparse⟩, -, -⟩ := Url.of_parseUrl_web hurl hscheme
  obtain ⟨⟨s, hs⟩, -⟩ := Url.of_parseAuthority (Url.isSpecial_of_ofName? hscheme) hparse
  have hsame := hhost
  rw [Url.host?, hauthority, Option.map_some, Option.filter_eq_some_iff] at hsame
  exact ⟨s, host, hhost, Option.some.inj hsame.1 ▸ hs, rfl, rfl⟩

/-- The port of a target is one, named or not. -/
theorem port_le {text : String} {url : Url} {target : Target}
    (hurl : Url.parseUrl text = some url) (h : Target.ofUrl url = .ok target) :
    target.port ≤ Url.maxPort := by
  obtain ⟨scheme, host, hscheme, -, rfl⟩ := ofUrl_eq_ok_iff.1 h
  obtain ⟨⟨authority, more, s, rest, hauthority, hparse⟩, -, -⟩ := Url.of_parseUrl_web hurl hscheme
  obtain ⟨-, hle⟩ := Url.of_parseAuthority (Url.isSpecial_of_ofName? hscheme) hparse
  have hdefault : scheme.defaultPort ≤ Url.maxPort := by cases scheme <;> decide
  have hport : url.port? = authority.port := by rw [Url.port?, hauthority, Option.bind_some]
  rw [hport]
  cases hnamed : authority.port with
  | none => exact hdefault
  | some port => exact hle port hnamed

theorem path_ne_empty {url : Url} {target : Target} (h : Target.ofUrl url = .ok target) :
    target.path ≠ "" := by
  rw [(scheme_of_ofUrl h).2, ne_eq, String.append_eq_empty_iff]
  rintro ⟨hpath, -⟩
  split at hpath
  · exact absurd hpath (by decide)
  · next hne => exact hne (by rw [hpath]; rfl)

/-- What is asked for begins with a slash. -/
theorem exists_path {text : String} {url : Url} {target : Target}
    (hurl : Url.parseUrl text = some url) (h : Target.ofUrl url = .ok target) :
    ∃ rest, target.path = "/" ++ rest := by
  obtain ⟨hscheme, hpath⟩ := scheme_of_ofUrl h
  obtain ⟨rest, hrest⟩ := Url.parseUrl_path hurl hscheme
  refine ⟨rest ++ Url.announced "?" url.query, ?_⟩
  rw [hpath, hrest, ← String.append_assoc, if_neg]
  simp

end Target

end WireFetch
