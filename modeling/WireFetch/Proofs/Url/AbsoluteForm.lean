import Mathlib.Data.List.Basic
import WireFetch.Proofs.Url.Visible

/-!
# What a URL in a request says

A proxy is given a whole URL and has to take it apart again. Its parts are put together without a
mark of their own: the host ends where a port or the path begins, and there may be a port or not. So
that no two targets have the same text it must be clear where the host ends. Nothing but the path
has a slash, and the path begins with one. A colon in front of it announces a port, unless it is a
colon of an address; but an address with colons is in brackets, and no port ends with a bracket.

The statement is about targets whose parts are such (`Target.IsTidy`), and those of web URLs are.

## Main definitions

* `Target.IsHostText` — a host that can be told from what follows it
* `Target.IsTidy` — the parts of a target are told apart in its texts

## Main results

* `Target.IsTidy.eq_of_absoluteUri_eq`, `Target.IsTidy.eq_of_authority_eq` — texts of tidy targets
* `Target.isTidy_of_ofUrl` — targets of web URLs are tidy
* `Target.absoluteUri_injective` — all of this, for URLs
-/

namespace WireFetch

namespace Text

/-- Different numbers have different digits. -/
theorem toString_inj {m n : Nat} (h : toString m = toString n) : m = n := by
  have hdigits : Nat.toDigits 10 m = Nat.toDigits 10 n := by
    rw [← toList_toString, ← toList_toString, h]
  rw [← Nat.ofDigitChars_ten_toDigits (n := m), hdigits, Nat.ofDigitChars_ten_toDigits]

end Text

theorem Scheme.name_inj {a b : Scheme} (h : a.name = b.name) : a = b := by
  cases a <;> cases b <;> first | rfl | exact absurd h (by decide)

namespace Target

open Url Text

variable {t t' : Target} {host connectHost : String}

/-- The host has no slash; it is the one that is resolved, and then it has no colon and no bracket,
or it is that one in brackets. -/
def IsHostText (host connectHost : String) : Prop :=
  '/' ∉ host.toList ∧
    (host = connectHost ∧ ':' ∉ host.toList ∧ '[' ∉ host.toList ∨
      host = "[" ++ connectHost ++ "]")

/-- The parts of the target are told apart in its texts. -/
structure IsTidy (t : Target) : Prop where
  host : IsHostText t.host t.connectHost
  port : t.explicitPort = false → t.port = t.scheme.defaultPort
  path : ∃ rest, t.path = "/" ++ rest

theorem not_mem_toString {c : Char} (hc : c.isDigit = false) (n : Nat) :
    c ∉ (toString n).toList := fun hmem => by
  have hdigit := forall_mem_toString (P := fun d => d.isDigit) (by decide) n c hmem
  rw [hc] at hdigit
  cases hdigit

/-! ### Hosts -/

/-- No port ends with a bracket, so a host with brackets ends in no port. -/
theorem IsHostText.ne_append_port (h : IsHostText host connectHost) (s : String) (n : Nat) :
    host ≠ s ++ ":" ++ toString n := by
  intro heq
  obtain ⟨-, ⟨-, hcolon, -⟩ | hbrackets⟩ := h
  · exact hcolon (by simp [heq])
  · have hlists : s.toList ++ ':' :: (toString n).toList = '[' :: connectHost.toList ++ [']'] := by
      have hsame := congrArg String.toList (heq.symm.trans hbrackets)
      simp only [String.toList_append, List.append_assoc] at hsame
      exact hsame
    have hlast := congrArg List.getLast? hlists
    rw [List.getLast?_append_cons, List.getLast?_concat] at hlast
    rcases List.mem_cons.1 (List.mem_of_getLast? hlast) with hcolon | hdigit
    · exact absurd hcolon (by decide)
    · exact not_mem_toString rfl n hdigit

theorem IsHostText.connectHost_eq {connectHost' : String} (h : IsHostText host connectHost)
    (h' : IsHostText host connectHost') : connectHost = connectHost' := by
  obtain ⟨-, ⟨heq, -, hbracket⟩ | hbrackets⟩ := h
  · obtain ⟨-, ⟨heq', -⟩ | hbrackets'⟩ := h'
    · exact heq.symm.trans heq'
    · exact absurd (by simp [hbrackets']) hbracket
  · obtain ⟨-, ⟨-, -, hbracket⟩ | hbrackets'⟩ := h'
    · exact absurd (by simp [hbrackets]) hbracket
    · rw [hbrackets, String.append_left_inj, String.append_right_inj] at hbrackets'
      exact hbrackets'

/-! ### Texts -/

theorem host_eq_of_append_port {m n : Nat} {s s' : String}
    (heq : s ++ ":" ++ toString m = s' ++ ":" ++ toString n) : s = s' ∧ m = n := by
  have hlists := congrArg String.toList heq
  simp only [String.toList_append, List.append_assoc] at hlists
  obtain ⟨hhost, hport⟩ := append_cons_inj_last (not_mem_toString rfl m) (not_mem_toString rfl n)
    (c := ':') hlists
  exact ⟨String.toList_inj.1 hhost, toString_inj (String.toList_inj.1 hport)⟩

theorem IsTidy.hostHeader_inj (h : t.IsTidy) (h' : t'.IsTidy)
    (heq : t.hostHeader = t'.hostHeader) :
    t.host = t'.host ∧ t.explicitPort = t'.explicitPort ∧
      (t.explicitPort = true → t.port = t'.port) := by
  unfold hostHeader at heq
  split at heq
  · next hport =>
    split at heq
    · next hport' =>
      obtain ⟨hhost, hports⟩ := host_eq_of_append_port heq
      exact ⟨hhost, by rw [hport, hport'], fun _ => hports⟩
    · exact absurd heq.symm (h'.host.ne_append_port t.host t.port)
  · next hport =>
    split at heq
    · exact absurd heq (h.host.ne_append_port t'.host t'.port)
    · next hport' =>
      exact ⟨heq, by simp_all, fun hp => absurd hp hport⟩

theorem IsTidy.slash_not_mem_hostHeader (h : t.IsTidy) : '/' ∉ t.hostHeader.toList := by
  unfold hostHeader
  split
  · simp only [String.toList_append, List.mem_append, not_or]
    exact ⟨⟨h.host.1, by decide⟩, not_mem_toString rfl t.port⟩
  · exact h.host.1

theorem toList_absoluteUri {rest : String} (hpath : t.path = "/" ++ rest) :
    t.absoluteUri.toList = t.scheme.name.toList ++
      ':' :: '/' :: '/' :: (t.hostHeader.toList ++ '/' :: rest.toList) := by
  rw [absoluteUri, hpath]
  simp only [String.toList_append, List.append_assoc]
  rfl

/-- A tidy target can be told from the URL that is put together of it. -/
theorem IsTidy.eq_of_absoluteUri_eq (h : t.IsTidy) (h' : t'.IsTidy)
    (heq : t.absoluteUri = t'.absoluteUri) : t = t' := by
  have hcolon : ∀ scheme : Scheme, ':' ∉ scheme.name.toList := fun scheme => by
    cases scheme <;> decide
  obtain ⟨rest, hpath⟩ := h.path
  obtain ⟨rest', hpath'⟩ := h'.path
  have hlists := congrArg String.toList heq
  rw [toList_absoluteUri hpath, toList_absoluteUri hpath'] at hlists
  obtain ⟨hname, hlists⟩ := append_cons_inj (hcolon _) (hcolon _) hlists
  obtain ⟨hheader, hrest⟩ := append_cons_inj h.slash_not_mem_hostHeader
    h'.slash_not_mem_hostHeader (List.cons.inj (List.cons.inj hlists).2).2
  have hscheme : t.scheme = t'.scheme := Scheme.name_inj (String.toList_inj.1 hname)
  obtain ⟨hhost, hexplicit, hports⟩ := h.hostHeader_inj h' (String.toList_inj.1 hheader)
  have hconnect : t.connectHost = t'.connectHost := (hhost ▸ h.host).connectHost_eq h'.host
  have hport : t.port = t'.port := by
    cases hnamed : t.explicitPort with
    | true => exact hports hnamed
    | false => rw [h.port hnamed, h'.port (hexplicit ▸ hnamed), hscheme]
  have hpaths : t.path = t'.path := by rw [hpath, hpath', String.toList_inj.1 hrest]
  cases t
  cases t'
  simp_all

theorem IsTidy.eq_of_authority_eq (h : t.IsTidy) (h' : t'.IsTidy)
    (heq : t.authority = t'.authority) :
    t.host = t'.host ∧ t.connectHost = t'.connectHost ∧ t.port = t'.port := by
  obtain ⟨hhost, hport⟩ := host_eq_of_append_port heq
  exact ⟨hhost, (hhost ▸ h.host).connectHost_eq h'.host, hport⟩

/-! ### Targets of URLs -/

variable {text text' : String} {url url' : Url}

theorem isHostText_of_parseWeb {s : List Char} {host : Host} (h : Host.parseWeb s = some host) :
    IsHostText (hostText host) host.name := by
  obtain ⟨a, rfl⟩ | ⟨n, rfl⟩ | ⟨name, rfl, hname⟩ := cases_of_parseWeb h
  · have hslash : ∀ c ∈ (Ipv6.renderMapped a).toList, c ≠ '/' :=
      forall_mem_ipv6 (by decide) (by decide) (by decide) a
    refine ⟨?_, .inr rfl⟩
    simp only [hostText, String.toList_append, List.mem_append, not_or]
    exact ⟨⟨by decide, fun hmem => hslash '/' hmem rfl⟩, by decide⟩
  · have hmarks : ∀ c ∈ (Ipv4.render n).toList, c ∉ ['/', ':', '['] :=
      forall_mem_ipv4 (by decide) (by decide) n
    exact ⟨fun hmem => hmarks '/' hmem (by decide), .inl ⟨rfl,
      fun hmem => hmarks ':' hmem (by decide), fun hmem => hmarks '[' hmem (by decide)⟩⟩
  · have hmarks : ∀ c ∈ ['/', ':', '['], c ∉ (String.ofList name).toList := fun c hc hmem => by
      have hdenied : ['/', ':', '['].all Domain.isDenied := by decide
      rw [String.toList_ofList] at hmem
      exact absurd (List.all_eq_true.1 hdenied c hc) (by rw [hname c hmem]; decide)
    exact ⟨hmarks '/' (by decide), .inl ⟨rfl, hmarks ':' (by decide), hmarks '[' (by decide)⟩⟩

/-- The parts of the target of a web URL are told apart in its texts. -/
theorem isTidy_of_ofUrl (hurl : parseUrl text = some url) (h : ofUrl url = .ok t) : t.IsTidy := by
  obtain ⟨s, host, -, hs, hhost, hconnect⟩ := exists_host hurl h
  refine ⟨?_, ?_, exists_path hurl h⟩
  · rw [hhost, hconnect]
    exact isHostText_of_parseWeb hs
  · obtain ⟨scheme, host, -, -, rfl⟩ := ofUrl_eq_ok_iff.1 h
    intro hnone
    rw [Option.isSome_eq_false_iff, Option.isNone_iff_eq_none] at hnone
    simp [hnone]

/-- **Whole URLs.** Two targets of web URLs that are the same as URLs in a request to a proxy are
the same; those that are the same in a request for a tunnel have the same host and port. A user and
a fragment make no difference to a target. -/
theorem absoluteUri_injective (hurl : parseUrl text = some url) (h : ofUrl url = .ok t)
    (hurl' : parseUrl text' = some url') (h' : ofUrl url' = .ok t') :
    (t.absoluteUri = t'.absoluteUri → t = t') ∧
    (t.authority = t'.authority →
      t.host = t'.host ∧ t.connectHost = t'.connectHost ∧ t.port = t'.port) ∧
    ∀ userinfo fragment,
      ofUrl { url with
        authority := url.authority.map fun a => { a with userinfo := userinfo }
        fragment := fragment } = .ok t := by
  have htidy := isTidy_of_ofUrl hurl h
  have htidy' := isTidy_of_ofUrl hurl' h'
  refine ⟨htidy.eq_of_absoluteUri_eq htidy', htidy.eq_of_authority_eq htidy', ?_⟩
  intro userinfo fragment
  obtain ⟨scheme, host, hscheme, hhost, rfl⟩ := ofUrl_eq_ok_iff.1 h
  refine ofUrl_eq_ok_iff.2 ⟨scheme, host, hscheme, ?_, ?_⟩
  · rw [← hhost, host?, host?, Option.map_map]
    rfl
  · simp only [port?, Option.bind_map]
    rfl

/-- A page at an address with colons. -/
def page (userinfo : String) (fragment : Option String) : Url where
  scheme := "http"
  authority := some { userinfo, host := .ipv6 [0, 0, 0, 0, 0, 0, 0, 1], port := some 8080 }
  path := "/a"
  query := some "b"
  fragment

/-- With a user and a fragment or without, it is the same page. -/
theorem absoluteUri_injective_page :
    ∃ t t', parseUrl "http://user@[::1]:8080/a?b#c" = some (page "user@" (some "c")) ∧
      parseUrl "http://[::1]:8080/a?b" = some (page "" none) ∧
      ofUrl (page "user@" (some "c")) = .ok t ∧ ofUrl (page "" none) = .ok t' ∧
      t.absoluteUri = "http://[::1]:8080/a?b" ∧ t'.absoluteUri = "http://[::1]:8080/a?b" ∧
      t = t' := by
  have hurl : parseUrl "http://user@[::1]:8080/a?b#c" = some (page "user@" (some "c")) := by
    decide +kernel
  have hurl' : parseUrl "http://[::1]:8080/a?b" = some (page "" none) := by decide +kernel
  have huri : (ofUrl (page "user@" (some "c"))).map absoluteUri = .ok "http://[::1]:8080/a?b" := by
    decide +kernel
  have huri' : (ofUrl (page "" none)).map absoluteUri = .ok "http://[::1]:8080/a?b" := by
    decide +kernel
  obtain ⟨t, ht⟩ : ∃ t, ofUrl (page "user@" (some "c")) = .ok t := ⟨_, rfl⟩
  obtain ⟨t', ht'⟩ : ∃ t, ofUrl (page "" none) = .ok t := ⟨_, rfl⟩
  rw [ht] at huri
  rw [ht'] at huri'
  simp only [Except.map, Except.ok.injEq] at huri huri'
  exact ⟨t, t', hurl, hurl', ht, ht', huri, huri',
    (absoluteUri_injective hurl ht hurl' ht').1 (huri.trans huri'.symm)⟩

end Target

end WireFetch
