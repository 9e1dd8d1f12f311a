import Mathlib
import WireFetch.Tls.Policy

/-!
# What is offered of what is preferred

Versions and suites are looked up in different ways: a version by a list of its names, a suite by
the normal form of its one name. Both ways amount to the same rule. Each item has a list of names,
and a preference names the item if it is one of them, up to case and white space at its ends
(`IsNamedBy`); for a suite these are its two spellings. No two items share a name. The rest follows
for both at once: an offer has just the items that are named, each once, in the order in which they
are first named (`IsOffer`), and a preference that names nothing new makes no difference.

An offer can be told back by its own names. They are other spellings than those in the preferences,
but each is one of the names of its item.

## Main definitions

* `IsNamedBy` — a preference is one of these names
* `CipherSuite.spellings` — the names of a suite
* `IsOffer` — the items that the preferences name, in their order
* `NamesNothingNew` — a preference that makes no difference

## Main results

* `Protocol.ofName?_eq_some_iff`, `CipherSuite.ofName?_eq_some_iff` — the two ways to look up
* `isOffer_enabled`, `enabled_append_cons` — what is enabled
* `Negotiator.ofPolicy_isOffer` — offers, and when there is none
-/

namespace WireFetch.Tls

open Text

/-- The preference is one of these names, apart from case and white space at its ends. -/
def IsNamedBy (preference : String) (names : List String) : Prop :=
  ∃ name ∈ names, sameName name (String.ofList (trim preference.toList))

instance (preference : String) (names : List String) : Decidable (IsNamedBy preference names) :=
  inferInstanceAs (Decidable (∃ name ∈ names, _))

/-- Capitals tell names apart just as small letters do. -/
theorem sameName_iff_toUpper {a b : String} :
    sameName a b ↔ a.toList.map Char.toUpper = b.toList.map Char.toUpper := by
  have hlower : ∀ s : List Char, lower (s.map Char.toUpper) = lower s := fun s => by
    simp [lower]
  have hupper : ∀ s : List Char, (lower s).map Char.toUpper = s.map Char.toUpper := fun s => by
    simp [lower]
  rw [sameName, decide_eq_true_eq]
  constructor
  · intro h
    rw [← hupper a.toList, h, hupper]
  · intro h
    rw [← hlower a.toList, h, hlower]

/-- A search for the only item there is. -/
theorem find?_eq_some_iff_of_unique {α : Type} {l : List α} {p : α → Bool} {a : α} (ha : a ∈ l)
    (hunique : p a → ∀ b ∈ l, p b → b = a) : l.find? p = some a ↔ p a := by
  constructor
  · exact List.find?_some
  · intro hp
    cases hfound : l.find? p with
    | none => exact absurd hp (List.find?_eq_none.1 hfound a ha)
    | some b => rw [hunique hp b (List.mem_of_find?_eq_some hfound) (List.find?_some hfound)]

/-! ### Versions -/

namespace Protocol

theorem mem_all (p : Protocol) : p ∈ all := by cases p <;> decide

/-- The two versions have no name in common. -/
theorem eq_of_isNamedBy {preference : String} {p q : Protocol}
    (hp : IsNamedBy preference p.aliases) (hq : IsNamedBy preference q.aliases) : p = q := by
  have happart : ∀ p ∈ all, ∀ q ∈ all, ∀ a ∈ p.aliases, ∀ b ∈ q.aliases,
      sameName a b → p = q := by decide +kernel
  obtain ⟨a, ha, hsame⟩ := hp
  obtain ⟨b, hb, hsame'⟩ := hq
  exact happart p (mem_all p) q (mem_all q) a ha b hb
    (sameName_trans hsame (sameName_comm b _ ▸ hsame'))

theorem ofName?_eq_some_iff {preference : String} {p : Protocol} :
    ofName? preference = some p ↔ IsNamedBy preference p.aliases := by
  have hany : ∀ q : Protocol, (q.aliases.any (sameName · (String.ofList (trim preference.toList))))
      = true ↔ IsNamedBy preference q.aliases := fun q => List.any_eq_true
  rw [← hany]
  exact find?_eq_some_iff_of_unique (mem_all p) fun hp q _ hq =>
    eq_of_isNamedBy ((hany q).1 hq) ((hany p).1 hp)

/-- A version is found by its name. -/
theorem ofName?_name (p : Protocol) : ofName? p.name = some p := by
  rw [ofName?_eq_some_iff]
  cases p <;> decide +kernel

end Protocol

/-! ### Suites -/

namespace CipherSuite

/-- What follows the prefix in the name of a suite. -/
def stem : CipherSuite → String
  | newer cipher => cipher.name
  | older key cipher => "ECDHE_" ++ key.name ++ "_WITH_" ++ cipher.name

/-- The names of a suite, with one prefix and with the other. -/
def spellings (suite : CipherSuite) : List String := ["TLS_" ++ suite.stem, "TLS13_" ++ suite.stem]

theorem mem_all (suite : CipherSuite) : suite ∈ all := by
  rcases suite with ⟨_ | _ | _⟩ | ⟨_ | _, _ | _ | _⟩ <;> decide

theorem normalName_name (suite : CipherSuite) :
    normalName suite.name = ("TLS_" ++ suite.stem).toList := by
  have hall : ∀ suite ∈ all, normalName suite.name = ("TLS_" ++ suite.stem).toList := by
    decide +kernel
  exact hall suite (mem_all suite)

theorem eq_of_normalName_eq {s t : CipherSuite} (h : normalName s.name = normalName t.name) :
    s = t := by
  have hall : ∀ s ∈ all, ∀ t ∈ all, normalName s.name = normalName t.name → s = t := by
    decide +kernel
  exact hall s (mem_all s) t (mem_all t) h

/-- The normal form is that of a suite just for its two spellings. -/
theorem normalName_eq_iff {preference : String} {suite : CipherSuite} :
    normalName suite.name = normalName preference ↔ IsNamedBy preference suite.spellings := by
  have hcapitals : suite.stem.toList.map Char.toUpper = suite.stem.toList := by
    have hall : ∀ suite ∈ all, suite.stem.toList.map Char.toUpper = suite.stem.toList := by
      decide +kernel
    exact hall suite (mem_all suite)
  have hnamed : IsNamedBy preference suite.spellings ↔
      "TLS_".toList ++ suite.stem.toList = (trim preference.toList).map Char.toUpper ∨
      "TLS13_".toList ++ suite.stem.toList = (trim preference.toList).map Char.toUpper := by
    simp only [IsNamedBy, spellings, List.mem_cons, List.not_mem_nil, or_false, exists_eq_or_imp,
      exists_eq_left, sameName_iff_toUpper, String.toList_append, List.map_append, hcapitals,
      String.toList_ofList]
    rfl
  rw [hnamed, normalName_name, normalName, String.toList_append]
  generalize (trim preference.toList).map Char.toUpper = name
  split
  · next hprefix =>
    obtain ⟨rest, rfl⟩ := List.isPrefixOf_iff_prefix.1 hprefix
    have hother : "TLS_".toList ++ suite.stem.toList ≠ "TLS13_".toList ++ rest := by simp
    rw [List.drop_left, List.append_cancel_left_eq, List.append_cancel_left_eq, or_iff_right hother]
  · next hprefix =>
    have hother : "TLS13_".toList ++ suite.stem.toList ≠ name := fun h =>
      hprefix (List.isPrefixOf_iff_prefix.2 ⟨_, h⟩)
    rw [or_iff_left hother]

theorem ofName?_eq_some_iff {preference : String} {suite : CipherSuite} :
    ofName? preference = some suite ↔ IsNamedBy preference suite.spellings := by
  rw [← normalName_eq_iff, ← decide_eq_true_iff (p := normalName suite.name = _)]
  refine find?_eq_some_iff_of_unique (mem_all suite) fun hs t _ ht => ?_
  rw [decide_eq_true_eq] at hs ht
  exact eq_of_normalName_eq (ht.trans hs.symm)

/-- A suite is found by its name. -/
theorem ofName?_name (suite : CipherSuite) : ofName? suite.name = some suite :=
  ofName?_eq_some_iff.2 (normalName_eq_iff.1 rfl)

end CipherSuite

/-! ### Offers -/

section Offer

variable {α : Type} {names : α → List String} {known : String → Option α}
  {preferences before behind : List String} {preference : String} {offered : List α} {a : α}

/-- When the preferences first name `a`, they have not named `b` yet. -/
def NamedBefore (names : α → List String) (preferences : List String) (a b : α) : Prop :=
  ∃ before behind, preferences = before ++ behind ∧
    (∃ preference ∈ before, IsNamedBy preference (names a)) ∧
    ∀ preference ∈ before, ¬ IsNamedBy preference (names b)

/-- The items that the preferences name, each once, in the order in which they are first named. -/
structure IsOffer (names : α → List String) (preferences : List String) (offered : List α) :
    Prop where
  nodup : offered.Nodup
  mem_iff : ∀ a, a ∈ offered ↔ ∃ preference ∈ preferences, IsNamedBy preference (names a)
  inOrder : offered.Pairwise (NamedBefore names preferences)

/-- None of the preferences names anything. -/
def NamesNone (names : α → List String) (preferences : List String) : Prop :=
  ∀ a, ∀ preference ∈ preferences, ¬ IsNamedBy preference (names a)

/-- What the preference names, if anything, was named before. -/
def NamesNothingNew (names : α → List String) (before : List String) (preference : String) : Prop :=
  ∀ a, IsNamedBy preference (names a) → ∃ earlier ∈ before, IsNamedBy earlier (names a)

variable [DecidableEq α]

/-- A list with one more item at its end, if there is one and it is new. -/
def extend (offered : List α) (item : Option α) : List α :=
  match item with
  | some a => if a ∈ offered then offered else offered ++ [a]
  | none => offered

theorem extend_of_mem {item : Option α} (h : ∀ a, item = some a → a ∈ offered) :
    extend offered item = offered := by
  cases item with
  | none => rfl
  | some a => exact if_pos (h a rfl)

theorem extend_of_not_mem (h : a ∉ offered) : extend offered (some a) = offered ++ [a] := if_neg h

theorem mem_extend {item : Option α} : a ∈ extend offered item ↔ a ∈ offered ∨ item = some a := by
  by_cases hnew : ∃ b, item = some b ∧ b ∉ offered
  · obtain ⟨b, rfl, hb⟩ := hnew
    rw [extend_of_not_mem hb, List.mem_append, List.mem_singleton, Option.some.injEq, eq_comm]
  · have hold : ∀ b, item = some b → b ∈ offered := by simpa using hnew
    rw [extend_of_mem hold, iff_self_or]
    exact hold a

theorem eraseDups_concat (l : List α) (a : α) :
    (l ++ [a]).eraseDups = extend l.eraseDups (some a) := by
  rw [List.eraseDups_append, List.cons_removeAll, List.nil_removeAll]
  by_cases ha : a ∈ l
  · rw [if_neg (by simpa using ha), List.eraseDups_nil, List.append_nil,
      extend_of_mem (by simpa using ha)]
  · rw [if_pos (by simpa using ha), List.eraseDups_cons, List.filter_nil, List.eraseDups_nil,
      extend_of_not_mem (by simpa using ha)]

/-- The preferences can be taken one after the other. -/
theorem enabled_concat (known : String → Option α) (preferences : List String)
    (preference : String) : enabled known (preferences ++ [preference])
      = extend (enabled known preferences) (known preference) := by
  rw [enabled, List.filterMap_append]
  cases hitem : known preference with
  | none => rw [List.filterMap_cons_none hitem, List.filterMap_nil, List.append_nil]; rfl
  | some a => rw [List.filterMap_cons_some hitem, List.filterMap_nil, eraseDups_concat]; rfl

/-- The order in which items are named is kept from one preference to the next. -/
theorem IsOffer.extend {item : Option α} (h : IsOffer names preferences offered)
    (hitem : ∀ a, item = some a ↔ IsNamedBy preference (names a)) :
    IsOffer names (preferences ++ [preference]) (extend offered item) := by
  have hmem : ∀ a, a ∈ Tls.extend offered item ↔
      ∃ earlier ∈ preferences ++ [preference], IsNamedBy earlier (names a) := fun a => by
    simp only [mem_extend, h.mem_iff, hitem, List.mem_append, List.mem_singleton, or_and_right,
      exists_or, exists_eq_left]
  have hold : offered.Pairwise (NamedBefore names (preferences ++ [preference])) :=
    h.inOrder.imp fun ⟨before, behind, heq, ha, hb⟩ =>
      ⟨before, behind ++ [preference], by rw [heq, List.append_assoc], ha, hb⟩
  by_cases hnew : ∃ b, item = some b ∧ b ∉ offered
  · obtain ⟨b, rfl, hb⟩ := hnew
    rw [extend_of_not_mem hb] at hmem ⊢
    have hnone : ∀ earlier ∈ preferences, ¬ IsNamedBy earlier (names b) :=
      fun earlier hearlier hnamed => hb ((h.mem_iff b).2 ⟨earlier, hearlier, hnamed⟩)
    have hlast : ∀ a ∈ offered, ∀ c ∈ [b], NamedBefore names (preferences ++ [preference]) a c := by
      intro a ha c hc
      rw [List.mem_singleton.1 hc]
      exact ⟨preferences, [preference], rfl, (h.mem_iff a).1 ha, hnone⟩
    exact ⟨List.concat_eq_append ▸ h.nodup.concat hb, hmem,
      List.pairwise_append.2 ⟨hold, List.pairwise_singleton _ _, hlast⟩⟩
  · have heq : Tls.extend offered item = offered := extend_of_mem (by simpa using hnew)
    rw [heq] at hmem ⊢
    exact ⟨h.nodup, hmem, hold⟩

theorem isOffer_enabled
    (hknown : ∀ preference a, known preference = some a ↔ IsNamedBy preference (names a))
    (preferences : List String) : IsOffer names preferences (enabled known preferences) := by
  induction preferences using List.reverseRecOn with
  | nil => exact ⟨List.nodup_nil, by simp [enabled], List.Pairwise.nil⟩
  | append_singleton preferences last ih =>
    rw [enabled_concat]
    exact ih.extend (hknown last)

/-- A preference that names nothing new can be left out. -/
theorem enabled_append_cons
    (hknown : ∀ preference a, known preference = some a ↔ IsNamedBy preference (names a))
    (h : NamesNothingNew names before preference) :
    enabled known (before ++ preference :: behind) = enabled known (before ++ behind) := by
  have hnamed : ∀ a, known preference = some a → a ∈ enabled known before := fun a ha =>
    ((isOffer_enabled hknown before).mem_iff a).2 (h a ((hknown preference a).1 ha))
  induction behind using List.reverseRecOn with
  | nil => rw [enabled_concat, List.append_nil, extend_of_mem hnamed]
  | append_singleton behind last ih =>
    rw [← List.cons_append, ← List.append_assoc, ← List.append_assoc, enabled_concat,
      enabled_concat, ih]

/-- Items that are named by their own names stay as they are. -/
theorem enabled_map {name : α → String} (hname : ∀ a, known (name a) = some a)
    (hnodup : offered.Nodup) : enabled known (offered.map name) = offered := by
  induction offered using List.reverseRecOn with
  | nil => rfl
  | append_singleton offered a ih =>
    obtain ⟨hnodup, -, hdisjoint⟩ := List.nodup_append.1 hnodup
    have ha : a ∉ offered := fun hmem => hdisjoint a hmem a (List.mem_singleton_self a) rfl
    rw [List.map_append, List.map_singleton, enabled_concat, ih hnodup, hname, extend_of_not_mem ha]

theorem enabled_eq_nil_iff
    (hknown : ∀ preference a, known preference = some a ↔ IsNamedBy preference (names a)) :
    enabled known preferences = [] ↔ NamesNone names preferences := by
  simp only [List.eq_nil_iff_forall_not_mem, (isOffer_enabled hknown preferences).mem_iff,
    not_exists, not_and, NamesNone]

end Offer

namespace Negotiator

variable {policy : TlsPolicy} {n : Negotiator}

/-- What is offered, if anything, is what is enabled, and some suite belongs to some version. -/
theorem ofPolicy_eq_ok_iff : ofPolicy policy = .ok n ↔
    n = ⟨enabled Protocol.ofName? policy.protocols, enabled CipherSuite.ofName? policy.cipherSuites,
      policy.verify⟩ ∧ n.suites.any (n.protocols.contains ·.protocol) := by
  unfold ofPolicy
  generalize enabled Protocol.ofName? policy.protocols = protocols
  generalize enabled CipherSuite.ofName? policy.cipherSuites = suites
  dsimp only
  constructor
  · intro h
    split_ifs at h with hprotocols hsuites husable
    cases h
    exact ⟨rfl, husable⟩
  · rintro ⟨rfl, husable⟩
    obtain ⟨suite, hsuite, hprotocol⟩ := List.any_eq_true.1 husable
    have hne : protocols ≠ [] := List.ne_nil_of_mem (List.contains_iff_mem.1 hprotocol)
    rw [if_neg hne, if_neg (List.ne_nil_of_mem hsuite), if_pos husable]

theorem ofPolicy_eq_noProtocols_iff {preferred : List String} :
    ofPolicy policy = .error (.noProtocols preferred) ↔
      preferred = policy.protocols ∧ enabled Protocol.ofName? policy.protocols = [] := by
  rw [@eq_comm _ preferred]
  unfold ofPolicy
  dsimp only
  split_ifs <;> simp [*, noUsableSuite]

theorem ofPolicy_eq_noCipherSuites_iff {preferred : List String} :
    ofPolicy policy = .error (.noCipherSuites preferred) ↔
      preferred = policy.cipherSuites ∧ ¬ enabled Protocol.ofName? policy.protocols = [] ∧
        enabled CipherSuite.ofName? policy.cipherSuites = [] := by
  rw [@eq_comm _ preferred]
  unfold ofPolicy
  dsimp only
  split_ifs <;> simp [*, noUsableSuite]

/-- **Offers.** The versions and suites that are enabled are those that some preference names, each
once, in the order in which they are first named. A preference that names none, or one that is named
before it, makes no difference. There is no offer for want of a version if and only if no preference
names one, and otherwise for want of a suite if and only if no preference names one. An offer that
is made comes about again from its own names. -/
theorem ofPolicy_isOffer (policy : TlsPolicy) :
    IsOffer Protocol.aliases policy.protocols (enabled Protocol.ofName? policy.protocols) ∧
    IsOffer CipherSuite.spellings policy.cipherSuites
      (enabled CipherSuite.ofName? policy.cipherSuites) ∧
    (∀ before preference behind, NamesNothingNew Protocol.aliases before preference →
      enabled Protocol.ofName? (before ++ preference :: behind)
        = enabled Protocol.ofName? (before ++ behind)) ∧
    (∀ before preference behind, NamesNothingNew CipherSuite.spellings before preference →
      enabled CipherSuite.ofName? (before ++ preference :: behind)
        = enabled CipherSuite.ofName? (before ++ behind)) ∧
    (∀ preferred, ofPolicy policy = .error (.noProtocols preferred) ↔
      preferred = policy.protocols ∧ NamesNone Protocol.aliases policy.protocols) ∧
    (∀ preferred, ofPolicy policy = .error (.noCipherSuites preferred) ↔
      preferred = policy.cipherSuites ∧ ¬ NamesNone Protocol.aliases policy.protocols ∧
        NamesNone CipherSuite.spellings policy.cipherSuites) ∧
    ∀ n, ofPolicy policy = .ok n →
      n.protocols = enabled Protocol.ofName? policy.protocols ∧
      n.suites = enabled CipherSuite.ofName? policy.cipherSuites ∧
      ∀ verify,
        ofPolicy ⟨verify, n.protocolNames, n.suiteNames⟩ = .ok { n with strict := verify } := by
  have hprotocols : ∀ preference version, Protocol.ofName? preference = some version ↔
      IsNamedBy preference version.aliases := fun _ _ => Protocol.ofName?_eq_some_iff
  have hsuites : ∀ preference suite, CipherSuite.ofName? preference = some suite ↔
      IsNamedBy preference suite.spellings := fun _ _ => CipherSuite.ofName?_eq_some_iff
  refine ⟨isOffer_enabled hprotocols _, isOffer_enabled hsuites _,
    fun _ _ _ => enabled_append_cons hprotocols, fun _ _ _ => enabled_append_cons hsuites,
    fun _ => ?_, fun _ => ?_, fun n hn => ?_⟩
  · rw [ofPolicy_eq_noProtocols_iff, enabled_eq_nil_iff hprotocols]
  · rw [ofPolicy_eq_noCipherSuites_iff, enabled_eq_nil_iff hprotocols, enabled_eq_nil_iff hsuites]
  · obtain ⟨rfl, husable⟩ := ofPolicy_eq_ok_iff.1 hn
    refine ⟨rfl, rfl, fun verify => ofPolicy_eq_ok_iff.2 ⟨?_, husable⟩⟩
    rw [protocolNames, suiteNames,
      enabled_map Protocol.ofName?_name (isOffer_enabled hprotocols _).nodup,
      enabled_map CipherSuite.ofName?_name (isOffer_enabled hsuites _).nodup]

/-- A version by two of its names, and a suite by both of its spellings. -/
theorem ofPolicy_isOffer_twice :
    let policy : TlsPolicy :=
      { protocols := ["SSLv3", " tls1.3", "TLSv1_2", "TLSv1.3"]
        cipherSuites := ["tls_aes_128_gcm_sha256", "RC4", "TLS13_AES_128_GCM_SHA256"] }
    ofPolicy policy = .ok ⟨[.tls13, .tls12], [.newer .aes128], true⟩ ∧
      ofPolicy ⟨false, ["TLSv1.3", "TLSv1.2"], ["TLS13_AES_128_GCM_SHA256"]⟩
        = .ok ⟨[.tls13, .tls12], [.newer .aes128], false⟩ := by
  intro policy
  have hmade : ofPolicy policy = .ok ⟨[.tls13, .tls12], [.newer .aes128], true⟩ := by
    decide +kernel
  obtain ⟨-, -, -, -, -, -, hagain⟩ := ofPolicy_isOffer policy
  exact ⟨hmade, (hagain _ hmade).2.2 false⟩

end Negotiator

end WireFetch.Tls
