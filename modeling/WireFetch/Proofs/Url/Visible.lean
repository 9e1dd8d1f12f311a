import WireFetch.Proofs.Text.Report
import WireFetch.Proofs.Url.Path

/-!
# What stands in a URL

No part of a target holds a blank or a control character, so it can stand in a line of a request
between blanks. Each part has a reason of its own. Path and query are encoded, and the sets of both
hold the blank. Ports and addresses are digits with marks between them. The name of a domain is the
only part in which characters are left as they come; it is checked, but not as it is sent: a label
in ASCII form is checked by what it stands for. So one has to know that a denied character of such a
label would be one of the characters that it stands for (`mem_of_decode`), and that none is brought
in when a label is put in ASCII form (`mem_encode`).

## Main definitions

* `Url.Visible` — neither blanks nor control characters

## Main results

* `Url.Punycode.mem_encode`, `Url.Punycode.mem_of_decode` — the characters of an ASCII form
* `Url.Domain.isDenied_of_toAscii` — a domain name has no denied character
* `Target.visible_path`, `visible_hostHeader`, `visible_absoluteUri` — the texts of a target
-/

namespace WireFetch

namespace Url

open Text

variable {s t : List Char} {c : Char}

/-- No blank and no control character is in the text. -/
def Visible (s : List Char) : Prop := ∀ c ∈ s, ' ' < c

instance (s : List Char) : Decidable (Visible s) := List.decidableBAll _ _

theorem visible_nil : Visible [] := nofun

theorem visible_append : Visible (s ++ t) ↔ Visible s ∧ Visible t := List.forall_mem_append

theorem visible_cons : Visible (c :: s) ↔ ' ' < c ∧ Visible s := List.forall_mem_cons

theorem Visible.not_mem (h : Visible s) (hc : c ≤ ' ') : c ∉ s :=
  fun hmem => absurd (h c hmem) (Char.not_lt.2 hc)

/-! ### Numbers and addresses

An address is made of digits, dots and colons. Whatever is true of these is true of all its
characters. -/

section Address

variable {P : Char → Prop}

/-- Digits of any base. -/
theorem forall_mem_toDigits {b : Nat} (hb : 1 < b) (hdigit : ∀ d < b, P (Nat.digitChar d))
    (n : Nat) : ∀ c ∈ Nat.toDigits b n, P c := by
  induction n using Nat.strongRecOn with
  | ind n ih =>
    rw [Nat.toDigits_eq_if hb]
    split
    · next hn => exact List.forall_mem_singleton.2 (hdigit n hn)
    · next hn =>
      have hmod := Nat.mod_lt n (Nat.zero_lt_of_lt hb)
      exact List.forall_mem_append.2 ⟨ih _ (Nat.div_lt_self (by omega) hb),
        List.forall_mem_singleton.2 (hdigit _ hmod)⟩

theorem forall_mem_toString (hdigit : ∀ d < 10, P (Nat.digitChar d)) (n : Nat) :
    ∀ c ∈ (toString n).toList, P c := by
  rw [toList_toString]
  exact forall_mem_toDigits (by decide) hdigit n

theorem mem_intersperse {α : Type} {x separator : α} {l : List α}
    (h : x ∈ l.intersperse separator) : x = separator ∨ x ∈ l := by
  induction l with
  | nil => exact .inr h
  | cons y l ih =>
    cases l with
    | nil => exact .inr h
    | cons z l =>
      rw [List.intersperse_cons_cons] at h
      rcases List.mem_cons.1 h with rfl | h
      · exact .inr (List.mem_cons_self ..)
      · rcases List.mem_cons.1 h with rfl | h
        · exact .inl rfl
        · exact (ih h).imp_right (List.mem_cons_of_mem y)

theorem forall_mem_join {separator : String} {pieces : List String}
    (hs : ∀ c ∈ separator.toList, P c) (h : ∀ piece ∈ pieces, ∀ c ∈ piece.toList, P c) :
    ∀ c ∈ (join separator pieces).toList, P c := by
  intro c hc
  rw [join, String.toList_join] at hc
  obtain ⟨piece, hpiece, hc⟩ := List.mem_flatMap.1 hc
  rcases mem_intersperse hpiece with heq | hpiece
  · exact hs c (heq ▸ hc)
  · exact h piece hpiece c hc

theorem forall_mem_ipv4 (hdigit : ∀ d < 10, P (Nat.digitChar d)) (hdot : P '.') (n : Nat) :
    ∀ c ∈ (Ipv4.render n).toList, P c := by
  refine forall_mem_join (List.forall_mem_singleton.2 hdot) fun piece hpiece => ?_
  obtain ⟨m, -, rfl⟩ := List.mem_map.1 hpiece
  exact forall_mem_toString hdigit m

theorem forall_mem_ipv6 (hdigit : ∀ d < 16, P (Nat.digitChar d)) (hdot : P '.') (hcolon : P ':')
    (a : Ipv6.Address) : ∀ c ∈ (Ipv6.renderMapped a).toList, P c := by
  have hpieces : ∀ pieces, ∀ c ∈ (Ipv6.renderPieces pieces).toList, P c := fun pieces => by
    refine forall_mem_join (List.forall_mem_singleton.2 hcolon) fun piece hpiece => ?_
    obtain ⟨m, -, rfl⟩ := List.mem_map.1 hpiece
    rw [hexText, String.toList_ofList]
    exact forall_mem_toDigits (by decide) hdigit m
  have hf : P 'f' := hdigit 15 (by decide)
  unfold Ipv6.renderMapped
  split
  · rw [String.toList_append]
    exact List.forall_mem_append.2 ⟨by simp [hcolon, hf],
      forall_mem_ipv4 (fun d hd => hdigit d (by omega)) hdot _⟩
  · unfold Ipv6.render
    dsimp only
    split
    · exact hpieces a
    · rw [String.toList_append, String.toList_append]
      exact List.forall_mem_append.2 ⟨List.forall_mem_append.2 ⟨hpieces _, by simp [hcolon]⟩,
        hpieces _⟩

end Address

/-! ### Encoded parts -/

theorem visible_encodeByte (b : UInt8) : Visible (Percent.encodeByte b) := by
  have hdigit : ∀ d < 16, ' ' < (Nat.digitChar d).toUpper := by decide
  have hlow := Nat.mod_lt b.toNat (show 0 < 16 by decide)
  have hhigh : b.toNat / 16 < 16 := Nat.div_lt_of_lt_mul b.toNat_lt
  exact visible_cons.2 ⟨by decide, visible_cons.2 ⟨hdigit _ hhigh,
    visible_cons.2 ⟨hdigit _ hlow, visible_nil⟩⟩⟩

/-- A set with the blank leaves nothing that is not visible. -/
theorem visible_percent {set : Percent.EncodeSet} (hset : ' ' ∈ set) (s : List Char) :
    Visible (Percent.encode set s) := by
  intro c hc
  obtain ⟨d, -, hc⟩ := List.mem_flatMap.1 hc
  split at hc
  · obtain ⟨b, -, hc⟩ := List.mem_flatMap.1 hc
    exact visible_encodeByte b c hc
  · next hencodes =>
    obtain rfl := List.mem_singleton.1 hc
    have hblank : c ≠ ' ' := by
      rintro rfl
      simp [Percent.encodes, hset] at hencodes
    have hcontrol : ¬ c < ' ' := fun h => hencodes (by simp [Percent.encodes, h])
    grind

/-! ### Names -/

namespace Punycode

/-- A digit is a letter or a digit. -/
theorem isDenied_digitChar {d : Nat} (hd : d < base) : Domain.isDenied (digitChar d) = false := by
  have hall : ∀ d < 36, Domain.isDenied (digitChar d) = false := by decide
  exact hall d hd

theorem isDenied_of_digit? (h : (digit? c).isSome) : Domain.isDenied c = false := by
  have hall : ∀ n < 128, (digit? (Char.ofNat n)).isSome →
      Domain.isDenied (Char.ofNat n) = false := by decide
  have hascii : c.toNat < 128 := by
    unfold digit? at h
    split at h
    · next hc => exact Nat.lt_of_le_of_lt (show c.toNat ≤ 'z'.toNat from hc.2) (by decide)
    · split at h
      · next hc => exact Nat.lt_of_le_of_lt (show c.toNat ≤ 'Z'.toNat from hc.2) (by decide)
      · split at h
        · next hc =>
          simp only [Char.isDigit, Bool.and_eq_true, decide_eq_true_eq] at hc
          exact Nat.lt_of_le_of_lt (show c.toNat ≤ '9'.toNat from hc.2) (by decide)
        · cases h
  rw [← Char.ofNat_toNat c] at h ⊢
  exact hall c.toNat hascii h

theorem mem_digits {bias k q : Nat} (h : c ∈ digits bias k q) : ∃ d < base, c = digitChar d := by
  have hbounds : ∀ k, 1 ≤ threshold k bias ∧ threshold k bias ≤ 26 := fun k => by
    unfold threshold; omega
  fun_induction digits bias k q with
  | case1 k q t hq =>
    have hlt : t < base := Nat.lt_of_le_of_lt (hbounds k).2 (by decide)
    exact ⟨q, Nat.lt_trans hq hlt, List.mem_singleton.1 h⟩
  | case2 k q t hq ih =>
    rcases List.mem_cons.1 h with rfl | h
    · have hlt : t < base := Nat.lt_of_le_of_lt (hbounds k).2 (by decide)
      have hmod := Nat.mod_lt (q - t) (Nat.sub_pos_of_lt hlt)
      exact ⟨_, by omega, rfl⟩
    · exact ih h

theorem mem_output_pass {text : List Char} {ascii code : Nat} {e : Encoder}
    (h : c ∈ (text.foldl (Encoder.pass ascii code) e).output) :
    c ∈ e.output ∨ ∃ d < base, c = digitChar d := by
  induction text generalizing e with
  | nil => exact .inl h
  | cons x text ih =>
    rw [List.foldl_cons] at h
    refine (ih h).elim (fun hout => ?_) .inr
    unfold Encoder.pass at hout
    split at hout
    · exact .inl hout
    · split at hout
      · exact (List.mem_append.1 hout).imp_right mem_digits
      · exact .inl hout

theorem mem_encodeFrom {text : List Char} {ascii next : Nat} {codes : List Nat} {e : Encoder}
    (h : c ∈ encodeFrom text ascii codes next e) :
    c ∈ e.output ∨ ∃ d < base, c = digitChar d := by
  induction codes generalizing next e with
  | nil => exact .inl h
  | cons code codes ih =>
    rw [encodeFrom] at h
    rcases ih h with hout | hdigit
    · simpa only using mem_output_pass hout
    · exact .inr hdigit

/-- An ASCII form has characters of the text, a hyphen, and digits. -/
theorem mem_encode {text : List Char} (h : c ∈ encode text) :
    c ∈ text ∨ c = '-' ∨ ∃ d < base, c = digitChar d := by
  unfold encode at h
  rcases mem_encodeFrom h with hout | hdigit
  · dsimp only at hout
    split at hout
    · cases hout
    · rcases List.mem_append.1 hout with hascii | hhyphen
      · exact .inl ((List.mem_filter.1 hascii).1)
      · exact .inr (.inl (List.mem_singleton.1 hhyphen))
  · exact .inr (.inr hdigit)

/-- To insert a character drops none. -/
theorem mem_output_insert {d d' : Decoder} {position : Nat} (h : d.insert position = some d')
    (hc : c ∈ d.output) : c ∈ d'.output := by
  unfold Decoder.insert at h
  obtain ⟨x, -, h⟩ := Option.bind_eq_some_iff.1 h
  cases h
  rw [← List.take_append_drop (position % (d.output.length + 1)) d.output] at hc
  exact (List.mem_append.1 hc).elim (fun h => List.mem_append_left _ h)
    fun h => List.mem_append_right _ (List.mem_cons_of_mem x h)

/-- What has been read stays, and only digits are read. -/
theorem mem_of_decodeFrom {d : Decoder} {position weight k : Nat} {reading : List Char}
    (h : decodeFrom d position weight k s = some reading) :
    (∀ c ∈ d.output, c ∈ reading) ∧ ∀ c ∈ s, (digit? c).isSome := by
  induction s generalizing d position weight k with
  | nil =>
    rw [decodeFrom] at h
    split at h
    · exact ⟨fun c hc => Option.some.inj h ▸ hc, nofun⟩
    · cases h
  | cons x s ih =>
    rw [decodeFrom] at h
    obtain ⟨digit, hdigit, h⟩ := Option.bind_eq_some_iff.1 h
    have hx : (digit? x).isSome := Option.isSome_of_eq_some hdigit
    dsimp only at h
    split at h
    · obtain ⟨d', hinsert, h⟩ := Option.bind_eq_some_iff.1 h
      obtain ⟨hkept, hdigits⟩ := ih h
      exact ⟨fun c hc => hkept c (mem_output_insert hinsert hc),
        List.forall_mem_cons.2 ⟨hx, hdigits⟩⟩
    · obtain ⟨hkept, hdigits⟩ := ih h
      exact ⟨hkept, List.forall_mem_cons.2 ⟨hx, hdigits⟩⟩

/-- A text is what stands before its last hyphen, the hyphen, and what stands behind it. -/
theorem mem_before_last (h : c ∈ s) :
    let tail := (s.reverse.takeWhile (· ≠ '-')).reverse
    c ∈ s.take (s.length - tail.length - 1) ∨ c = '-' ∨ c ∈ tail := by
  intro tail
  by_cases hhyphen : '-' ∈ s
  · obtain ⟨before, behind, rfl, hnot⟩ := exists_append_of_mem hhyphen
    have htail : tail = behind := reverse_takeWhile_reverse before hnot
    have htake : (before ++ '-' :: behind).take ((before ++ '-' :: behind).length
        - behind.length - 1) = before := List.take_left' (by simp; omega)
    rw [htail, htake]
    exact (List.mem_append.1 h).imp_right List.mem_cons.1
  · have htail : tail = s := reverse_takeWhile_reverse_of_not_mem hhyphen
    exact .inr (.inr (htail ▸ h))

/-- A character of an ASCII form is one of those that the form stands for, a hyphen or a digit. -/
theorem mem_of_decode {reading : List Char} (h : decode s = some reading) (hc : c ∈ s) :
    c ∈ reading ∨ c = '-' ∨ (digit? c).isSome := by
  unfold decode at h
  dsimp only at h
  split at h
  · obtain ⟨hkept, hdigits⟩ := mem_of_decodeFrom h
    split at hdigits
    · exact .inr (.inr (hdigits c hc))
    · exact (mem_before_last hc).imp (hkept c) (Or.imp_right (hdigits c))
  · cases h

end Punycode

theorem exists_of_mem_mapM {α β : Type} {f : α → Option β} {l : List α} {l' : List β} {y : β}
    (h : l.mapM f = some l') (hy : y ∈ l') : ∃ x, f x = some y := by
  induction l generalizing l' with
  | nil =>
    cases h
    cases hy
  | cons x l ih =>
    rw [List.mapM_cons] at h
    obtain ⟨z, hz, h⟩ := Option.bind_eq_some_iff.1 h
    obtain ⟨rest, hrest, h⟩ := Option.bind_eq_some_iff.1 h
    cases h
    rcases List.mem_cons.1 hy with rfl | hy
    · exact ⟨x, hz⟩
    · exact ih hrest hy

namespace Domain

theorem visible_of_isDenied (h : ∀ c ∈ s, isDenied c = false) : Visible s := fun c hc => by
  have hnot := h c hc
  simp only [isDenied, Bool.or_eq_false_iff, decide_eq_false_iff_not] at hnot
  exact Char.not_le.1 hnot.1.1

/-- A label is sent with characters of what it reads, with hyphens and with digits. -/
theorem Label.mem_of_sent {label : List Char} {l : Label} (h : ofMapped label = some l)
    (hc : c ∈ l.sent) : c ∈ l.reading ∨ isDenied c = false := by
  have hxn : ∀ c ∈ asciiPrefix, isDenied c = false := by
    simpa using show (asciiPrefix.all fun c => !isDenied c) = true by decide
  have hhyphen : isDenied '-' = false := by decide
  unfold ofMapped at h
  split at h
  · next hascii =>
    obtain ⟨reading, hreading, h⟩ := Option.bind_eq_some_iff.1 h
    split at h
    · cases h
    · cases h
      obtain ⟨rest, rfl⟩ := List.isPrefixOf_iff_prefix.1 hascii
      rcases List.mem_append.1 hc with hc | hc
      · exact .inr (hxn c hc)
      · rw [List.drop_left] at hreading
        rcases Punycode.mem_of_decode hreading hc with hread | rfl | hdigit
        · exact .inl hread
        · exact .inr hhyphen
        · exact .inr (Punycode.isDenied_of_digit? hdigit)
  · split at h
    · cases h
      exact .inl hc
    · split at h
      · cases h
        rcases List.mem_append.1 hc with hc | hc
        · exact .inr (hxn c hc)
        · rcases Punycode.mem_encode hc with htext | rfl | ⟨d, hd, rfl⟩
          · exact .inl htext
          · exact .inr hhyphen
          · exact .inr (Punycode.isDenied_digitChar hd)
      · cases h

/-- A domain name has no denied character. -/
theorem isDenied_of_toAscii {name sent : List Char} (h : toAscii name = some sent) :
    ∀ c ∈ sent, isDenied c = false := by
  unfold toAscii at h
  obtain ⟨mapped, -, h⟩ := Option.bind_eq_some_iff.1 h
  obtain ⟨labels, hlabels, h⟩ := Option.bind_eq_some_iff.1 h
  dsimp only at h
  split at h
  · cases h
  · next hreadings =>
    have hsent : ∀ l ∈ labels, ∀ c ∈ l.sent, isDenied c = false := by
      intro l hl c hc
      obtain ⟨label, hlabel⟩ := exists_of_mem_mapM hlabels hl
      rcases Label.mem_of_sent hlabel hc with hread | hnot
      · simp only [List.any_map, List.any_eq_true, Function.comp_apply, not_exists, not_and,
          Bool.not_eq_true] at hreadings
        exact hreadings l hl c hread
      · exact hnot
    split at h
    · cases h
    · cases h
      intro c hc
      obtain ⟨piece, hpiece, hc⟩ := List.mem_flatten.1 hc
      rcases mem_intersperse hpiece with rfl | hpiece
      · rw [List.mem_singleton.1 hc]
        decide
      · obtain ⟨l, hl, rfl⟩ := List.mem_map.1 hpiece
        exact hsent l hl c hc

end Domain

/-! ### Paths -/

theorem mem_dropSegment {segment : List Char} {before : List (List Char)}
    (h : segment ∈ dropSegment before) : segment ∈ before := by
  cases before with
  | nil => exact h
  | cons first before =>
    rw [dropSegment] at h
    split at h
    · exact h
    · exact List.mem_cons_of_mem first h

/-- To resolve dots brings in no segment but empty ones. -/
theorem mem_of_mem_resolve {segment : List Char} {before segments : List (List Char)}
    (h : segment ∈ resolve before segments) :
    segment = [] ∨ segment ∈ before ∨ segment ∈ segments := by
  fun_induction resolve before segments <;> grind [mem_dropSegment]

theorem visible_renderPath (special : Bool) (s : List Char) :
    Visible (renderPath special s).toList := by
  intro c hc
  rw [renderPath, String.toList_ofList] at hc
  obtain ⟨segment, hsegment, hc⟩ := List.mem_flatMap.1 hc
  rcases List.mem_cons.1 hc with rfl | hc
  · decide
  · rcases mem_of_mem_resolve hsegment with rfl | hsegment | hsegment
    · cases hc
    · cases hsegment
    · obtain ⟨plain, -, rfl⟩ := List.mem_map.1 hsegment
      exact visible_percent (by decide) plain c hc

/-! ### Hosts -/

/-- The host of a web URL is an address, or a name in ASCII without denied characters. -/
theorem cases_of_parseWeb {host : Host} (h : Host.parseWeb s = some host) :
    (∃ a, host = .ipv6 a) ∨ (∃ n, host = .ipv4 n) ∨
      ∃ name, host = .domain (String.ofList name) ∧ ∀ c ∈ name, Domain.isDenied c = false := by
  unfold Host.parseWeb at h
  split at h
  · next hbracketed =>
    subst h
    unfold Host.bracketed at hbracketed
    split at hbracketed
    · split at hbracketed
      · obtain ⟨a, -, rfl⟩ := Option.map_eq_some_iff.1 (Option.some.inj hbracketed)
        exact .inl ⟨a, rfl⟩
      · cases hbracketed
    · cases hbracketed
  · obtain ⟨text, -, h⟩ := Option.bind_eq_some_iff.1 h
    obtain ⟨name, hname, h⟩ := Option.bind_eq_some_iff.1 h
    split at h
    · cases h
    · split at h
      · obtain ⟨n, -, rfl⟩ := Option.map_eq_some_iff.1 h
        exact .inr (.inl ⟨n, rfl⟩)
      · cases h
        exact .inr (.inr ⟨name, rfl, Domain.isDenied_of_toAscii hname⟩)

theorem visible_parseWeb {host : Host} (h : Host.parseWeb s = some host) :
    Visible host.name.toList := by
  obtain ⟨a, rfl⟩ | ⟨n, rfl⟩ | ⟨name, rfl, hname⟩ := cases_of_parseWeb h
  · exact forall_mem_ipv6 (by decide) (by decide) (by decide) a
  · exact forall_mem_ipv4 (by decide) (by decide) n
  · rw [Host.name, String.toList_ofList]
    exact Domain.visible_of_isDenied hname

end Url

namespace Target

open Url

variable {text : String} {url : Url} {t : Target}

theorem visible_hostText {host : Host} (h : Visible host.name.toList) :
    Visible (hostText host).toList := by
  cases host with
  | ipv6 a =>
    rw [hostText, String.toList_append, String.toList_append]
    exact visible_append.2 ⟨visible_append.2 ⟨by decide, h⟩, by decide⟩
  | _ => exact h

/-- What is asked for has no blank. -/
theorem visible_path (hurl : parseUrl text = some url) (h : ofUrl url = .ok t) :
    Visible t.path.toList := by
  obtain ⟨hscheme, hpath⟩ := scheme_of_ofUrl h
  obtain ⟨-, ⟨s, hs⟩, query, hquery⟩ := of_parseUrl_web hurl hscheme
  rw [hpath, String.toList_append]
  refine visible_append.2 ⟨?_, ?_⟩
  · split
    · decide
    · exact hs ▸ visible_renderPath true s
  · rw [hquery]
    cases query with
    | none => exact visible_nil
    | some q =>
      rw [Option.map_some, announced, String.toList_append]
      refine visible_append.2 ⟨by decide, ?_⟩
      rw [String.toList_ofList]
      exact visible_percent (by decide) q

/-- The host of a request has no blank. -/
theorem visible_hostHeader (hurl : parseUrl text = some url) (h : ofUrl url = .ok t) :
    Visible t.hostHeader.toList := by
  obtain ⟨s, host, -, hs, hhost, -⟩ := exists_host hurl h
  have hvisible : Visible t.host.toList := hhost ▸ visible_hostText (visible_parseWeb hs)
  unfold hostHeader
  split
  · rw [String.toList_append, String.toList_append]
    exact visible_append.2 ⟨visible_append.2 ⟨hvisible, by decide⟩,
      forall_mem_toString (by decide) t.port⟩
  · exact hvisible

/-- A whole URL has no blank. -/
theorem visible_absoluteUri (hurl : parseUrl text = some url) (h : ofUrl url = .ok t) :
    Visible t.absoluteUri.toList := by
  rw [absoluteUri, String.toList_append, String.toList_append, String.toList_append]
  refine visible_append.2 ⟨visible_append.2 ⟨visible_append.2 ⟨?_, by decide⟩,
    visible_hostHeader hurl h⟩, visible_path hurl h⟩
  cases t.scheme <;> decide

end Target

end WireFetch
