import WireFetch.Proofs.Head.Captured
import WireFetch.Proofs.Head.Recovery
import WireFetch.Proofs.Head.Stopped
import WireFetch.Proofs.Headers.Multimap

/-!
# How many header lines a head may have

Header lines are counted when they are read, and one more than `maxHeaders` stops the head. What
stands before markup is not counted, although it is set like the others if it is a header. So a head
tells at most `maxHeaders` entries, and one more if markup cut off a header line.

The entries of a head are taken here from its lines (`Head.entries`). The header list may be
shorter, since a key that comes again replaces what was there; the count does not see this.

Heads with too many lines have no result, so of them it is said where the reading stops: behind one
header line too many, as they were read one after the other (`ReadsHeaders`).

## Main definitions

* `Head.entryOf?`, `Head.entries` — the entries that the lines of a head tell
* `Head.Counted` — what the entries of a header block are, and how many

## Main results

* `Head.exists_counted`, `Head.counted_of_readOne` — how many entries a head tells
* `Head.readHead_tooManyHeaders_iff` — when a head has too many
* `readHead_of_count` — heads have at most `maxHeaders` header lines, or are not read
-/

namespace WireFetch

open Reading Text

namespace Head

variable {s s' s₁ s₂ : Session} {headers : Headers} {lines texts : List String}
  {block : HeaderBlock} {parsed : HeaderLine} {text : String} {pairs : List (String × String)}
  {room : Nat}

/-! ### What the lines of a head tell -/

/-- The entry that a line tells, if it is a header line. -/
def entryOf? (text : String) : Option (String × String) :=
  match headerOf text with
  | .ok entry => entry
  | .error _ => none

theorem headerOf_of_entryOf? (h : entryOf? text = some e) : headerOf text = .ok (some e) := by
  rw [entryOf?] at h
  split at h
  · next entry hentry => rw [hentry, h]
  · cases h

/-- The entries that lines tell, in their order and with all repetitions. -/
def entriesOf (texts : List String) : List (String × String) := texts.filterMap entryOf?

/-- The entries that the lines of a head tell behind its status line. -/
def entries (head : Head) : List (String × String) := entriesOf head.lines.tail

theorem entryOf?_of_readHeaderLine (h : readHeaderLine s = (.ok parsed, s')) :
    (∀ text, parsed = .blank text → entryOf? text = none) ∧
      ∀ text key value, parsed = .header text key value → entryOf? text = some (key, value) := by
  obtain ⟨line, s₁, -, h⟩ := exists_readAs h
  cases h with
  | empty => exact ⟨nofun, nofun⟩
  | fragment => exact ⟨nofun, nofun⟩
  | blank hne hsplit hheader => exact ⟨fun _ h => by cases h; rw [entryOf?, hheader], nofun⟩
  | header hne hsplit hheader => exact ⟨nofun, fun _ _ _ h => by cases h; rw [entryOf?, hheader]⟩

/-- What stands before markup is set like the lines before it. -/
theorem eq_of_withFragment {headers' : Headers}
    (h : withFragment text headers s = (.ok headers', s')) :
    headers' = (entriesOf [text]).foldl (fun headers e => headers.set e.1 e.2) headers := by
  cases hheader : headerOf text with
  | ok entry =>
    rw [withFragment, hheader] at h
    cases entry <;> cases h <;> simp [entriesOf, entryOf?, hheader]
  | error e =>
    rw [withFragment, hheader] at h
    obtain ⟨⟨⟩, s₁, -, h⟩ := exists_of_bind_eq_ok h
    cases h
    simp [entriesOf, entryOf?, hheader]

/-- What the lines `texts` tell was set, and there was `room` for all of it but what stands before
markup. -/
structure Counted (room : Nat) (headers : Headers) (texts : List String) (block : HeaderBlock) :
    Prop where
  headers_eq : block.headers
    = (entriesOf texts).foldl (fun headers e => headers.set e.1 e.2) headers
  length_le : (entriesOf texts).length ≤ room ∨
    (entriesOf texts).length = room + 1 ∧ block.bodyStarted ∧
      ∃ text ∈ texts.getLast?, (entryOf? text).isSome

/-- A line of a block that is not the last one takes some of the room. -/
theorem Counted.cons {e : String × String} (h : Counted room (headers.set e.1 e.2) texts block)
    (htext : entryOf? text = some e) : Counted (room + 1) headers (text :: texts) block := by
  have hentries : entriesOf (text :: texts) = e :: entriesOf texts :=
    List.filterMap_cons_some htext
  refine ⟨by rw [h.headers_eq, hentries, List.foldl_cons], ?_⟩
  rw [hentries, List.length_cons]
  refine h.length_le.imp Nat.succ_le_succ fun ⟨hlength, hbody, last, hlast, hsome⟩ => ?_
  refine ⟨by rw [hlength], hbody, last, ?_, hsome⟩
  cases texts with
  | nil => cases hlast
  | cons => exact hlast

theorem counted_of_afterHeaderLine {next : Headers → List String → Reading HeaderBlock}
    (hnext : ∀ {text key value}, parsed = .header text key value →
      next (headers.set key value) (text :: lines) s₁ = (.ok block, s') →
      ∃ texts, block.lines = (text :: lines).reverse ++ texts ∧
        Counted room headers (text :: texts) block)
    (hline : readHeaderLine s = (.ok parsed, s₁))
    (h : afterHeaderLine next headers lines parsed s₁ = (.ok block, s')) :
    ∃ texts, block.lines = lines.reverse ++ texts ∧ Counted room headers texts block := by
  cases parsed with
  | empty =>
    cases h
    exact ⟨[], (List.append_nil _).symm, rfl, .inl (Nat.zero_le _)⟩
  | blank text =>
    cases h
    have hnone := (entryOf?_of_readHeaderLine hline).1 text rfl
    have hentries : entriesOf [text] = [] := List.filterMap_cons_none hnone
    refine ⟨[text], List.reverse_cons, ?_, .inl ?_⟩ <;> rw [hentries]
    · rfl
    · exact Nat.zero_le _
  | fragment text =>
    obtain ⟨headers', s₂, hfragment, h⟩ := exists_of_bind_eq_ok h
    cases h
    refine ⟨[text], List.reverse_cons, eq_of_withFragment hfragment, ?_⟩
    -- this one is set whether there is room or not
    cases hentry : entryOf? text with
    | none => exact .inl (by simp [entriesOf, hentry])
    | some e =>
      have hlength : (entriesOf [text]).length = 1 := by simp [entriesOf, hentry]
      rw [hlength]
      cases room with
      | zero => exact .inr ⟨rfl, rfl, text, rfl, by rw [hentry]; rfl⟩
      | succ room => exact .inl (Nat.succ_le_succ (Nat.zero_le _))
  | header text key value =>
    obtain ⟨texts, hlines, hcounted⟩ := hnext rfl h
    exact ⟨text :: texts, by simpa using hlines, hcounted⟩

theorem exists_counted (h : readHeadersFrom room headers lines s = (.ok block, s')) :
    ∃ texts, block.lines = lines.reverse ++ texts ∧ Counted room headers texts block := by
  induction room generalizing headers lines s with
  | zero =>
    rw [readHeadersFrom_zero] at h
    obtain ⟨parsed, s₁, hline, h⟩ := exists_of_bind_eq_ok h
    exact counted_of_afterHeaderLine (fun _ hfail => by cases hfail) hline h
  | succ room ih =>
    rw [readHeadersFrom_succ] at h
    obtain ⟨parsed, s₁, hline, h⟩ := exists_of_bind_eq_ok h
    refine counted_of_afterHeaderLine (fun {text key value} hparsed hnext => ?_) hline h
    obtain ⟨texts, hlines, hcounted⟩ := ih hnext
    exact ⟨texts, hlines, hcounted.cons ((entryOf?_of_readHeaderLine hline).2 _ _ _ hparsed)⟩

/-- The header lines of one head. -/
theorem counted_of_readOne {head : Head} {bodyStarted : Bool}
    (h : readOne s = (.ok (head, bodyStarted), s')) :
    head.headers = Headers.setAll head.entries ∧
      (head.entries.length ≤ maxHeaders ∨
        head.entries.length = maxHeaders + 1 ∧ bodyStarted ∧
          ∃ text ∈ head.lines.getLast?, (entryOf? text).isSome) := by
  obtain ⟨line, s₁, s₂, block, -, -, hblock, hhead, rfl⟩ := exists_of_readOne h
  obtain ⟨texts, hlines, hcounted⟩ := exists_counted hblock
  obtain rfl : block.lines = texts := hlines
  rw [hhead]
  refine ⟨hcounted.headers_eq, hcounted.length_le.imp_right
    fun ⟨hlength, hbody, text, hlast, hsome⟩ => ⟨hlength, hbody, text, ?_, hsome⟩⟩
  rw [List.getLast?_cons, hlast]
  rfl

/-- The header lines of the head that is read, behind those that are skipped. -/
theorem counted_of_readHead {head : Head} (h : readHead s = (.ok head, s')) :
    ∃ bodyStarted, readMarked s = (.ok (head, bodyStarted), s') ∧
      head.headers = Headers.setAll head.entries ∧
        (head.entries.length ≤ maxHeaders ∨
          head.entries.length = maxHeaders + 1 ∧ bodyStarted ∧
            ∃ text ∈ head.lines.getLast?, (entryOf? text).isSome) := by
  rw [readHead_eq_map, map_eq_pure_bind] at h
  obtain ⟨⟨head', bodyStarted⟩, s₁, hmarked, h⟩ := exists_of_bind_eq_ok h
  obtain ⟨hok, rfl⟩ := Prod.mk.inj h
  obtain rfl : head' = head := Except.ok.inj hok
  obtain ⟨-, s₂, s₃, hone⟩ := exists_readOne_of_readMarkedFrom hmarked
  exact ⟨bodyStarted, hmarked, counted_of_readOne hone⟩

/-! ### Header lines that are too many -/

theorem LineStopsAt.ne_tooManyHeaders {kind : LineKind} {stop : Stop}
    (h : LineStopsAt kind s stop s') (n : Nat) : stop ≠ .failed (.tooManyHeaders n) := by
  cases h with
  | reader h => rcases h.timeout_or_io with ⟨time, rfl⟩ | ⟨cause, rfl⟩ | rfl <;> nofun
  | ended => nofun
  | tooLong hx hlength hcontent => nofun

/-- A block has too many header lines if there is one more than room for them. -/
theorem BlockStopsAt.tooManyHeaders_iff {n : Nat} :
    BlockStopsAt room s (.failed (.tooManyHeaders n)) s' ↔
      n = maxHeaders ∧ ∃ pairs, ReadsHeaders s pairs s' ∧ pairs.length = room + 1 := by
  constructor
  · intro h
    cases h with
    | line h hlength hline =>
      rcases of_readHeaderLine_eq_error hline with hline | ⟨line, -, hstop⟩
      · exact absurd rfl ((lineStopsAt_of_readLine hline).ne_tooManyHeaders n)
      · cases hstop
    | tooMany h hlength => exact ⟨rfl, _, h, hlength⟩
  · rintro ⟨rfl, pairs, h, hlength⟩
    exact .tooMany h hlength

theorem OneStopsAt.tooManyHeaders_iff {n : Nat} :
    OneStopsAt s (.failed (.tooManyHeaders n)) s' ↔
      n = maxHeaders ∧ ∃ s₁ pairs, ReadsStatus s s₁ ∧ ReadsHeaders s₁ pairs s' ∧
        pairs.length = maxHeaders + 1 := by
  constructor
  · intro h
    cases h with
    | statusLine hline => exact absurd rfl ((lineStopsAt_of_readLine hline).ne_tooManyHeaders n)
    | noStatus hline hstatus => cases statusOf_eq_error hstatus
    | headers h hblock =>
      obtain ⟨hn, pairs, hreads, hlength⟩ := BlockStopsAt.tooManyHeaders_iff.1 hblock
      exact ⟨hn, _, pairs, h, hreads, hlength⟩
  · rintro ⟨hn, s₁, pairs, h, hreads, hlength⟩
    exact .headers h (BlockStopsAt.tooManyHeaders_iff.2 ⟨hn, pairs, hreads, hlength⟩)

theorem readHead_tooManyHeaders_iff {n : Nat} :
    readHead s = (.error (.failed (.tooManyHeaders n)), s') ↔
      n = maxHeaders ∧ ∃ s₁ pairs, ComesToHeaders s s₁ ∧ ReadsHeaders s₁ pairs s' ∧
        pairs.length = maxHeaders + 1 := by
  rw [readHead_eq_error_iff]
  constructor
  · intro h
    cases h with
    | one h hone =>
      obtain ⟨hn, s₁, pairs, hstatus, hreads, hlength⟩ := OneStopsAt.tooManyHeaders_iff.1 hone
      exact ⟨hn, s₁, pairs, ⟨_, _, h, hstatus⟩, hreads, hlength⟩
  · rintro ⟨hn, s₁, pairs, ⟨room, s₂, h, hstatus⟩, hreads, hlength⟩
    exact .one h (OneStopsAt.tooManyHeaders_iff.2 ⟨hn, s₁, pairs, hstatus, hreads, hlength⟩)

/-- Where there are more header lines, there is a first one that is too many. -/
theorem ReadsHeaders.exists_of_lt {n : Nat} (h : ReadsHeaders s pairs s') (hn : n < pairs.length) :
    ∃ pairs' s₁, ReadsHeaders s pairs' s₁ ∧ pairs'.length = n + 1 := by
  induction h generalizing n with
  | nil => exact absurd hn (Nat.not_lt_zero _)
  | cons hline h ih =>
    cases n with
    | zero => exact ⟨[_], _, .cons hline .nil, rfl⟩
    | succ n =>
      obtain ⟨pairs', s₁, hreads, hlength⟩ := ih (Nat.lt_of_succ_lt_succ hn)
      exact ⟨_ :: pairs', s₁, .cons hline hreads, congrArg (· + 1) hlength⟩

/-- Header lines as they are sent are read one after the other. -/
theorem exists_readsHeaders {ls : List SpelledLine} {u : List UInt8} {behind : ByteStream}
    (h : ∀ l ∈ ls, l.IsHeader) (hu : ∃ b v, u = b :: v ∧ isFold b = false ∧ b ≠ lf)
    (hs : s.reader.Offers (ls.flatMap SpelledLine.bytes ++ u) behind) :
    ∃ s', ReadsHeaders s (ls.map (entryOf ·.text)) s' ∧ s'.reader.Offers u behind := by
  induction ls generalizing s with
  | nil => exact ⟨s, .nil, hs⟩
  | cons l ls ih =>
    have hls : ∀ l ∈ ls, l.IsHeader := fun l hl => h l (List.mem_cons_of_mem _ hl)
    obtain ⟨b, v, hcons, hb, hlf⟩ := exists_cons_flatMap_bytes hls hu
    rw [List.flatMap_cons, List.append_assoc] at hs
    obtain ⟨s₁, hline, hs₁⟩ := leads_readHeaderLine (h l (List.mem_cons_self ..))
      (l.lineEnd.fits_of_exists_cons behind ⟨b, v, hcons, hb, hlf⟩) ⟨b, v, hcons, hb⟩ s hs
    obtain ⟨s', hreads, hs'⟩ := ih hls hs₁
    exact ⟨s', .cons hline hreads, hs'⟩

end Head

open Head

/-- **A head has at most `maxHeaders` header lines.** Where a head is read, all that its lines tell
was set in its headers, a key that comes again included, and this is no more than `maxHeaders`
entries, unless markup ended the head and cut off a header line; then it may be one more. Wherever
more than `maxHeaders` header lines can be read behind a status line that `readHead` comes to, it
fails, and it fails in this way only there. -/
theorem readHead_of_count (s : Session) :
    (∀ {s' : Session} {head : Head}, readHead s = (.ok head, s') → ∃ bodyStarted,
      readMarked s = (.ok (head, bodyStarted), s') ∧
      head.headers = Headers.setAll head.entries ∧
      head.headers.size ≤ head.entries.length ∧ head.entries.length ≤ maxHeaders + 1 ∧
      ((bodyStarted = true → ∀ text ∈ head.lines.getLast?, entryOf? text = none) →
        head.entries.length ≤ maxHeaders)) ∧
    (∀ {s₁ s₂ : Session} {pairs : List (String × String)}, ComesToHeaders s s₁ →
      ReadsHeaders s₁ pairs s₂ → maxHeaders < pairs.length →
      ∃ s', readHead s = (.error (.failed (.tooManyHeaders maxHeaders)), s')) ∧
    ∀ {s' : Session} {n : Nat}, readHead s = (.error (.failed (.tooManyHeaders n)), s') →
      n = maxHeaders ∧ ∃ s₁ pairs, ComesToHeaders s s₁ ∧ ReadsHeaders s₁ pairs s' ∧
        pairs.length = maxHeaders + 1 := by
  refine ⟨fun {s' head} hread => ?_, fun {s₁ s₂ pairs} hcomes hreads hlength => ?_,
    readHead_tooManyHeaders_iff.1⟩
  · obtain ⟨bodyStarted, hmarked, hheaders, hcount⟩ := counted_of_readHead hread
    refine ⟨bodyStarted, hmarked, hheaders, ?_, ?_, fun hfragment => ?_⟩
    · rw [hheaders]
      exact Headers.size_setAll_le _
    · rcases hcount with hcount | ⟨hcount, -⟩ <;> omega
    · rcases hcount with hcount | ⟨-, hbody, text, htext, hsome⟩
      · exact hcount
      · rw [hfragment hbody text htext] at hsome
        cases hsome
  · obtain ⟨pairs', s', hreads', hlength'⟩ := hreads.exists_of_lt hlength
    exact ⟨s', readHead_tooManyHeaders_iff.2 ⟨rfl, s₁, pairs', hcomes, hreads', hlength'⟩⟩

/-- A head with a hundred header lines, each with another key, and no blank line. -/
def Head.Spelling.full : Spelling where
  statusLine := asciiBytes "H 200"
  statusEnd := .lf
  headers := (List.range maxHeaders).map fun n =>
    ⟨[(none, UInt8.ofNat (97 + n / 10)), (none, UInt8.ofNat (48 + n % 10)), (none, colon)], .lf⟩
  blankEnd := .lf

/-- The number that the key of a header line of `full` is made of. -/
def Head.Spelling.numberOf : List Char → Nat
  | [a, b] => 10 * (a.toNat - 97) + (b.toNat - 48)
  | _ => maxHeaders

theorem Head.Spelling.isHead_full : Spelling.full.IsHead 200 where
  length_le := by decide
  no_break := by decide +kernel
  statusOf_eq := by rfl
  ne_continue := by decide
  length_headers_le := by decide
  headers := by decide +kernel

/-- What markup cuts off is set even if there are a hundred headers before it. -/
theorem readHead_of_count_cut :
    let s : Session := { reader := { source :=
      [.bytes (Spelling.full.opening ++ (asciiBytes "k:v" ++ (asciiBytes "<html" ++ [62])))] } }
    ∃ head s', readHead s = (.ok head, s') ∧ head.headers.size = maxHeaders + 1 ∧
      head.entries.length = maxHeaders + 1 := by
  intro s
  have hf : IsFragment (asciiBytes "k:v") := {
    no_break := by decide +kernel
    first := by decide +kernel
    plain := by decide +kernel }
  obtain ⟨s', hread, -⟩ := leads_readHead_marker (m := asciiBytes "<html") (t := [62])
    Spelling.isHead_full hf (by decide) (by decide) s (Reader.offers_bytes _)
  obtain ⟨-, -, hheaders, -⟩ := counted_of_readHead hread
  -- the names differ, since the numbers do
  have hnumbers : (((Spelling.full.headWith 200 (asciiBytes "k:v")).entries.map
      Headers.name).map Spelling.numberOf) = List.range (maxHeaders + 1) := by decide +kernel
  have hlength : (Spelling.full.headWith 200 (asciiBytes "k:v")).entries.length
      = maxHeaders + 1 := by simpa using congrArg List.length hnumbers
  have hnodup : ((Spelling.full.headWith 200 (asciiBytes "k:v")).entries.map
      Headers.name).Nodup :=
    List.Pairwise.of_map Spelling.numberOf (fun a b => mt (congrArg _))
      (hnumbers ▸ List.nodup_range)
  refine ⟨_, s', hread, ?_, hlength⟩
  rw [hheaders, Headers.size, Headers.entries_setAll_of_nodup hnodup, hlength]

/-- A head with a key that comes a second time, and no blank line. -/
def Head.Spelling.repeated : Spelling where
  statusLine := asciiBytes "H 200"
  statusEnd := .lf
  headers := [⟨(asciiBytes "A:b").map (none, ·), .lf⟩, ⟨(asciiBytes "a:c").map (none, ·), .lf⟩]
  blankEnd := .lf

theorem Head.Spelling.isHead_repeated : Spelling.repeated.IsHead 200 where
  length_le := by decide
  no_break := by decide +kernel
  statusOf_eq := by rfl
  ne_continue := by decide
  length_headers_le := by decide
  headers := by decide +kernel

/-- A head with one header line more than there may be. -/
def Head.Spelling.overfull : Spelling where
  statusLine := asciiBytes "H 200"
  statusEnd := .lf
  headers := List.replicate (maxHeaders + 1) ⟨(asciiBytes "A:b").map (none, ·), .lf⟩
  blankEnd := .lf

/-- A key that comes twice in a head that markup ends, and one that comes too often. -/
theorem readHead_of_count_repeated :
    let s : Session := { reader := { source :=
      [.bytes (Spelling.repeated.opening ++ ([] ++ (asciiBytes "<html" ++ [62])))] } }
    let t : Session := { reader := { source := [.bytes (Spelling.overfull.opening ++ [120])] } }
    let head : Head := ⟨200, ⟨[("a", "c")]⟩, ["H 200", "A:b", "a:c", ""]⟩
    (∃ s', readHead s = (.ok head, s') ∧ head.entries = [("A", "b"), ("a", "c")] ∧
      head.headers.size ≤ head.entries.length ∧ head.entries.length ≤ maxHeaders) ∧
    ∃ t', readHead t = (.error (.failed (.tooManyHeaders maxHeaders)), t') := by
  intro s t head
  constructor
  · have hf : IsFragment [] := {
      no_break := by decide +kernel
      first := by decide +kernel
      plain := by decide +kernel }
    have hhead : Spelling.repeated.headWith 200 [] = head := by decide +kernel
    obtain ⟨s', hread, -⟩ := leads_readHead_marker (m := asciiBytes "<html") (t := [62])
      Spelling.isHead_repeated hf (by decide) (by decide) s (Reader.offers_bytes _)
    rw [hhead] at hread
    obtain ⟨bodyStarted, -, -, hsize, -, hlength⟩ := (readHead_of_count s).1 hread
    refine ⟨s', hread, by decide +kernel, hsize, hlength fun _ text htext => ?_⟩
    obtain rfl : "" = text := Option.some.inj htext
    rfl
  · have hstatusLine : Leads [] (readLine .status)
        (asciiBytes "H 200" ++ (LineEnd.lf.bytes ++
          (Spelling.overfull.headers.flatMap SpelledLine.bytes ++ [120])))
        (pure (asciiBytes "H 200")) _ :=
      leads_readLine_bytes (by decide) (by decide +kernel) nofun LineEnd.fits_lf nofun
    rw [← List.append_assoc, ← List.append_assoc, List.append_assoc (asciiBytes "H 200")]
      at hstatusLine
    obtain ⟨s₁, hline, hs₁⟩ := hstatusLine t (Reader.offers_bytes _)
    have hparsed : statusOf (decodeLine (asciiBytes "H 200")) = .ok 200 := by rfl
    have hstatus : ReadsStatus t { s₁ with notes := s₁.notes ++ [⟨.debug, .head, _⟩] } :=
      .mk hline hparsed rfl
    have hheaders : ∀ l ∈ Spelling.overfull.headers, l.IsHeader := by decide +kernel
    obtain ⟨s₂, hreads, -⟩ := exists_readsHeaders
      (s := { s₁ with notes := s₁.notes ++ [⟨.debug, .head, _⟩] }) hheaders
      ⟨120, [], rfl, by decide, by decide⟩ hs₁
    refine (readHead_of_count t).2.1 ⟨_, t, .refl, hstatus⟩ hreads ?_
    rw [List.length_map]
    decide

end WireFetch
