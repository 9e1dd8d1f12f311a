import WireFetch.Proofs.Head.Agree
import WireFetch.Proofs.Head.Complete
import WireFetch.Proofs.Head.Consumed
import WireFetch.Proofs.Head.Failures
import WireFetch.Proofs.Head.Rendering
import WireFetch.Proofs.Reader.Course

/-!
# Heads that are skipped

A head with the status 100 announces another one. Nothing of it may be left when the other one is
read: no header, no line, and no byte more or less on the reader. Only the number of such heads
counts, and only once there are too many.

That a whole head is read up to its last byte, and no further, follows from the head alone
(`Head.IsWhole`): the blank line decides on it. So the run on the heads goes from one reader of a
chain to the next, and each of them brings the heads that are left (`Reader.Brings`). What comes
behind them is not looked at before its turn, and may be anything.

## Main definitions

* `Head.IsWhole`, `Head.IsInterim` — the bytes of one head
* `Head.StartsInterim` — a status line that tells the status 100

## Main results

* `Head.readOne_of_brings` — one head is taken off
* `Head.readHeadFrom_of_brings` — heads that are skipped
* `readHead_of_interim` — they leave no trace, or they are too many
-/

namespace WireFetch

open Reading Text

namespace Head

variable {u v : List UInt8} {head : Head} {s s' : Session} {t : Reader}

/-! ### One head -/

/-- The bytes are one whole head, ended by a blank line. -/
structure IsWhole (u : List UInt8) (head : Head) : Prop where
  endsBlank : EndsBlank u
  read : ∃ s', readOne { reader := { source := [.bytes u] } } = (.ok (head, false), s') ∧
    s'.reader.content = []

/-- A whole head is read as such before anything. -/
theorem IsWhole.leads (h : IsWhole u head) (w : List UInt8) (behind : ByteStream) :
    Leads behind readOne (u ++ w) (pure (head, false)) w := by
  obtain ⟨s', hread, hleft⟩ := h.read
  cases decided_readOne h.endsBlank (List.suffix_refl u) with
  | result a x hx hlead =>
    obtain ⟨s₁, halone, hs₁⟩ := (leads_nil hlead).alone
    rw [hread] at halone
    obtain ⟨ha, rfl⟩ := Prod.mk.inj halone
    obtain rfl := Except.ok.inj ha
    obtain rfl : [] = x := hleft.symm.trans hs₁
    exact hlead w behind
  | failure e x hx hlead =>
    obtain ⟨s₁, halone, -⟩ := (leads_nil hlead).alone
    rw [hread] at halone
    cases halone
  | ended hlead =>
    obtain ⟨s₁, halone, -⟩ := hlead.alone
    rw [hread] at halone
    cases halone

/-- Handed back to a reader, a whole head is taken off again, and the reader is what it was. -/
theorem IsWhole.readOne_unread (h : IsWhole u head) (t : Reader) :
    ∃ s', readOne { reader := t.unread u } = (.ok (head, false), s') ∧ s'.reader.Alike t := by
  have hoffers : (t.unread u).Offers (u ++ t.pending) t.source :=
    ⟨[], Reader.source_unread u t, trivial, by simp [ByteStream.data]⟩
  obtain ⟨s', hread, ahead, hsource, -, hpending⟩ :=
    h.leads t.pending t.source { reader := t.unread u } hoffers
  have hlimit := (ends_readOne (Reader.keeps_limit t.limit) { reader := t.unread u }
    (Reader.limit_unread u t)).1
  have hlength := (ends_readOne (Reader.keeps_length_source t.source.length)
    { reader := t.unread u } (Nat.le_of_eq (congrArg List.length (Reader.source_unread u t)))).1
  rw [hread] at hlimit hlength
  -- nothing was fetched, so nothing is ahead of the stream but the stream itself
  obtain rfl : ahead = [] := by
    rw [pure_apply, hsource, List.length_append] at hlength
    exact List.length_eq_zero_iff.1 (by omega)
  refine ⟨s', hread, hlimit, ?_⟩
  rw [Reader.course, Reader.course, hsource, ← hpending]
  simp [ByteStream.data]

/-- A whole head is taken off, whatever is behind it. -/
theorem readOne_of_brings (h : IsWhole u head) (hs : s.reader.Brings (u ++ v) t) :
    ∃ s', readOne s = (.ok (head, false), s') ∧ s'.reader.Brings v t := by
  obtain ⟨m, hm, hv⟩ := Reader.brings_append.1 hs
  obtain ⟨s₁, hread₁, halike⟩ := h.readOne_unread m
  obtain ⟨hresult, hleft⟩ := agree_readOne (Reader.isSimilarity_brings m) s
    { reader := m.unread u } (.inr ⟨u, hm, Reader.brings_unread_self u m⟩)
  rw [hread₁] at hresult hleft
  refine ⟨(readOne s).2, Prod.ext hresult rfl, Reader.Alike.brings ?_ hv⟩
  rcases hleft with hleft | ⟨x, hx, hx'⟩
  · exact hleft.trans halike
  · have hlength := congrArg List.length (halike.content_eq.symm.trans hx'.content_eq)
    rw [List.length_append] at hlength
    obtain rfl : x = [] := List.length_eq_zero_iff.1 (by omega)
    exact hx

/-! ### Heads that are skipped -/

/-- The bytes are one whole head with the status 100. -/
def IsInterim (u : List UInt8) : Prop := ∃ head, IsWhole u head ∧ head.status = continueStatus

/-- The next status line tells the status 100. -/
def StartsInterim (s : Session) : Prop :=
  ∃ line s', readLine .status s = (.ok line, s') ∧
    statusOf (decodeLine line) = .ok continueStatus

/-- Heads that are skipped cost room, and nothing else. -/
theorem readHeadFrom_of_brings (room : Nat) {heads : List (List UInt8)}
    (h : ∀ u ∈ heads, IsInterim u) (hs : s.reader.Brings (heads.flatten ++ v) t) :
    ∃ s', readHeadFrom (heads.length + room) s = readHeadFrom room s' ∧
      s'.reader.Brings v t := by
  induction heads generalizing s with
  | nil => exact ⟨s, by rw [List.length_nil, Nat.zero_add], hs⟩
  | cons u heads ih =>
    obtain ⟨head, hwhole, hstatus⟩ := h u (List.mem_cons_self ..)
    rw [List.flatten_cons, List.append_assoc] at hs
    obtain ⟨s₁, hread, hs₁⟩ := readOne_of_brings hwhole hs
    have hnote : ∀ message, note .debug .head message s₁
        = (.ok (), { s₁ with notes := s₁.notes ++ [⟨.debug, .head, message⟩] }) := fun _ => rfl
    rw [List.length_cons, Nat.add_right_comm, readHeadFrom_succ, bind_of_ok hread, afterHead,
      if_neg (not_not_intro hstatus), bind_of_ok (hnote _)]
    exact ih (fun u hu => h u (List.mem_cons_of_mem _ hu)) hs₁

/-- One head too many, and what is behind it is left. -/
theorem readHeadFrom_zero_of_brings (h : IsInterim u) (hs : s.reader.Brings (u ++ v) t) :
    ∃ s', readHeadFrom 0 s = (.error (.failed (.tooManyInterimResponses (maxInterim + 1))), s') ∧
      s'.reader.Brings v t := by
  obtain ⟨head, hwhole, hstatus⟩ := h
  obtain ⟨s', hread, hs'⟩ := readOne_of_brings hwhole hs
  refine ⟨s', ?_, hs'⟩
  rw [readHeadFrom_zero, bind_of_ok hread, afterHead, if_neg (not_not_intro hstatus)]
  rfl

/-! ### The head behind them -/

/-- The status of a head is that of its status line. -/
theorem status_of_readOne {bodyStarted : Bool} (h : readOne s = (.ok (head, bodyStarted), s')) :
    ∃ line s₁, readLine .status s = (.ok line, s₁) ∧
      statusOf (decodeLine line) = .ok head.status := by
  obtain ⟨line, s₁, -, -, hline, hstatus, -⟩ := exists_of_readOne h
  exact ⟨line, s₁, hline, hstatus⟩

/-- Where no head is skipped, it does not matter how many may be. -/
theorem readHeadFrom_of_not_startsInterim (h : ¬ StartsInterim s) (room room' : Nat) :
    readHeadFrom room s = readHeadFrom room' s := by
  obtain ⟨next, hnext⟩ := exists_readHeadFrom_eq room
  obtain ⟨next', hnext'⟩ := exists_readHeadFrom_eq room'
  rw [hnext, hnext']
  rcases hread : readOne s with ⟨stop | ⟨head, bodyStarted⟩, s'⟩
  · rw [bind_of_error hread, bind_of_error hread]
  · have hstatus : head.status ≠ continueStatus := fun hcontinue => by
      obtain ⟨line, s₁, hline, hstatus⟩ := status_of_readOne hread
      exact h ⟨line, s₁, hline, hcontinue ▸ hstatus⟩
    rw [bind_of_ok hread, bind_of_ok hread, afterHead, afterHead, if_pos hstatus, if_pos hstatus]

end Head

open Head

/-- **Skipped heads leave no trace.** Let a reader bring whole heads with the status 100, and then
any reader `t`. If they are not too many and `t` does not go on with another one, then the outcome
is the one on `t` itself, and so is all that can be read afterwards. If they are too many, this is
the failure, whatever `t` is, and just as many heads are gone as it takes to see it. -/
theorem readHead_of_interim {heads : List (List UInt8)} (h : ∀ u ∈ heads, IsInterim u)
    {s t : Session} (hs : s.reader.Brings heads.flatten t.reader) :
    (heads.length ≤ maxInterim → ¬ StartsInterim t →
      (readHead s).1 = (readHead t).1 ∧ (readHead s).2.reader.Alike (readHead t).2.reader) ∧
    (maxInterim < heads.length →
      (readHead s).1 = .error (.failed (.tooManyInterimResponses (maxInterim + 1))) ∧
        (readHead s).2.reader.Brings (heads.drop (maxInterim + 1)).flatten t.reader) := by
  constructor
  · intro hlength hstart
    obtain ⟨room, hroom⟩ := Nat.exists_eq_add_of_le hlength
    rw [← List.append_nil heads.flatten] at hs
    obtain ⟨s', hread, hs'⟩ := readHeadFrom_of_brings room h hs
    rw [readHead, hroom, hread, ← hroom,
      readHeadFrom_of_not_startsInterim hstart maxInterim room]
    exact agree_readHeadFrom Reader.isSimilarity_alike room s' t hs'
  · intro hlength
    have hsplit := List.take_append_drop maxInterim heads
    rw [List.drop_eq_getElem_cons hlength] at hsplit
    have hfront : (heads.take maxInterim).length = maxInterim :=
      List.length_take_of_le (Nat.le_of_lt hlength)
    rw [← hsplit, List.flatten_append, List.flatten_cons] at hs
    obtain ⟨s₁, hread, hs₁⟩ := readHeadFrom_of_brings 0
      (fun u hu => h u (List.mem_of_mem_take hu)) hs
    obtain ⟨s₂, hlast, hs₂⟩ := readHeadFrom_zero_of_brings (h _ (List.getElem_mem hlength)) hs₁
    rw [hfront, Nat.add_zero, hlast] at hread
    rw [readHead, hread]
    exact ⟨rfl, hs₂⟩

/-- A head with the status 100 and one header. -/
def Head.interimBytes : List UInt8 := asciiBytes "H 100\r\nA:b\r\n\r\n"

theorem Head.isInterim_interimBytes : IsInterim interimBytes := by
  let l : SpelledLine := ⟨(asciiBytes "A:b").map (none, ·), .crlf⟩
  have hl : l.IsHeader := by decide +kernel
  have hfits : BlockFits .crlf [] [] [l] := ⟨LineEnd.fits_crlf, LineEnd.fits_crlf⟩
  have hblock := leads_readHeadersFrom 99 ∅ [] (fun x hx => by rwa [List.mem_singleton.1 hx]) hfits
  have hlength : (asciiBytes "H 100").length ≤ maxLineLength := by decide
  have hbreak : ∀ b ∈ asciiBytes "H 100", b ≠ cr ∧ b ≠ lf := by decide +kernel
  have hstatus : statusOf (decodeLine (asciiBytes "H 100")) = .ok 100 := by rfl
  obtain ⟨s', hread, hleft⟩ :=
    (leads_readOne_of_block hlength hbreak hstatus LineEnd.fits_crlf hblock).alone
  have hblank : EndsBlank interimBytes :=
    ⟨[lf, cr, lf], by decide, asciiBytes "H 100\r\nA:b\r", by decide⟩
  exact ⟨_, ⟨hblank, s', hread, hleft⟩, rfl⟩

/-- A head to skip that arrives in pieces, the last of which ends in the middle of the next status
line; and eight such heads, six of which are read, before a stall. -/
theorem readHead_of_interim_torn :
    let rest : ByteStream := [.bytes (asciiBytes "00\n\n"), .fault ⟨.other, "gone"⟩]
    let s : Session := { reader := {
      source := [.bytes (asciiBytes "H 100\r"), .pause ⟨5⟩,
        .bytes (asciiBytes "\nA:b\r\n\r\nH 2")] ++ rest
      limit := some ⟨7⟩ } }
    let t : Session := { reader := {
      source := .bytes (asciiBytes "H 2") :: rest
      limit := some ⟨7⟩ } }
    let crowd : Session := { reader := {
      source := [.bytes (List.replicate 8 interimBytes).flatten, .stall] } }
    ((readHead s).1 = (readHead t).1 ∧ (readHead s).2.reader.Alike (readHead t).2.reader) ∧
      (readHead crowd).1 = .error (.failed (.tooManyInterimResponses 6)) ∧
      (readHead crowd).2.reader.Brings (interimBytes ++ interimBytes) { source := [.stall] } := by
  intro rest s t crowd
  have hinterim : ∀ n, ∀ u ∈ List.replicate n interimBytes, IsInterim u := fun n u hu => by
    rw [List.eq_of_mem_replicate hu]
    exact isInterim_interimBytes
  have hs : s.reader.Brings (List.replicate 1 interimBytes).flatten t.reader := by
    -- up to the pause, the line feed behind it, and up to the status line of `t`
    let m : Reader := {
      source := [.pause ⟨5⟩, .bytes (asciiBytes "\nA:b\r\n\r\nH 2")] ++ rest
      limit := some ⟨7⟩ }
    let m' : Reader := {
      buffer := ⟨asciiBytes "\nA:b\r\n\r\nH 2"⟩
      cursor := 1
      source := .bytes [] :: rest
      limit := some ⟨7⟩ }
    have hfront : s.reader.Alike (m.unread (asciiBytes "H 100\r")) := ⟨rfl, by decide⟩
    have hread : m.readByte = (.ok (some lf), m') := rfl
    have hback : m'.Alike (t.reader.unread (asciiBytes "A:b\r\n\r\n")) := ⟨rfl, by decide⟩
    have hsplit : (List.replicate 1 interimBytes).flatten
        = asciiBytes "H 100\r" ++ (lf :: asciiBytes "A:b\r\n\r\n") := by decide
    rw [hsplit]
    exact Reader.brings_append.2 ⟨m, Reader.brings_of_alike_unread hfront,
      m', hread, Reader.brings_of_alike_unread hback⟩
  have ht : ¬ StartsInterim t := by
    rintro ⟨line, s', hline, hstatus⟩
    have hlength : (asciiBytes "H 200").length ≤ maxLineLength := by decide
    have hbreak : ∀ b ∈ asciiBytes "H 200", b ≠ cr ∧ b ≠ lf := by decide +kernel
    have hlead : Leads [.fault ⟨.other, "gone"⟩] (readLine .status)
        (asciiBytes "H 200" ++ (LineEnd.lf.bytes ++ [lf])) (pure (asciiBytes "H 200")) [lf] :=
      leads_readLine_bytes hlength hbreak nofun LineEnd.fits_lf nofun
    have hoffers : t.reader.Offers (asciiBytes "H 200" ++ (LineEnd.lf.bytes ++ [lf]))
        [.fault ⟨.other, "gone"⟩] :=
      ⟨[.bytes (asciiBytes "H 2"), .bytes (asciiBytes "00\n\n")], rfl,
        by simp [ByteStream.InTime], by decide⟩
    obtain ⟨s₁, hread, -⟩ := hlead t hoffers
    have hother : statusOf (decodeLine (asciiBytes "H 200")) = .ok 200 := by rfl
    rw [hread] at hline
    cases hline
    rw [hother] at hstatus
    cases hstatus
  have hcrowd : crowd.reader.Brings (List.replicate 8 interimBytes).flatten
      { source := [.stall] } := by
    have h : crowd.reader.Alike
        (Reader.unread (List.replicate 8 interimBytes).flatten { source := [.stall] }) :=
      ⟨rfl, by decide +kernel⟩
    exact Reader.brings_of_alike_unread h
  exact ⟨(readHead_of_interim (hinterim 1) hs).1 (by decide) ht,
    (readHead_of_interim (hinterim 8) (t := { reader := { source := [.stall] } }) hcrowd).2
      (by decide)⟩

end WireFetch
