import WireFetch.Proofs.Head.Complete
import WireFetch.Proofs.Head.Stopped
import WireFetch.Proofs.Reading.Bounded

/-!
# How much is read for a head

The three loops of a head count down the room for bytes, for header lines and for heads, so they
come to an end on a stream that does not. What they take from it until then is bounded by a product
(`Head.bound`). A byte of a line costs at most three: a fold may stand behind CR LF. But the first
byte of a line costs one, since no fold comes before it.

Markup that is handed back costs nothing more: it was taken for the same line.

The limit on the length of a line is exact. A line is stopped for its length just when it goes on
for one byte more than `maxLineLength` (`Head.lineStopsAt_of_readLine`,
`Head.leads_readLine_tooLong`), where a fold counts with its white space and without its line break.

## Main definitions

* `Head.lineBound`, `Head.bound` — the most that a line and a head take
* `Head.ComesToLine` — where a line is read

## Main results

* `Head.bounded_readLine`, `Head.bounded_readHeaderLine`, `Head.bounded_readHead` — the bounds
* `Head.leads_readLine_of_goesOn`, `Head.leads_readLine_of_marker` — lines that are not too long
* `readHead_of_bound` — what a head takes, and when its lines are too long
-/

namespace WireFetch

open Reading Text

namespace Head

variable {kind : LineKind} {room n : Nat} {line : List UInt8}

/-! ### Lines -/

/-- The most that a line takes. -/
def lineBound : Nat := 3 * maxLineLength + 2

theorem bounded_skipLineFeed : Bounded 1 skipLineFeed := by
  refine (bounded_peekByte.bind fun next => ?_).mono (Nat.le_of_eq (Nat.zero_add 1))
  split
  · exact bounded_readByte.bind fun _ => bounded_pure ()
  · exact (bounded_pure ()).mono (Nat.zero_le 1)

theorem bounded_skipBreak (b : UInt8) : Bounded 1 (skipBreak b) := by
  unfold skipBreak
  split
  · exact bounded_skipLineFeed
  · exact (bounded_pure ()).mono (Nat.zero_le 1)

theorem bounded_takeFold : Bounded 1 takeFold := by
  refine (bounded_peekByte.bind fun next => ?_).mono (Nat.le_of_eq (Nat.zero_add 1))
  cases next with
  | none => exact (bounded_pure none).mono (Nat.zero_le 1)
  | some b =>
    dsimp only
    split
    · exact bounded_readByte.bind fun _ => bounded_pure _
    · exact (bounded_pure none).mono (Nat.zero_le 1)

theorem bounded_afterBreak (h : ∀ line, Bounded n (readLineFrom kind room line))
    (line : List UInt8) : Bounded (1 + n) (afterBreak kind room line) := by
  unfold afterBreak
  split
  · refine bounded_takeFold.bind fun fold => ?_
    cases fold with
    | none => exact (bounded_pure _).mono (Nat.zero_le n)
    | some fold => exact h _
  · exact (bounded_pure _).mono (Nat.zero_le _)

theorem bounded_readLineFrom (room : Nat) (line : List UInt8) :
    Bounded (3 * room) (readLineFrom kind room line) := by
  induction room generalizing line with
  | zero => exact bounded_fail _
  | succ room ih =>
    rw [readLineFrom_succ]
    have hafter : ∀ next, Bounded (1 + (1 + 3 * room)) (afterByte kind room line next) := by
      intro next
      cases next with
      | none => exact (bounded_fail _).mono (Nat.zero_le _)
      | some b =>
        rw [afterByte]
        split
        · exact (bounded_skipBreak b).bind fun _ => bounded_afterBreak ih line
        · split
          · exact (bounded_pure _).mono (Nat.zero_le _)
          · exact (ih _).mono (by omega)
    exact (bounded_readByte.bind hafter).mono (by omega)

/-- The first byte of a line is no fold. -/
theorem bounded_readLine : Bounded lineBound (readLine kind) := by
  rw [readLine, readLineFrom_succ]
  have hafter : ∀ next, Bounded (1 + 3 * maxLineLength) (afterByte kind maxLineLength [] next) := by
    intro next
    cases next with
    | none => exact (bounded_fail _).mono (Nat.zero_le _)
    | some b =>
      rw [afterByte]
      split
      · refine (bounded_skipBreak b).bind fun _ => ?_
        rw [afterBreak_of_not fun h => h.2 rfl]
        exact (bounded_pure _).mono (Nat.zero_le _)
      · split
        · exact (bounded_pure _).mono (Nat.zero_le _)
        · exact (bounded_readLineFrom maxLineLength _).mono (Nat.le_add_left _ _)
  exact (bounded_readByte.bind hafter).mono (by rw [lineBound]; omega)

/-! ### Header lines -/

theorem bounded_accept {α : Type} (parsed : Except FetchError α) : Bounded 0 (accept parsed) := by
  cases parsed with
  | ok a => exact bounded_pure a
  | error e => exact bounded_fail e

theorem bounded_withFragment (fragment : String) (headers : Headers) :
    Bounded 0 (withFragment fragment headers) := by
  unfold withFragment
  split
  · exact bounded_pure _
  · exact bounded_pure _
  · exact (bounded_note _ _ _).bind fun _ => bounded_pure _

/-- Markup that is handed back was among the bytes before. -/
theorem bounded_readHeaderLine : Bounded lineBound readHeaderLine := by
  change Bounded (lineBound + 0) readHeaderLine
  refine bounded_readLine.bind_of_comesTo fun v line x hx hline => ?_
  split
  · exact ⟨.ok .empty, x, hx, Nat.le_refl _, comesTo_of_leads fun _ _ => leads_refl _⟩
  · cases hsplit : splitAtMarker line with
    | some parts =>
      obtain ⟨before, markup⟩ := parts
      refine ⟨.ok (.fragment (decodeLine before)), markup ++ x, markup_append_suffix hline hsplit,
        by simp, comesTo_of_leads fun w behind => ?_⟩
      rw [List.append_assoc]
      exact (leads_unread markup).bind_pure _
    | none =>
      dsimp only
      rcases headerOf (decodeLine line) with e | _ | ⟨key, value⟩
      · exact ⟨.error e, x, hx, Nat.le_refl _, comesTo_of_leads fun _ _ => leads_refl _⟩
      · exact ⟨.ok (.blank (decodeLine line)), x, hx, Nat.le_refl _,
          comesTo_of_leads fun _ _ => leads_refl _⟩
      · exact ⟨.ok (.header (decodeLine line) key value), x, hx, Nat.le_refl _,
          comesTo_of_leads fun _ _ => leads_refl _⟩

theorem bounded_afterHeaderLine {next : Headers → List String → Reading HeaderBlock}
    (hnext : ∀ headers lines, Bounded n (next headers lines)) (headers : Headers)
    (lines : List String) (parsed : HeaderLine) :
    Bounded n (afterHeaderLine next headers lines parsed) := by
  cases parsed with
  | empty => exact (bounded_pure _).mono (Nat.zero_le n)
  | blank text => exact (bounded_pure _).mono (Nat.zero_le n)
  | fragment text =>
    exact ((bounded_withFragment _ _).bind fun _ => bounded_pure _).mono (Nat.zero_le n)
  | header text key value => exact hnext _ _

theorem bounded_readHeadersFrom (room : Nat) (headers : Headers) (lines : List String) :
    Bounded ((room + 1) * lineBound) (readHeadersFrom room headers lines) := by
  induction room generalizing headers lines with
  | zero =>
    rw [readHeadersFrom_zero, Nat.zero_add, Nat.one_mul]
    exact bounded_readHeaderLine.bind (bounded_afterHeaderLine (fun _ _ => bounded_fail _) _ _)
  | succ room ih =>
    rw [readHeadersFrom_succ, Nat.succ_mul (room + 1), Nat.add_comm]
    exact bounded_readHeaderLine.bind (bounded_afterHeaderLine ih _ _)

/-! ### Heads -/

/-- The most that one head takes: a status line, and header lines up to the one that is too many. -/
def oneBound : Nat := (maxHeaders + 2) * lineBound

theorem bounded_readOne : Bounded oneBound readOne := by
  have hone : Bounded (lineBound + (0 + (0 + ((maxHeaders + 1) * lineBound + 0)))) readOne :=
    bounded_readLine.bind fun _ => (bounded_accept _).bind fun _ =>
      (bounded_note _ _ _).bind fun _ => (bounded_readHeadersFrom _ _ _).bind fun _ =>
        bounded_pure _
  exact hone.mono (by rw [oneBound, Nat.add_mul, Nat.add_mul]; omega)

/-- The most that is taken up to the head that is not skipped. -/
def bound : Nat := (maxInterim + 1) * oneBound

theorem bounded_afterHead {next : Reading Head} (hnext : Bounded n next) (head : Head × Bool) :
    Bounded n (afterHead next head) := by
  obtain ⟨head, bodyStarted⟩ := head
  rw [afterHead]
  split
  · split
    · exact ((bounded_note _ _ _).bind fun _ => bounded_pure _).mono (Nat.zero_le n)
    · exact (bounded_pure _).mono (Nat.zero_le n)
  · exact hnext

theorem bounded_readHeadFrom (room : Nat) :
    Bounded ((room + 1) * oneBound) (readHeadFrom room) := by
  induction room with
  | zero =>
    rw [readHeadFrom_zero, Nat.zero_add, Nat.one_mul]
    exact bounded_readOne.bind (bounded_afterHead (bounded_fail _))
  | succ room ih =>
    rw [readHeadFrom_succ, Nat.succ_mul (room + 1), Nat.add_comm]
    refine bounded_readOne.bind (bounded_afterHead ?_)
    exact ((bounded_note _ _ _).bind fun _ => ih).mono (Nat.le_of_eq (Nat.zero_add _))

theorem bounded_readHead : Bounded bound readHead := bounded_readHeadFrom maxInterim

/-! ### The longest line -/

variable {x : List SpelledByte} {u : List UInt8} {behind : ByteStream} {s s' : Session}

/-- A line that is not too long is read, and the line break behind it is taken with it. -/
theorem leads_readLine_of_goesOn {e : LineEnd} (hx : GoesOn kind [] x)
    (hlength : x.length ≤ maxLineLength) (he : e.Fits u behind)
    (hnext : kind = .header → (∀ b ∈ u.head?, isFold b = false) ∧ (u = [] → behind = [])) :
    Leads behind (readLine kind) (spell x ++ (e.bytes ++ u)) (pure (unfolded x)) u := by
  obtain ⟨room, hroom⟩ := Nat.exists_eq_add_of_le' hlength
  have hread : readLine kind = readLineFrom kind (room + 1 + x.length) [] := by
    rw [readLine, hroom]
    congr 1
    omega
  have hend : Leads behind (afterBreak kind room (unfolded x).reverse) u
      (pure (unfolded x).reverse.reverse) u := by
    cases u with
    | nil =>
      by_cases hkind : kind = .header
      · obtain rfl := (hnext hkind).2 rfl
        exact leads_afterBreak_nil
      · rw [afterBreak_of_not fun h => hkind h.1]
        exact leads_refl _
    | cons b u => exact leads_afterBreak_byte fun hkind _ => (hnext hkind).1 b rfl
  rw [List.reverse_reverse] at hend
  rw [hread]
  refine (leads_readLineFrom_part hx.no_break hx.folds hx.first hx.plain).trans ?_
  rw [List.append_nil]
  exact (leads_readLineFrom_break he).trans hend

/-- A line in which a marker is completed before it is too long ends there. -/
theorem leads_readLine_of_marker {b : UInt8} (hx : GoesOn .header [] x)
    (hlength : x.length ≤ maxLineLength) (hcr : b ≠ cr) (hlf : b ≠ lf)
    (hmarker : endsWithMarker (b :: (unfolded x).reverse)) :
    Leads behind (readLine .header) (spell x ++ b :: u) (pure (unfolded x ++ [b])) u := by
  obtain ⟨room, hroom⟩ := Nat.exists_eq_add_of_le' hlength
  have hread : readLine .header = readLineFrom .header (room + 1 + x.length) [] := by
    rw [readLine, hroom]
    congr 1
    omega
  have hline : unfolded x ++ [b] = (b :: (unfolded x).reverse).reverse := by simp
  rw [hread, hline]
  refine (leads_readLineFrom_part hx.no_break hx.folds hx.first hx.plain).trans ?_
  rw [List.append_nil]
  exact leads_readLineFrom_marker hcr hlf hmarker

/-- Where `readHead` reads a line: a status line, or one of the header lines that there is room
for, or the one behind them. -/
inductive ComesToLine (s : Session) : LineKind → Session → Prop
  | status {room : Nat} {s₁ : Session} (h : SkipsHeads maxInterim s room s₁) :
      ComesToLine s .status s₁
  | header {pairs : List (String × String)} {s₁ s₂ : Session} (h : ComesToHeaders s s₁)
      (hreads : ReadsHeaders s₁ pairs s₂) (hlength : pairs.length ≤ maxHeaders) :
      ComesToLine s .header s₂

/-- What stops a line stops the head. -/
theorem readHead_of_comesToLine {s₁ : Session} {stop : Stop} (h : ComesToLine s kind s₁)
    (hline : readLine kind s₁ = (.error stop, s')) : readHead s = (.error stop, s') := by
  rw [readHead_eq_error_iff]
  cases h with
  | status h => exact .one h (.statusLine hline)
  | header h hreads hlength =>
    obtain ⟨room, s₂, hskips, hstatus⟩ := h
    have hheader : readHeaderLine s₁ = (.error stop, s') := by
      rw [readHeaderLine, bind_of_error hline]
    exact .one hskips (.headers hstatus (.line hreads hlength hheader))

/-- A head has a line that is too long only if there is one. -/
theorem exists_comesToLine_of_readHead {n : Nat}
    (h : readHead s = (.error (.failed (.headLineTooLong n)), s')) :
    ∃ kind s₁, ComesToLine s kind s₁ ∧
      readLine kind s₁ = (.error (.failed (.headLineTooLong n)), s') := by
  rw [readHead_eq_error_iff] at h
  cases h with
  | one h hone =>
    cases hone with
    | statusLine hline => exact ⟨.status, _, .status h, hline⟩
    | noStatus hline hstatus => cases statusOf_eq_error hstatus
    | headers hstatus hblock =>
      cases hblock with
      | line hreads hlength hline =>
        rcases of_readHeaderLine_eq_error hline with hline | ⟨line, -, hstop⟩
        · exact ⟨.header, _, .header ⟨_, _, h, hstatus⟩ hreads hlength, hline⟩
        · cases hstop

end Head

open Head

/-- **What is read for a head is bounded, and so is a line.** The outcome and the bytes that are
taken for it, at most `bound`, depend on the first `bound + 1` bytes only, or on all of them if the
stream ends before; whatever comes behind them, a head or a failure is there. Wherever a line is
read, it fails for its length just when it goes on for one byte more than `maxLineLength`, line
breaks not counted, and right behind this byte; a line that is shorter, or that a marker ends
before, is read. -/
theorem readHead_of_bound :
    bound = 6 * 102 * (3 * 16384 + 2) ∧ maxLineLength = 16384 ∧
    (∀ u : List UInt8, ∃ (result : Except FetchError Head) (taken : Nat), taken ≤ bound ∧
      ∀ {s : Session} {v : List UInt8} {behind : ByteStream}, s.reader.Offers v behind →
        v.take (bound + 1) = u.take (bound + 1) → (bound < v.length ∨ behind = []) →
        ∃ s', readHead s = (result.mapError Stop.failed, s') ∧
          s'.reader.Offers (v.drop taken) behind) ∧
    -- a line that is too long, and where else a head fails for this reason
    (∀ {kind : LineKind} {x : List SpelledByte} {u : List UInt8} {behind : ByteStream}
      {s s₁ : Session}, ComesToLine s kind s₁ → GoesOn kind [] x →
      x.length = maxLineLength + 1 → s₁.reader.Offers (spell x ++ u) behind →
      ∃ s', readHead s = (.error (.failed (.headLineTooLong maxLineLength)), s') ∧
        s'.reader.Offers u behind) ∧
    (∀ {s s' : Session} {n : Nat}, readHead s = (.error (.failed (.headLineTooLong n)), s') →
      n = maxLineLength ∧ ∃ kind s₁ x, ComesToLine s kind s₁ ∧ GoesOn kind [] x ∧
        x.length = maxLineLength + 1 ∧ s₁.reader.content = spell x ++ s'.reader.content) ∧
    -- lines that are not too long
    (∀ {kind : LineKind} {x : List SpelledByte} {e : LineEnd} {u : List UInt8}
      {behind : ByteStream} {s : Session}, GoesOn kind [] x → x.length ≤ maxLineLength →
      e.Fits u behind →
      (kind = .header → (∀ b ∈ u.head?, isFold b = false) ∧ (u = [] → behind = [])) →
      s.reader.Offers (spell x ++ (e.bytes ++ u)) behind →
      ∃ s', readLine kind s = (.ok (unfolded x), s') ∧ s'.reader.Offers u behind) ∧
    ∀ {x : List SpelledByte} {b : UInt8} {u : List UInt8} {behind : ByteStream} {s : Session},
      GoesOn .header [] x → x.length ≤ maxLineLength → b ≠ cr → b ≠ lf →
      endsWithMarker (b :: (unfolded x).reverse) → s.reader.Offers (spell x ++ b :: u) behind →
      ∃ s', readLine .header s = (.ok (unfolded x ++ [b]), s') ∧ s'.reader.Offers u behind := by
  refine ⟨rfl, rfl, bounded_readHead.exists_outcome,
    fun {kind x u behind s s₁} hcomes hx hlength hs => ?_, fun {s s' n} h => ?_,
    fun hx hlength he hnext hs => leads_readLine_of_goesOn hx hlength he hnext _ hs,
    fun hx hlength hcr hlf hmarker hs => leads_readLine_of_marker hx hlength hcr hlf hmarker _ hs⟩
  · obtain ⟨s', hline, hs'⟩ := leads_readLine_tooLong hx hlength s₁ hs
    exact ⟨s', readHead_of_comesToLine hcomes hline, hs'⟩
  · obtain ⟨kind, s₁, hcomes, hline⟩ := exists_comesToLine_of_readHead h
    cases lineStopsAt_of_readLine hline with
    | reader hstop => rcases hstop.timeout_or_io with ⟨time, h⟩ | ⟨cause, h⟩ | h <;> cases h
    | tooLong hx hlength hcontent => exact ⟨rfl, kind, s₁, _, hcomes, hx, hlength, hcontent⟩

/-- A status line without an end and a header line with a fold. -/
theorem readHead_of_bound_endless :
    let long : List SpelledByte := List.replicate (maxLineLength + 1) (none, 97)
    let s : Session := { reader := { source := [.bytes (spell long), .stall] } }
    let t : Session := { reader := { source := [.bytes (List.replicate (bound + 1) 97), .stall] } }
    let folded : Session := { reader := { source := [.bytes (asciiBytes "a:\r\n b\rc")] } }
    let cut : Session := { reader := { source := [.bytes (asciiBytes "a:<html>"), .stall] } }
    (∃ s', readHead s = (.error (.failed (.headLineTooLong 16384)), s') ∧
      s'.reader.Offers [] [.stall] ∧ ∃ kind s₁ x, ComesToLine s kind s₁ ∧ GoesOn kind [] x ∧
        x.length = 16385 ∧ s₁.reader.content = spell x ++ s'.reader.content) ∧
    (∃ (result : Except FetchError Head) (t' : Session),
      readHead t = (result.mapError Stop.failed, t')) ∧
    (∃ s', readLine .header folded = (.ok (asciiBytes "a: b"), s')) ∧
    ∃ s', readLine .header cut = (.ok (asciiBytes "a:<html"), s') := by
  intro long s t folded cut
  obtain ⟨-, -, houtcome, htoolong, hsound, hread, hmarker⟩ := readHead_of_bound
  have hlong : GoesOn .status [] long := by
    refine ⟨fun y hy => ?_, fun y hy => ?_, fun _ y hy => ?_, nofun⟩
    · rw [List.eq_of_mem_replicate hy]
      decide
    · rw [List.eq_of_mem_replicate hy]
      nofun
    · rw [List.eq_of_mem_replicate (List.mem_of_mem_head? hy)]
  refine ⟨?_, ?_, ?_, ?_⟩
  · have hs : s.reader.Offers (spell long ++ []) [.stall] := by
      rw [List.append_nil]
      exact Reader.offers_bytes_cons _ _
    obtain ⟨s', h, hs'⟩ := htoolong (.status .refl) hlong List.length_replicate hs
    obtain ⟨-, hline⟩ := hsound h
    exact ⟨s', h, hs', hline⟩
  · obtain ⟨result, taken, -, h⟩ := houtcome (List.replicate (bound + 1) 97)
    have hlength : bound < (List.replicate (bound + 1) (97 : UInt8)).length := by
      rw [List.length_replicate]
      exact Nat.lt_succ_self bound
    obtain ⟨t', ht, -⟩ := h (s := t) (Reader.offers_bytes_cons _ [.stall]) rfl (.inl hlength)
    exact ⟨result, t', ht⟩
  · let x : List SpelledByte := [(none, 97), (none, 58), (some .crlf, 32), (none, 98)]
    have hx : GoesOn .header [] x :=
      ⟨by decide, by decide, by decide, fun _ => by unfold IsPlain; decide⟩
    have hs : folded.reader.Offers (spell x ++ (LineEnd.cr.bytes ++ [99])) [] :=
      Reader.offers_bytes _
    have hfits : LineEnd.cr.Fits [99] [] := LineEnd.fits_cr.2 ⟨by decide, fun _ => rfl⟩
    have hnext : ∀ b ∈ [(99 : UInt8)].head?, isFold b = false := fun b hb => by
      cases hb
      decide
    obtain ⟨s', h, -⟩ := hread hx (by decide) hfits (fun _ => ⟨hnext, nofun⟩) hs
    exact ⟨s', h⟩
  · let x : List SpelledByte := (asciiBytes "a:<htm").map (none, ·)
    have hx : GoesOn .header [] x :=
      ⟨by decide +kernel, by decide +kernel, by decide +kernel, fun _ => by
        unfold IsPlain
        decide +kernel⟩
    have hs : cut.reader.Offers (spell x ++ 108 :: [62]) [.stall] := Reader.offers_bytes_cons _ _
    obtain ⟨s', h, -⟩ := hmarker hx (by decide) (by decide) (by decide) (by decide +kernel) hs
    exact ⟨s', h⟩

end WireFetch
