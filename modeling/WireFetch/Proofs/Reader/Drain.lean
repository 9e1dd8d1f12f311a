import WireFetch.Proofs.Reader.Keeps
import WireFetch.Proofs.Reader.Offers

/-!
# Draining a reader

`Reader.drain` reads to the end of the stream, or to the first operation that has no result. It
says of any reader, whatever may go wrong, which bytes it still delivers and how they end, so
statements about readers that may fail are made with it. It is defined with reads of a certain
size; the lemmas here say that the size is of no importance: one for each way in which a read can
turn out.

## Main results

* `Reader.drain_of_read_ok`, `drain_of_read_ok_nil`, `drain_of_read_error`
* `Reader.stop_of_drain` — what can stop a reader
* `Reader.drain_of_offers` — a reader whose bytes all come in time delivers just these
* `Reader.drain_of_offers_fault`, `drain_of_offers_stall`, `drain_of_offers_pause` — a fault, a
  stall or a long pause behind them ends them
-/

namespace WireFetch

/-- A read that brings no bytes has come to the end of the stream. -/
theorem ByteStream.eq_nil_of_next_eq_data_nil {limit : Option Duration} {s s' : ByteStream}
    (h : s.next limit = (.data [], s')) : s' = [] := by
  induction s generalizing limit with
  | nil =>
    cases h
    rfl
  | cons segment s ih =>
    cases segment with
    | bytes b =>
      by_cases hb : b = []
      · subst hb
        exact ih (by simpa [next] using h)
      · simp [next, hb, bufferSize] at h
    | fault cause => cases h
    | pause time =>
      cases limit with
      | none => exact ih h
      | some limit =>
        by_cases ht : time.nanos ≤ limit.nanos
        · exact ih (by simpa [next, ht] using h)
        · simp [next, ht] at h
    | stall => cases h

namespace Reader

variable {r r' : Reader} {n : Nat} {b : UInt8} {p u : List UInt8} {behind : ByteStream}

/-- One read of the largest size. -/
theorem drain_eq (r : Reader) :
    r.drain = match r.read ByteStream.bufferSize with
      | (.ok [], _) => ([], none)
      | (.ok (b :: bytes), r') => (b :: bytes ++ r'.drain.1, r'.drain.2)
      | (.error stop, _) => ([], some stop) := by
  rw [drain]
  split <;> rename_i h <;> rw [h]

/-- Without pending bytes all that matters is the stream. -/
theorem drain_of_pending_nil (h : r.pending = []) :
    r.drain = drain { source := r.source, limit := r.limit } := by
  have hfill : r.fill = fill { source := r.source, limit := r.limit } := by
    rw [fill_of_pending_nil h, fill_of_pending_nil rfl]
  rw [drain_eq, drain_eq, read, read, hfill]
  simp [ByteStream.bufferSize]

/-- Bytes already fetched come first. -/
theorem drain_pending (r : Reader) :
    r.drain = (r.pending ++ (drain { source := r.source, limit := r.limit }).1,
      (drain { source := r.source, limit := r.limit }).2) := by
  induction hlen : r.pending.length using Nat.strongRecOn generalizing r with
  | ind k ih =>
    cases hp : r.pending with
    | nil =>
      rw [drain_of_pending_nil hp]
      rfl
    | cons b p =>
      have hread := read_of_fill (n := ByteStream.bufferSize) (by decide) (fill_of_pending hp)
      have hleft : (r.advance (r.pending.take ByteStream.bufferSize).length).pending
          = p.drop 8191 := by
        rw [pending_advance, drop_length_take, hp]
        rfl
      have hlt : (p.drop 8191).length < k := by
        rw [← hlen, hp, List.length_drop, List.length_cons]
        omega
      have hrest := ih _ (hleft ▸ hlt) _ rfl
      rw [hleft] at hrest
      rw [hp] at hread hrest
      rw [drain_eq, hread]
      simp only [ByteStream.bufferSize, List.take_succ_cons] at hrest ⊢
      rw [hrest]
      simp [advance, ← List.append_assoc]

theorem drain_take_drop (n : Nat) (r : Reader) :
    r.drain = (r.pending.take n ++ (r.advance (r.pending.take n).length).drain.1,
      (r.advance (r.pending.take n).length).drain.2) := by
  rw [drain_pending r, drain_pending (r.advance _), pending_advance, drop_length_take]
  simp [advance, ← List.append_assoc]

theorem drain_of_source_nil (limit : Option Duration) :
    ({ source := [], limit } : Reader).drain = ([], none) := by
  rw [drain_eq]
  rfl

/-- At the end of the stream nothing is left to fetch. -/
theorem source_of_fill_ok {ok : Bool} (h : r.fill = (.ok ok, r')) (hp : r'.pending = []) :
    r' = { source := [], limit := r.limit } := by
  cases hr : r.pending with
  | cons b p =>
    rw [fill_of_pending hr] at h
    cases h
    rw [hp] at hr
    cases hr
  | nil =>
    rw [fill_of_pending_nil hr] at h
    split at h
    · next bytes source hnext =>
      cases h
      obtain rfl : bytes = [] := hp
      obtain rfl := ByteStream.eq_nil_of_next_eq_data_nil hnext
      rfl
    · cases h
    · cases h

/-- To fetch from the stream changes nothing. -/
theorem drain_of_fill_ok {ok : Bool} (h : r.fill = (.ok ok, r')) : r.drain = r'.drain := by
  rw [drain_eq r, read_of_fill (by decide) h]
  cases hp : r'.pending with
  | nil =>
    rw [source_of_fill_ok h hp, drain_of_source_nil]
    rfl
  | cons b p =>
    rw [drain_take_drop ByteStream.bufferSize r', hp]
    rfl

theorem drain_of_fill_error {stop : Stop} (h : r.fill = (.error stop, r')) :
    r.drain = ([], some stop) := by
  rw [drain_eq, read_of_fill_error (by decide) h]

/-! ### Reads of any size -/

/-- A read that brings bytes takes them from the front. -/
theorem drain_of_read_ok (h : r.read n = (.ok p, r')) :
    r.drain = (p ++ r'.drain.1, r'.drain.2) := by
  by_cases hn : n = 0
  · rw [read, if_pos hn] at h
    cases h
    rfl
  rcases hfill : r.fill with ⟨stop | ok, r₁⟩
  · rw [read_of_fill_error hn hfill] at h
    cases h
  · rw [read_of_fill hn hfill] at h
    cases h
    rw [drain_of_fill_ok hfill]
    exact drain_take_drop n r₁

/-- A read that asks for bytes and brings none has come to the end of the stream. -/
theorem drain_of_read_ok_nil (hn : n ≠ 0) (h : r.read n = (.ok [], r')) :
    r.drain = ([], none) ∧ r'.drain = ([], none) := by
  have hnil : r'.drain = ([], none) := by
    rcases hfill : r.fill with ⟨stop | ok, r₁⟩
    · rw [read_of_fill_error hn hfill] at h
      cases h
    · rw [read_of_fill hn hfill] at h
      simp only [Prod.mk.injEq, Except.ok.injEq] at h
      obtain ⟨hp, rfl⟩ := h
      have hpending := (List.take_eq_nil_iff.1 hp).resolve_left hn
      rw [hp, source_of_fill_ok hfill hpending]
      exact drain_of_source_nil _
  refine ⟨?_, hnil⟩
  rw [drain_of_read_ok h, hnil]
  rfl

theorem drain_of_read_error {stop : Stop} (h : r.read n = (.error stop, r')) :
    r.drain = ([], some stop) :=
  drain_of_fill_error (fill_of_read_error h)

/-- Bytes end because something failed, or because more of them are waited for without end. -/
theorem stop_of_drain {stop : Stop} (h : r.drain.2 = some stop) :
    (∃ e, stop = .failed e) ∨ stop = .endless ∧ r.limit = none :=
  ((keeps_limit r.limit).drain rfl h).failed_or

/-! ### Readers whose bytes come in time -/

/-- What is offered is delivered, whatever is behind. -/
theorem exists_drain_of_offers (h : r.Offers u behind) : ∃ r' : Reader,
    r'.Offers [] behind ∧ r'.limit = r.limit ∧ r.drain = (u ++ r'.drain.1, r'.drain.2) := by
  induction hlen : u.length using Nat.strongRecOn generalizing r u with
  | ind k ih =>
    cases u with
    | nil => exact ⟨r, h, rfl, rfl⟩
    | cons b u =>
      obtain ⟨p, v, r₁, hread, -, rfl, hlimit, h₁⟩ := read_of_offers Nat.one_ne_zero h
      have hlt : v.length < k := by
        rw [← hlen, List.length_cons, List.length_append]
        omega
      obtain ⟨r', h', hlimit', hdrain⟩ := ih v.length hlt h₁ rfl
      refine ⟨r', h', hlimit'.trans hlimit, ?_⟩
      rw [drain_of_read_ok hread, hdrain]
      simp

/-- A reader whose bytes all come in time delivers just these. -/
theorem drain_of_offers (h : r.Offers u []) : r.drain = (u, none) := by
  obtain ⟨r', h', -, hdrain⟩ := exists_drain_of_offers h
  obtain ⟨r'', hfill, hp, -⟩ := fill_of_offers_nil h'
  rw [hdrain, drain_of_fill_ok hfill, source_of_fill_ok hfill hp, drain_of_source_nil]
  simp

/-- What ends the reading is what the next fetch brings. -/
theorem drain_of_offers_of_next {stop : Stop} (h : r.Offers u behind)
    (hstop : ∀ left' : Option Duration, left'.isSome = r.limit.isSome →
      (∀ time time', r.limit = some time → left' = some time' → time'.nanos ≤ time.nanos) →
      (∃ cause, (behind.next left').1 = .failed cause ∧
        stop = .failed (.ofFault .read r.limit cause)) ∨
      (behind.next left').1 = .nothing ∧ stop = .late .read r.limit) :
    r.drain = (u, some stop) := by
  obtain ⟨t, h', hlimit, hdrain⟩ := exists_drain_of_offers h
  obtain ⟨s, hs, ht, hu⟩ := h'
  obtain ⟨hp, hdata⟩ := List.append_eq_nil_iff.1 hu
  obtain ⟨left', hsome, hle, hnext⟩ := ByteStream.next_of_inTime_of_data_eq_nil behind ht hdata
  rw [hlimit] at hsome hle
  have hfill : ∃ t', t.fill = (.error stop, t') := by
    rw [fill_of_pending_nil hp, hs, hnext, hlimit]
    rcases hb : behind.next left' with ⟨delivery, source'⟩
    rcases hstop left' hsome hle with ⟨cause, hcause, rfl⟩ | ⟨hnothing, rfl⟩
    · rw [hb] at hcause
      obtain rfl : delivery = .failed cause := hcause
      exact ⟨_, rfl⟩
    · rw [hb] at hnothing
      obtain rfl : delivery = .nothing := hnothing
      exact ⟨_, rfl⟩
  obtain ⟨t', hfill⟩ := hfill
  rw [hdrain, drain_of_fill_error hfill]
  simp

/-- A fault behind the bytes ends them. -/
theorem drain_of_offers_fault {cause : Fault} (h : r.Offers u (.fault cause :: behind)) :
    r.drain = (u, some (.failed (.ofFault .read r.limit cause))) :=
  drain_of_offers_of_next h fun _ _ _ => .inl ⟨cause, rfl, rfl⟩

/-- A stall behind the bytes ends them; without a limit it is waited for without end. -/
theorem drain_of_offers_stall (h : r.Offers u (.stall :: behind)) :
    r.drain = (u, some (.late .read r.limit)) :=
  drain_of_offers_of_next h fun _ _ _ => .inr ⟨rfl, rfl⟩

/-- A pause beyond the limit ends the bytes before it. -/
theorem drain_of_offers_pause {time limit : Duration} (hlimit : r.limit = some limit)
    (htime : limit.nanos < time.nanos) (h : r.Offers u (.pause time :: behind)) :
    r.drain = (u, some (.failed (.timeout .read limit))) := by
  refine drain_of_offers_of_next h fun left' hsome hle => .inr ⟨?_, by rw [hlimit]; rfl⟩
  rw [hlimit] at hsome
  obtain ⟨left, rfl⟩ := Option.isSome_iff_exists.1 hsome
  have hlt : ¬ time.nanos ≤ left.nanos := by
    have := hle limit left hlimit rfl
    omega
  simp [ByteStream.next, hlt]

end Reader

end WireFetch
