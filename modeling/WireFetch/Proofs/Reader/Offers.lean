import WireFetch.Reader

/-!
# What a reader offers

A reader gets its bytes in pieces, after pauses, and at some point the stream may fail or fall
silent. `Reader.Offers` forgets the pieces and the pauses: `r.Offers u behind` says that the bytes
`u` can be read from `r`, none of them too late, and that the stream then goes on with `behind`.
What `behind` is plays no part as long as there is something left of `u`; that is the content of
the lemmas below, one for each operation.

## In time

A pause does no harm by itself. What counts is the sum of the pauses that one read meets, and a
read begins anew behind each piece (`ByteStream.InTime`). Pauses that stay within the limit all
together are in time, however they lie (`ByteStream.inTime_of_pauses_le`).

## Main definitions

* `ByteStream.InTime` — every piece arrives before the read that waits for it gives up
* `Reader.Offers` — the bytes that can be read, and what the stream does behind them

## Main results

* `Reader.fill_of_offers`, `peekByte_of_offers`, `readByte_of_offers`, `offers_unread`
* `Reader.readByte_of_offers_nil`, `peekByte_of_offers_nil` — at the end of the stream
-/

namespace WireFetch

/-! ### Streams that bring everything in time -/

namespace ByteStream

theorem data_append (s t : ByteStream) : (s ++ t : ByteStream).data = s.data ++ t.data := by
  induction s with
  | nil => rfl
  | cons segment s ih => cases segment <;> simp [data, ih]

/-- Every byte of the stream arrives in time: each read waits at most for `limit`, and the one
that is under way for `left` more. Nothing on the stream fails. -/
def InTime (limit : Option Duration) : (left : Option Duration) → ByteStream → Prop
  | _, [] => True
  | left, .bytes b :: s => if b = [] then InTime limit left s else InTime limit limit s
  | none, .pause _ :: s => InTime limit none s
  | some left, .pause time :: s =>
    time.nanos ≤ left.nanos ∧ InTime limit (some ⟨left.nanos - time.nanos⟩) s
  | _, .fault _ :: _ => False
  | _, .stall :: _ => False

/-- The pauses of a stream, all together. -/
def pauses : ByteStream → Nat
  | [] => 0
  | .pause time :: s => time.nanos + pauses s
  | _ :: s => pauses s

/-- A stream on which nothing fails and that does not fall silent for ever. -/
def IsCalm (s : ByteStream) : Prop :=
  ∀ segment ∈ s, (∃ b, segment = .bytes b) ∨ ∃ time, segment = .pause time

theorem inTime_none {s : ByteStream} (h : s.IsCalm) : s.InTime none none := by
  induction s with
  | nil => trivial
  | cons segment s ih =>
    have hs : InTime none none s := ih fun x hx => h x (List.mem_cons_of_mem _ hx)
    rcases h segment (List.mem_cons_self ..) with ⟨b, rfl⟩ | ⟨time, rfl⟩
    · simpa only [InTime, ite_self] using hs
    · exact hs

/-- Pauses that stay within the limit all together are in time. -/
theorem inTime_of_pauses_le {s : ByteStream} {limit left : Duration} (h : s.IsCalm)
    (hleft : left.nanos ≤ limit.nanos) (hs : s.pauses ≤ left.nanos) :
    s.InTime (some limit) (some left) := by
  induction s generalizing left with
  | nil => trivial
  | cons segment s ih =>
    have hcalm : IsCalm s := fun x hx => h x (List.mem_cons_of_mem _ hx)
    rcases h segment (List.mem_cons_self ..) with ⟨b, rfl⟩ | ⟨time, rfl⟩
    · rw [InTime]
      split
      · exact ih hcalm hleft hs
      · exact ih hcalm (Nat.le_refl _) (Nat.le_trans hs hleft)
    · have hsum : time.nanos + pauses s ≤ left.nanos := hs
      refine ⟨by omega, ih hcalm ?_ ?_⟩
      · change left.nanos - time.nanos ≤ limit.nanos
        omega
      · change pauses s ≤ left.nanos - time.nanos
        omega

/-- A calm stream is in time if all its pauses together stay within the limit. -/
theorem inTime_of_isCalm {s : ByteStream} {limit : Option Duration} (h : s.IsCalm)
    (hs : ∀ time, limit = some time → s.pauses ≤ time.nanos) : s.InTime limit limit := by
  cases limit with
  | none => exact inTime_none h
  | some limit => exact inTime_of_pauses_le h (Nat.le_refl _) (hs limit rfl)

/-- A read on a stream whose bytes come in time brings the first of them, whatever is behind. -/
theorem next_of_inTime {limit left : Option Duration} {s : ByteStream} (behind : ByteStream)
    (h : s.InTime limit left) (hs : s.data ≠ []) :
    ∃ b s', b ≠ [] ∧ (s ++ behind).next left = (.data b, s' ++ behind) ∧
      s.data = b ++ s'.data ∧ s'.InTime limit limit := by
  induction s generalizing left with
  | nil => exact absurd rfl hs
  | cons segment s ih =>
    cases segment with
    | bytes b =>
      by_cases hb : b = []
      · subst hb
        simpa [next, data] using ih (by simpa [InTime] using h) (by simpa [data] using hs)
      · refine ⟨b.take bufferSize, .bytes (b.drop bufferSize) :: s, ?_, ?_, ?_, ?_⟩
        · simp [hb, bufferSize]
        · simp [next, hb]
        · simp [data, ← List.append_assoc]
        · simpa [InTime, hb] using h
    | fault cause => cases left <;> exact h.elim
    | pause time =>
      cases left with
      | none => exact ih h hs
      | some left =>
        obtain ⟨htime, h⟩ := h
        simpa [next, data, htime] using ih h hs
    | stall => cases left <;> exact h.elim

/-- A read on a stream in time that brings no bytes finds what is behind it, with no more time
left than before. -/
theorem next_of_inTime_of_data_eq_nil {limit left : Option Duration} {s : ByteStream}
    (behind : ByteStream) (h : s.InTime limit left) (hs : s.data = []) :
    ∃ left' : Option Duration, left'.isSome = left.isSome ∧
      (∀ time time', left = some time → left' = some time' → time'.nanos ≤ time.nanos) ∧
      (s ++ behind).next left = behind.next left' := by
  induction s generalizing left with
  | nil =>
    refine ⟨left, rfl, fun time time' h h' => ?_, rfl⟩
    exact Nat.le_of_eq (congrArg Duration.nanos (Option.some.inj (h'.symm.trans h)))
  | cons segment s ih =>
    cases segment with
    | bytes b =>
      obtain ⟨rfl, hs⟩ := List.append_eq_nil_iff.1 hs
      simpa [next] using ih (by simpa [InTime] using h) hs
    | fault cause => cases left <;> exact h.elim
    | pause time =>
      cases left with
      | none => exact ih h hs
      | some left =>
        obtain ⟨htime, h⟩ := h
        obtain ⟨left', hsome, hle, hnext⟩ := ih h hs
        refine ⟨left', hsome, fun t t' ht ht' => ?_, by simpa [next, htime] using hnext⟩
        cases ht
        exact Nat.le_trans (hle _ t' rfl ht') (Nat.sub_le ..)
    | stall => cases left <;> exact h.elim

end ByteStream

/-! ### Readers -/

namespace Reader

/-- The bytes `u` can be read, all of them in time, and the stream then goes on with `behind`. -/
def Offers (r : Reader) (u : List UInt8) (behind : ByteStream) : Prop :=
  ∃ s : ByteStream, r.source = s ++ behind ∧ s.InTime r.limit r.limit ∧ r.pending ++ s.data = u

variable {r : Reader} {b : UInt8} {u : List UInt8} {behind : ByteStream}

/-- A stream that brings everything in time. -/
theorem offers_of_inTime {s : ByteStream} {limit : Option Duration} (h : s.InTime limit limit) :
    ({ source := s, limit } : Reader).Offers s.data [] :=
  ⟨s, (List.append_nil s).symm, h, rfl⟩

/-- A stream that brings some bytes at once. -/
theorem offers_bytes_cons (u : List UInt8) (behind : ByteStream) :
    ({ source := .bytes u :: behind } : Reader).Offers u behind :=
  ⟨[.bytes u], rfl, by simp [ByteStream.InTime], by simp [ByteStream.data, pending]⟩

/-- A stream that brings everything at once. -/
theorem offers_bytes (u : List UInt8) : ({ source := [.bytes u] } : Reader).Offers u [] :=
  offers_bytes_cons u []

/-- A reader holds what it offers, and what the stream brings behind that. -/
theorem Offers.content_eq_append (h : r.Offers u behind) : r.content = u ++ behind.data := by
  obtain ⟨s, hs, -, rfl⟩ := h
  rw [content, hs, ByteStream.data_append, List.append_assoc]

/-- A reader that offers everything up to the end of the stream holds nothing else. -/
theorem Offers.content_eq (h : r.Offers u []) : r.content = u :=
  h.content_eq_append.trans (List.append_nil u)

theorem offers_unread (bytes : List UInt8) (h : r.Offers u behind) :
    (r.unread bytes).Offers (bytes ++ u) behind := by
  obtain ⟨s, hs, ht, rfl⟩ := h
  exact ⟨s, by rw [source_unread, hs], by rwa [limit_unread], by simp⟩

/-- To fetch from the stream is to leave the offer as it is. -/
theorem fill_of_offers (h : r.Offers (b :: u) behind) :
    ∃ p r', r.fill = (.ok true, r') ∧ r'.limit = r.limit ∧ r'.pending = b :: p ∧
      r'.Offers (b :: u) behind := by
  obtain ⟨s, hs, ht, hu⟩ := h
  cases hp : r.pending with
  | cons c p =>
    rw [hp] at hu
    obtain ⟨rfl, -⟩ := List.cons_eq_cons.1 hu
    exact ⟨p, r, fill_of_pending hp, rfl, hp, s, hs, ht, by rw [hp]; exact hu⟩
  | nil =>
    rw [hp] at hu
    have hdata : s.data = b :: u := hu
    obtain ⟨bytes, s', hb, hnext, hsplit, ht'⟩ :=
      ByteStream.next_of_inTime behind ht (by simp [hdata])
    cases bytes with
    | nil => exact absurd rfl hb
    | cons c p =>
      rw [hdata] at hsplit
      obtain ⟨rfl, -⟩ := List.cons_eq_cons.1 hsplit
      refine ⟨p, ⟨(b :: p).toArray, 0, s' ++ behind, r.limit⟩, ?_, rfl, rfl, s', rfl, ht',
        hsplit.symm⟩
      rw [fill_of_pending_nil hp, hs, hnext]
      rfl

theorem peekByte_of_offers (h : r.Offers (b :: u) behind) :
    ∃ r', r.peekByte = (.ok (some b), r') ∧ r'.Offers (b :: u) behind := by
  obtain ⟨p, r', hfill, -, hp, h'⟩ := fill_of_offers h
  exact ⟨r', by rw [peekByte_of_fill hfill, hp]; rfl, h'⟩

theorem readByte_of_offers (h : r.Offers (b :: u) behind) :
    ∃ r', r.readByte = (.ok (some b), r') ∧ r'.Offers u behind := by
  obtain ⟨p, r', hfill, -, hp, s, hs, ht, hu⟩ := fill_of_offers h
  refine ⟨r'.advance 1, by rw [readByte_of_fill hfill, hp]; rfl, s, hs, ht, ?_⟩
  rw [hp] at hu
  rw [pending_advance, hp]
  exact (List.cons_eq_cons.1 hu).2

/-- A read takes some of the bytes that are offered. -/
theorem read_of_offers {n : Nat} (hn : n ≠ 0) (h : r.Offers (b :: u) behind) :
    ∃ p v r', r.read n = (.ok (b :: p), r') ∧ p.length < n ∧ u = p ++ v ∧ r'.limit = r.limit ∧
      r'.Offers v behind := by
  obtain ⟨p, r', hfill, hlimit, hp, s, hs, ht, hu⟩ := fill_of_offers h
  obtain ⟨n, rfl⟩ := Nat.exists_eq_succ_of_ne_zero hn
  rw [hp] at hu
  refine ⟨p.take n, p.drop n ++ s.data, r'.advance (r'.pending.take (n + 1)).length, ?_, ?_, ?_,
    hlimit, s, hs, ht, ?_⟩
  · rw [read_of_fill hn hfill, hp, List.take_succ_cons]
  · simp only [List.length_take]
    omega
  · rw [← List.append_assoc, List.take_append_drop]
    exact (List.cons_eq_cons.1 hu).2.symm
  · rw [pending_advance, drop_length_take, hp, List.drop_succ_cons]

/-! ### At the end of what is offered -/

theorem fill_of_offers_nil (h : r.Offers [] []) :
    ∃ r', r.fill = (.ok false, r') ∧ r'.pending = [] ∧ r'.Offers [] [] := by
  obtain ⟨s, hs, ht, hu⟩ := h
  obtain ⟨hp, hdata⟩ := List.append_eq_nil_iff.1 hu
  obtain ⟨left', -, -, hnext⟩ := ByteStream.next_of_inTime_of_data_eq_nil [] ht hdata
  refine ⟨⟨#[], 0, [], r.limit⟩, ?_, rfl, [], rfl, trivial, rfl⟩
  rw [fill_of_pending_nil hp, hs, hnext]
  rfl

theorem peekByte_of_offers_nil (h : r.Offers [] []) :
    ∃ r', r.peekByte = (.ok none, r') ∧ r'.Offers [] [] := by
  obtain ⟨r', hfill, -, h'⟩ := fill_of_offers_nil h
  exact ⟨r', by simp [peekByte, hfill], h'⟩

theorem readByte_of_offers_nil (h : r.Offers [] []) :
    ∃ r', r.readByte = (.ok none, r') ∧ r'.Offers [] [] := by
  obtain ⟨r', hfill, -, h'⟩ := fill_of_offers_nil h
  exact ⟨r', by simp [readByte, hfill], h'⟩

end Reader

end WireFetch
