import WireFetch.Proofs.Reader.Drain
import WireFetch.Proofs.Reader.Queue
import WireFetch.Proofs.Reading.Agree

/-!
# What is ahead of a reader

Bytes may be in the buffer of a reader or still on its stream, there in one piece or in several. An
operation on single bytes cannot tell. What it can tell is the limit, the bytes in their order, and
the pauses and faults between them, and this is the `Reader.course`: the buffer and the stream with
each byte in a piece of its own. Readers with the same limit and the same course are `Reader.Alike`.

So one can say what it means that a stream goes on in the middle of a piece. A reader brings some
bytes and then another reader (`Reader.Brings`) if the bytes can be read from it, one by one, and
leave a reader like the other one. The bytes may be cut in any way, with pauses between them, and
what is behind them may be anything, failures included: it is a reader and not a row of bytes.

## Main definitions

* `ByteStream.apart`, `Reader.course` — streams and readers byte by byte
* `Reader.Alike` — readers with the same ahead
* `Reader.Brings` — some bytes, and a reader behind them

## Main results

* `Reader.course_fill` — the course decides on what is fetched
* `Reader.isSimilarity_alike`, `Alike.drain_eq` — readers with the same ahead are read alike
* `Reader.isSimilarity_brings` — how the bytes arrive makes no difference
-/

namespace WireFetch

/-! ### Streams byte by byte -/

namespace ByteStream

/-- The stream with each byte in a piece of its own. -/
def apart (s : ByteStream) : ByteStream :=
  s.flatMap fun
    | .bytes b => b.map fun x => .bytes [x]
    | segment => [segment]

variable {b : UInt8} {bytes : List UInt8} {s : ByteStream}

theorem apart_bytes (bytes : List UInt8) (s : ByteStream) :
    apart (.bytes bytes :: s) = bytes.map (fun x => .bytes [x]) ++ apart s := rfl

@[simp] theorem apart_apart (s : ByteStream) : apart (apart s) = apart s := by
  have hbytes : ∀ (b : List UInt8) (s : ByteStream),
      apart (b.map (fun x => .bytes [x]) ++ s) = b.map (fun x => .bytes [x]) ++ apart s := by
    intro b s
    induction b with
    | nil => rfl
    | cons x b ih => exact congrArg (Segment.bytes [x] :: ·) ih
  induction s with
  | nil => rfl
  | cons segment s ih =>
    cases segment with
    | bytes b => rw [apart_bytes, hbytes, ih]
    | fault cause => exact congrArg (Segment.fault cause :: ·) ih
    | pause time => exact congrArg (Segment.pause time :: ·) ih
    | stall => exact congrArg (Segment.stall :: ·) ih

@[simp] theorem data_apart (s : ByteStream) : (apart s).data = s.data := by
  have hbytes : ∀ (b : List UInt8) (s : ByteStream),
      data (b.map (fun x => .bytes [x]) ++ s) = b ++ s.data := by
    intro b s
    induction b with
    | nil => rfl
    | cons x b ih => exact congrArg (x :: ·) ih
  induction s with
  | nil => rfl
  | cons segment s ih =>
    cases segment with
    | bytes b => rw [apart_bytes, hbytes, ih, data]
    | fault cause => exact ih
    | pause time => exact ih
    | stall => exact ih

/-- A read on the bytes apart brings the first byte of what it brings on the stream itself. -/
theorem next_apart (limit : Option Duration) (s : ByteStream) :
    (apart s).next limit = match s.next limit with
      | (.data [], _) => (.data [], [])
      | (.data (b :: bytes), s') => (.data [b], .bytes [] :: apart (.bytes bytes :: s'))
      | (.failed cause, s') => (.failed cause, apart s')
      | (.nothing, s') => (.nothing, apart s') := by
  induction s generalizing limit with
  | nil => rfl
  | cons segment s ih =>
    cases segment with
    | bytes bytes =>
      cases bytes with
      | nil => exact ih limit
      | cons b bytes =>
        have hsplit : bytes.map (fun x => Segment.bytes [x])
            = (bytes.take 8191).map (fun x => .bytes [x])
              ++ (bytes.drop 8191).map (fun x => .bytes [x]) := by
          rw [← List.map_append, List.take_append_drop]
        simp only [apart_bytes, List.map_cons, List.cons_append, hsplit, List.append_assoc]
        rfl
    | fault cause => rfl
    | pause time =>
      cases limit with
      | none => exact ih none
      | some limit =>
        show next (some limit) (.pause time :: apart s) = _
        simp only [next]
        split
        · exact ih _
        · rfl
    | stall => rfl

end ByteStream

namespace Reader

variable {r r' t m : Reader} {b : UInt8} {p u v : List UInt8}

/-! ### The course of a reader -/

/-- What happens from here on: the bytes, one by one, and what is between them. -/
def course (r : Reader) : ByteStream := ByteStream.apart (.bytes r.pending :: r.source)

theorem course_of_pending (h : r.pending = b :: p) :
    r.course = .bytes [b] :: ByteStream.apart (.bytes p :: r.source) := by
  rw [course, h]
  rfl

theorem course_advance (h : r.pending = b :: p) :
    r.course = .bytes [b] :: (r.advance 1).course := by
  have hsource : (r.advance 1).source = r.source := rfl
  rw [course_of_pending h, course, pending_advance, h, hsource]
  rfl

theorem course_unread (bytes : List UInt8) (r : Reader) :
    (r.unread bytes).course = bytes.map (fun x => .bytes [x]) ++ r.course := by
  simp [course, ByteStream.apart_bytes]

theorem data_course (r : Reader) : r.course.data = r.content := by
  rw [course, ByteStream.data_apart]
  rfl

/-- The course and the limit decide on what is fetched, and on the course that is left. -/
theorem course_fill (r : Reader) :
    (r.fill.1, r.fill.2.course) = match r.course.next r.limit with
      | (.data bytes, c) => (.ok (!bytes.isEmpty), ByteStream.apart (.bytes bytes :: c))
      | (.failed cause, c) =>
        (.error (.failed (.ofFault .read r.limit cause)), ByteStream.apart c)
      | (.nothing, c) => (.error (.late .read r.limit), ByteStream.apart c) := by
  cases hp : r.pending with
  | cons b p =>
    rw [fill_of_pending hp, course_of_pending hp]
    show (_, _) = (_, Segment.bytes [b] :: ByteStream.apart (ByteStream.apart _))
    rw [ByteStream.apart_apart]
    rfl
  | nil =>
    have hcourse : r.course = ByteStream.apart r.source := by
      rw [course, hp]
      rfl
    rw [fill_of_pending_nil hp, hcourse, ByteStream.next_apart]
    rcases hnext : r.source.next r.limit with ⟨delivery, source⟩
    cases delivery with
    | data bytes =>
      cases bytes with
      | nil =>
        rw [ByteStream.eq_nil_of_next_eq_data_nil hnext]
        rfl
      | cons b bytes =>
        show (_, _) = (_, Segment.bytes [b] :: ByteStream.apart (ByteStream.apart _))
        rw [ByteStream.apart_apart]
        rfl
    | failed cause =>
      show (_, _) = (_, ByteStream.apart (ByteStream.apart source))
      rw [ByteStream.apart_apart]
      rfl
    | nothing =>
      show (_, _) = (_, ByteStream.apart (ByteStream.apart source))
      rw [ByteStream.apart_apart]
      rfl

/-! ### Readers with the same ahead -/

/-- The same happens on both readers from here on. -/
structure Alike (r t : Reader) : Prop where
  limit_eq : r.limit = t.limit
  course_eq : r.course = t.course

theorem alike_refl (r : Reader) : r.Alike r := ⟨rfl, rfl⟩

theorem Alike.symm (h : r.Alike t) : t.Alike r := ⟨h.limit_eq.symm, h.course_eq.symm⟩

theorem Alike.trans (h : r.Alike m) (h' : m.Alike t) : r.Alike t :=
  ⟨h.limit_eq.trans h'.limit_eq, h.course_eq.trans h'.course_eq⟩

theorem Alike.content_eq (h : r.Alike t) : r.content = t.content := by
  rw [← data_course, h.course_eq, data_course]

theorem Alike.fill (h : r.Alike t) : r.fill.1 = t.fill.1 ∧ r.fill.2.Alike t.fill.2 := by
  have hfill := course_fill r
  rw [h.limit_eq, h.course_eq, ← course_fill t] at hfill
  obtain ⟨hresult, hcourse⟩ := Prod.mk.inj hfill
  have hlimit : ∀ r : Reader, r.fill.2.limit = r.limit := fun r =>
    ((keeps_limit r.limit).fill rfl).1
  exact ⟨hresult, by rw [hlimit, hlimit, h.limit_eq], hcourse⟩

/-- Once something was fetched, readers alike have the same first byte pending. -/
theorem Alike.head?_pending {r₁ t₁ : Reader} {ok : Bool} (hr : r.fill = (.ok ok, r₁))
    (ht : t.fill = (.ok ok, t₁)) (h : r₁.Alike t₁) : r₁.pending.head? = t₁.pending.head? := by
  have hokr := ok_of_fill hr
  have hokt := ok_of_fill ht
  have hcourse := h.course_eq
  cases hp : r₁.pending with
  | nil =>
    cases hq : t₁.pending with
    | nil => rfl
    | cons c q =>
      rw [hp] at hokr
      rw [hq, hokr] at hokt
      cases hokt
  | cons b p =>
    cases hq : t₁.pending with
    | nil =>
      rw [hp] at hokr
      rw [hq, hokr] at hokt
      cases hokt
    | cons c q =>
      rw [course_of_pending hp, course_of_pending hq] at hcourse
      cases (List.cons_eq_cons.1 hcourse).1
      rfl

theorem Alike.advance (h : r.Alike t) (hr : r.pending = b :: p) (ht : t.pending = b :: u) :
    (r.advance 1).Alike (t.advance 1) := by
  have hcourse := h.course_eq
  rw [course_advance hr, course_advance ht] at hcourse
  exact ⟨h.limit_eq, (List.cons_eq_cons.1 hcourse).2⟩

/-- No operation on bytes tells readers alike apart. -/
theorem isSimilarity_alike : IsSimilarity Alike where
  peekByte := by
    intro r t h
    obtain ⟨hresult, hleft⟩ := h.fill
    rcases hr : r.fill with ⟨stop | ok, r₁⟩ <;> rcases ht : t.fill with ⟨stop' | ok', t₁⟩ <;>
      rw [hr, ht] at hresult hleft <;> cases hresult
    · rw [peekByte_of_fill_error hr, peekByte_of_fill_error ht]
      exact ⟨rfl, hleft⟩
    · rw [peekByte_of_fill hr, peekByte_of_fill ht]
      exact ⟨congrArg Except.ok (Alike.head?_pending hr ht hleft), hleft⟩
  readByte := by
    intro r t h
    obtain ⟨hresult, hleft⟩ := h.fill
    rcases hr : r.fill with ⟨stop | ok, r₁⟩ <;> rcases ht : t.fill with ⟨stop' | ok', t₁⟩ <;>
      rw [hr, ht] at hresult hleft <;> cases hresult
    · rw [readByte_of_fill_error hr, readByte_of_fill_error ht]
      exact ⟨rfl, hleft⟩
    · have hhead := Alike.head?_pending hr ht hleft
      rw [readByte_of_fill hr, readByte_of_fill ht]
      refine ⟨congrArg Except.ok hhead, ?_⟩
      cases hp : r₁.pending with
      | nil =>
        rw [hp, eq_comm, List.head?_nil, List.head?_eq_none_iff] at hhead
        rw [hhead]
        exact hleft
      | cons b p =>
        rw [hp, eq_comm, List.head?_cons, List.head?_eq_some_iff] at hhead
        obtain ⟨q, hq⟩ := hhead
        rw [hq]
        exact hleft.advance hp hq
  unread := by
    intro r t bytes h
    refine ⟨?_, ?_⟩
    · rw [limit_unread, limit_unread, h.limit_eq]
    · rw [course_unread, course_unread, h.course_eq]

/-! ### Single bytes -/

theorem drain_of_readByte_some (h : r.readByte = (.ok (some b), r')) :
    r.drain = (b :: r'.drain.1, r'.drain.2) := by
  rcases hfill : r.fill with ⟨stop | ok, r₁⟩
  · rw [readByte_of_fill_error hfill] at h
    cases h
  · rw [readByte_of_fill hfill] at h
    simp only [Prod.mk.injEq, Except.ok.injEq] at h
    obtain ⟨hhead, rfl⟩ := h
    obtain ⟨p, hp⟩ := List.head?_eq_some_iff.1 hhead
    rw [drain_of_fill_ok hfill, drain_take_drop 1 r₁, hp]
    rfl

theorem drain_of_readByte_none (h : r.readByte = (.ok none, r')) : r.drain = ([], none) := by
  rcases hfill : r.fill with ⟨stop | ok, r₁⟩
  · rw [readByte_of_fill_error hfill] at h
    cases h
  · rw [readByte_of_fill hfill] at h
    simp only [Prod.mk.injEq, Except.ok.injEq, List.head?_eq_none_iff] at h
    rw [drain_of_fill_ok hfill, source_of_fill_ok hfill h.1, drain_of_source_nil]

theorem drain_of_readByte_error {stop : Stop} (h : r.readByte = (.error stop, r')) :
    r.drain = ([], some stop) := by
  rcases hfill : r.fill with ⟨stop' | ok, r₁⟩
  · rw [readByte_of_fill_error hfill] at h
    cases h
    exact drain_of_fill_error hfill
  · rw [readByte_of_fill hfill] at h
    cases h

/-- The same bytes can be read from readers alike, and the same ends them. -/
theorem Alike.drain_eq (h : r.Alike t) : r.drain = t.drain := by
  induction hlen : r.content.length using Nat.strongRecOn generalizing r t with
  | ind k ih =>
    obtain ⟨hresult, hleft⟩ := isSimilarity_alike.readByte h
    rcases hr : r.readByte with ⟨result, r'⟩
    rcases ht : t.readByte with ⟨result', t'⟩
    rw [hr, ht] at hresult hleft
    obtain rfl : result = result' := hresult
    cases result with
    | error stop => rw [drain_of_readByte_error hr, drain_of_readByte_error ht]
    | ok next =>
      cases next with
      | none => rw [drain_of_readByte_none hr, drain_of_readByte_none ht]
      | some b =>
        have hlt : r'.content.length < k := by
          rw [← hlen, content_of_readByte hr, List.length_cons]
          omega
        rw [drain_of_readByte_some hr, drain_of_readByte_some ht, ih _ hlt hleft rfl]

/-- What is peeked at is the first of all the bytes. -/
theorem head?_content_of_peekByte {next : Option UInt8} (h : r.peekByte = (.ok next, r')) :
    r'.content.head? = next := by
  rcases hfill : r.fill with ⟨stop | ok, r₁⟩
  · rw [peekByte_of_fill_error hfill] at h
    cases h
  · rw [peekByte_of_fill hfill] at h
    cases h
    cases hp : r'.pending with
    | nil => rw [source_of_fill_ok hfill hp]; rfl
    | cons b p => rw [content, hp]; rfl

/-- What can be read can be peeked at before. -/
theorem peekByte_of_readByte (h : r.readByte = (.ok (some b), r')) :
    ∃ r₁, r.peekByte = (.ok (some b), r₁) ∧ r₁.readByte = (.ok (some b), r') := by
  rcases hfill : r.fill with ⟨stop | ok, r₁⟩
  · rw [readByte_of_fill_error hfill] at h
    cases h
  · have hread := h
    rw [readByte_of_fill hfill] at hread
    simp only [Prod.mk.injEq, Except.ok.injEq] at hread
    obtain ⟨hhead, rfl⟩ := hread
    obtain ⟨p, hp⟩ := List.head?_eq_some_iff.1 hhead
    refine ⟨r₁, by rw [peekByte_of_fill hfill, hhead], ?_⟩
    rw [readByte_of_fill (fill_of_pending hp), hhead]

/-! ### Some bytes, and a reader behind them -/

/-- The bytes can be read from the reader, one by one, and what is then left is like `t`. -/
def Brings : (r : Reader) → (u : List UInt8) → (t : Reader) → Prop
  | r, [], t => r.Alike t
  | r, b :: u, t => ∃ r', r.readByte = (.ok (some b), r') ∧ r'.Brings u t

theorem Alike.brings (h : r.Alike m) (hm : m.Brings u t) : r.Brings u t := by
  induction u generalizing r m with
  | nil => exact h.trans hm
  | cons b u ih =>
    obtain ⟨m', hread, hm'⟩ := hm
    obtain ⟨hresult, hleft⟩ := isSimilarity_alike.readByte h
    rw [hread] at hresult hleft
    exact ⟨r.readByte.2, Prod.ext hresult rfl, ih hleft hm'⟩

theorem brings_append : r.Brings (u ++ v) t ↔ ∃ m, r.Brings u m ∧ m.Brings v t := by
  induction u generalizing r with
  | nil => exact ⟨fun h => ⟨r, alike_refl r, h⟩, fun ⟨m, h, hm⟩ => h.brings hm⟩
  | cons b u ih =>
    constructor
    · rintro ⟨r', hread, h⟩
      obtain ⟨m, h', hm⟩ := ih.1 h
      exact ⟨m, ⟨r', hread, h'⟩, hm⟩
    · rintro ⟨m, ⟨r', hread, h'⟩, hm⟩
      exact ⟨r', hread, ih.2 ⟨m, h', hm⟩⟩

theorem Brings.content_eq (h : r.Brings u t) : r.content = u ++ t.content := by
  induction u generalizing r with
  | nil => exact Alike.content_eq h
  | cons b u ih =>
    obtain ⟨r', hread, h'⟩ := h
    rw [content_of_readByte hread, ih h']
    rfl

/-- To hand bytes back is to put them before the reader. -/
theorem brings_unread (bytes : List UInt8) (h : r.Brings u t) :
    (r.unread bytes).Brings (bytes ++ u) t := by
  induction bytes with
  | nil => exact h
  | cons b bytes ih =>
    have hp : (r.unread (b :: bytes)).pending = b :: (bytes ++ r.pending) := pending_unread ..
    have hread : (r.unread (b :: bytes)).readByte
        = (.ok (some b), (r.unread (b :: bytes)).advance 1) := by
      rw [readByte_of_fill (fill_of_pending hp), hp]
      rfl
    have hcourse := course_advance hp
    rw [course_unread, List.map_cons, List.cons_append, ← course_unread] at hcourse
    refine ⟨_, hread, Alike.brings ⟨?_, (List.cons_eq_cons.1 hcourse).2.symm⟩ ih⟩
    exact (limit_unread ..).trans (limit_unread ..).symm

/-- To hand bytes back is to put them before the reader itself. -/
theorem brings_unread_self (bytes : List UInt8) (t : Reader) : (t.unread bytes).Brings bytes t := by
  have h : t.Brings [] t := alike_refl t
  have hunread := brings_unread bytes h
  rwa [List.append_nil] at hunread

theorem brings_of_alike_unread (h : r.Alike (t.unread u)) : r.Brings u t :=
  h.brings (brings_unread_self u t)

/-- **Arrival does not matter.** Readers that bring the same bytes and then the same reader are read
alike, in whatever pieces and after whatever pauses the bytes arrive. -/
theorem isSimilarity_brings (t : Reader) :
    IsSimilarity fun r r' => r.Alike r' ∨ ∃ u, r.Brings u t ∧ r'.Brings u t where
  peekByte := by
    rintro r r' (h | ⟨_ | ⟨b, u⟩, h, h'⟩)
    · exact (isSimilarity_alike.peekByte h).imp_right .inl
    · exact (isSimilarity_alike.peekByte (Alike.trans h (Alike.symm h'))).imp_right .inl
    · obtain ⟨r₁, hread, h₁⟩ := h
      obtain ⟨r₁', hread', h₁'⟩ := h'
      obtain ⟨r₂, hpeek, h₂⟩ := peekByte_of_readByte hread
      obtain ⟨r₂', hpeek', h₂'⟩ := peekByte_of_readByte hread'
      rw [hpeek, hpeek']
      exact ⟨rfl, .inr ⟨b :: u, ⟨r₁, h₂, h₁⟩, ⟨r₁', h₂', h₁'⟩⟩⟩
  readByte := by
    rintro r r' (h | ⟨_ | ⟨b, u⟩, h, h'⟩)
    · exact (isSimilarity_alike.readByte h).imp_right .inl
    · exact (isSimilarity_alike.readByte (Alike.trans h (Alike.symm h'))).imp_right .inl
    · obtain ⟨r₁, hread, h₁⟩ := h
      obtain ⟨r₁', hread', h₁'⟩ := h'
      rw [hread, hread']
      exact ⟨rfl, .inr ⟨u, h₁, h₁'⟩⟩
  unread := by
    rintro r r' bytes (h | ⟨u, h, h'⟩)
    · exact .inl (isSimilarity_alike.unread bytes h)
    · exact .inr ⟨bytes ++ u, brings_unread bytes h, brings_unread bytes h'⟩

end Reader

end WireFetch
