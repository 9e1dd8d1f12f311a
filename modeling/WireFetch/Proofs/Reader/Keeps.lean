import WireFetch.Proofs.Reader.Offers

/-!
# What the operations of a reader keep

A reader fetches from its stream in one place, `Reader.fill`. A property of readers that is kept
there, and by moving the cursor and handing bytes back, is therefore kept by every operation; and
whatever can stop an operation has stopped `fill` (`Reader.Keeps`). Statements about reading on
streams of a certain kind need nothing else about this kind.

The simplest property is to have a certain limit. With a limit, a reader never waits without end.

## Main definitions

* `Reader.StopsWith` — what stops a reader
* `Reader.Keeps` — a property that the operations keep, and what stops a reader that has it
* `Stop.OfLimit` — what can stop a reader with this limit

## Main results

* `Reader.fill_error_iff` — when a reader is stopped
* `Reader.Keeps.peekByte`, `readByte`, `read`, `drain` — the operations
* `Reader.keeps_limit`, `keeps_length_source` — the limit is kept, and the stream gets no longer
* `Reader.keeps_inTime` — a stream in time stays in time, and never stops a reader
-/

namespace WireFetch

/-- What can stop a reader with this limit: a failure of the stream, or a wait beyond the limit. -/
def Stop.OfLimit (limit : Option Duration) (stop : Stop) : Prop :=
  (∃ cause, stop = .failed (.ofFault .read limit cause)) ∨ stop = .late .read limit

/-- Without a limit a reader can wait without end, otherwise what stops it is a failure. -/
theorem Stop.OfLimit.failed_or {limit : Option Duration} {stop : Stop} (h : stop.OfLimit limit) :
    (∃ e, stop = .failed e) ∨ stop = .endless ∧ limit = none := by
  rcases h with ⟨cause, rfl⟩ | rfl
  · exact .inl ⟨_, rfl⟩
  · cases limit with
    | none => exact .inr ⟨rfl, rfl⟩
    | some time => exact .inl ⟨_, rfl⟩

/-- What stops a reader is the limit, a failure of the stream, or silence. -/
theorem Stop.OfLimit.timeout_or_io {limit : Option Duration} {stop : Stop}
    (h : stop.OfLimit limit) :
    (∃ time, stop = .failed (.timeout .read time)) ∨ (∃ cause, stop = .failed (.io cause)) ∨
      stop = .endless := by
  rcases h with ⟨cause, rfl⟩ | rfl
  · unfold FetchError.ofFault
    split
    · exact .inl ⟨_, rfl⟩
    · exact .inr (.inl ⟨_, rfl⟩)
  · cases limit with
    | none => exact .inr (.inr rfl)
    | some time => exact .inl ⟨time, rfl⟩

namespace ByteStream

/-- A read may leave fewer pieces, and never more. -/
theorem length_next_le (limit : Option Duration) (s : ByteStream) :
    (s.next limit).2.length ≤ s.length := by
  induction s generalizing limit with
  | nil => exact Nat.le_refl 0
  | cons segment s ih =>
    have hskip : ∀ limit, (next limit s).2.length ≤ s.length + 1 := fun limit =>
      Nat.le_succ_of_le (ih limit)
    cases segment with
    | bytes b =>
      rw [next]
      split
      · exact hskip limit
      · exact Nat.le_refl _
    | fault cause => exact Nat.le_succ _
    | pause time =>
      cases limit with
      | none => exact hskip none
      | some limit =>
        rw [next]
        split
        · exact hskip _
        · exact Nat.le_refl _
    | stall => exact Nat.le_refl _

end ByteStream

namespace Reader

variable {r r' : Reader} {stop : Stop} {I : Reader → Prop} {S : Stop → Prop}

/-! ### What stops a reader -/

/-- What stops a reader is that nothing is pending and the stream fails or is late. The buffer is
then empty. -/
def StopsWith (r : Reader) (stop : Stop) (r' : Reader) : Prop :=
  r.pending = [] ∧ r' = { source := r'.source, limit := r.limit } ∧
    ((∃ cause, r.source.next r.limit = (.failed cause, r'.source) ∧
        stop = .failed (.ofFault .read r.limit cause)) ∨
      r.source.next r.limit = (.nothing, r'.source) ∧ stop = .late .read r.limit)

theorem fill_error_iff : r.fill = (.error stop, r') ↔ r.StopsWith stop r' := by
  constructor
  · intro h
    cases hp : r.pending with
    | cons b p =>
      rw [fill_of_pending hp] at h
      cases h
    | nil =>
      rw [fill_of_pending_nil hp] at h
      split at h
      · cases h
      · next cause source hnext =>
        cases h
        exact ⟨hp, rfl, .inl ⟨cause, hnext, rfl⟩⟩
      · next source hnext =>
        cases h
        exact ⟨hp, rfl, .inr ⟨hnext, rfl⟩⟩
  · rintro ⟨hp, hr', ⟨cause, hnext, rfl⟩ | ⟨hnext, rfl⟩⟩ <;> rw [fill_of_pending_nil hp, hnext, hr']

/-! ### What is kept -/

/-- The operations of a reader keep `I`, and what stops a reader with `I` has the property `S`. -/
structure Keeps (I : Reader → Prop) (S : Stop → Prop) : Prop where
  fill : ∀ {r : Reader}, I r → I r.fill.2 ∧ ∀ stop, r.fill.1 = .error stop → S stop
  advance : ∀ {r : Reader} (n : Nat), I r → I (r.advance n)
  unread : ∀ {r : Reader} (bytes : List UInt8), I r → I (r.unread bytes)

theorem Keeps.peekByte (hI : Keeps I S) (h : I r) :
    I r.peekByte.2 ∧ ∀ stop, r.peekByte.1 = .error stop → S stop := by
  obtain ⟨hleft, hstop⟩ := hI.fill h
  rcases hfill : r.fill with ⟨stop | ok, r₁⟩ <;> rw [hfill] at hleft hstop
  · rw [peekByte_of_fill_error hfill]
    exact ⟨hleft, fun stop h => hstop stop (by cases h; rfl)⟩
  · rw [peekByte_of_fill hfill]
    exact ⟨hleft, nofun⟩

theorem Keeps.readByte (hI : Keeps I S) (h : I r) :
    I r.readByte.2 ∧ ∀ stop, r.readByte.1 = .error stop → S stop := by
  obtain ⟨hleft, hstop⟩ := hI.fill h
  rcases hfill : r.fill with ⟨stop | ok, r₁⟩ <;> rw [hfill] at hleft hstop
  · rw [readByte_of_fill_error hfill]
    exact ⟨hleft, fun stop h => hstop stop (by cases h; rfl)⟩
  · rw [readByte_of_fill hfill]
    exact ⟨hI.advance _ hleft, nofun⟩

theorem Keeps.read (hI : Keeps I S) (n : Nat) (h : I r) :
    I (r.read n).2 ∧ ∀ stop, (r.read n).1 = .error stop → S stop := by
  by_cases hn : n = 0
  · rw [Reader.read, if_pos hn]
    exact ⟨h, fun _ hok => by cases hok⟩
  obtain ⟨hleft, hstop⟩ := hI.fill h
  rcases hfill : r.fill with ⟨stop | ok, r₁⟩ <;> rw [hfill] at hleft hstop
  · rw [read_of_fill_error hn hfill]
    exact ⟨hleft, fun stop h => hstop stop (by cases h; rfl)⟩
  · rw [read_of_fill hn hfill]
    exact ⟨hI.advance _ hleft, fun _ hok => by cases hok⟩

/-- What ends the bytes ahead has stopped a reader. -/
theorem Keeps.drain (hI : Keeps I S) (h : I r) (hdrain : r.drain.2 = some stop) : S stop := by
  fun_induction Reader.drain r with
  | case1 r r' hread => cases hdrain
  | case2 r b bytes r' hread more stop' hrest ih =>
    rw [hrest] at ih
    have hleft := (hI.read ByteStream.bufferSize h).1
    rw [hread] at hleft
    exact ih hleft hdrain
  | case3 r stop' r' hread =>
    have hstop := (hI.read ByteStream.bufferSize h).2
    rw [hread] at hstop
    exact hstop stop (congrArg Except.error (Option.some.inj hdrain))

/-! ### The limit -/

theorem keeps_limit (limit : Option Duration) : Keeps (·.limit = limit) (Stop.OfLimit limit) where
  fill {r} h := by
    subst h
    rcases hfill : r.fill with ⟨stop | ok, r₁⟩
    · obtain ⟨-, hr₁, hstop⟩ := fill_error_iff.1 hfill
      refine ⟨by rw [hr₁], fun stop' h => ?_⟩
      cases h
      exact hstop.imp (fun ⟨cause, _, hcause⟩ => ⟨cause, hcause⟩) And.right
    · refine ⟨?_, nofun⟩
      unfold Reader.fill at hfill
      split at hfill
      · cases hfill
        rfl
      · split at hfill <;> cases hfill
        rfl
  advance _ h := h
  unread bytes h := (limit_unread bytes _).trans h

/-! ### The length of the stream -/

/-- A stream is never put before. -/
theorem keeps_length_source (n : Nat) : Keeps (·.source.length ≤ n) fun _ => True where
  fill {r} h := by
    refine ⟨?_, fun _ _ => trivial⟩
    cases hp : r.pending with
    | cons b p => rwa [fill_of_pending hp]
    | nil =>
      have hnext := Nat.le_trans (ByteStream.length_next_le r.limit r.source) h
      rw [fill_of_pending_nil hp]
      rcases hdelivery : r.source.next r.limit with ⟨delivery, source⟩
      rw [hdelivery] at hnext
      cases delivery <;> exact hnext
  advance _ h := h
  unread bytes h := by rwa [source_unread]

/-! ### Streams in time -/

/-- The content of a reader is offered if its stream is in time. -/
theorem offers_content_iff : r.Offers r.content [] ↔ r.source.InTime r.limit r.limit := by
  constructor
  · rintro ⟨s, hs, htime, -⟩
    rwa [hs, List.append_nil]
  · exact fun h => ⟨r.source, (List.append_nil _).symm, h, rfl⟩

/-- A stream in time stays in time, and never stops a reader. -/
theorem keeps_inTime : Keeps (fun r => r.source.InTime r.limit r.limit) fun _ => False where
  fill {r} h := by
    have hoffers := offers_content_iff.2 h
    cases hcontent : r.content with
    | nil =>
      rw [hcontent] at hoffers
      obtain ⟨r', hfill, -, h'⟩ := fill_of_offers_nil hoffers
      rw [hfill]
      exact ⟨offers_content_iff.1 (by rwa [h'.content_eq]), nofun⟩
    | cons b u =>
      rw [hcontent] at hoffers
      obtain ⟨p, r', hfill, -, -, h'⟩ := fill_of_offers hoffers
      rw [hfill]
      exact ⟨offers_content_iff.1 (by rwa [h'.content_eq]), nofun⟩
  advance _ h := h
  unread bytes h := by rwa [source_unread, limit_unread]

end Reader

end WireFetch
