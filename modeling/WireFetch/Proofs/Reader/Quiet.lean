import WireFetch.Proofs.Reader.Keeps

/-!
# Readers on which nothing fails

Where the stream never fails, there is one failure left that reading can meet: nothing comes in
time. A stream may bring its bytes in any pieces, pause, or fall silent; it stays without failures
whatever is read from it, and the limit stays what it was (`Reader.Quiet`).

## Main definitions

* `Reader.Quiet` — no failure on the stream, and this limit
* `IsLate` — the failure to wait any longer

## Main results

* `Reader.keeps_quiet` — the operations keep this, and nothing but being late stops them
-/

namespace WireFetch

/-- Nothing came within the limit. -/
def IsLate (limit : Option Duration) (e : FetchError) : Prop :=
  ∃ time, limit = some time ∧ e = .timeout .read time

theorem isLate_of_late {limit : Option Duration} {e : FetchError}
    (h : Stop.late .read limit = .failed e) : IsLate limit e := by
  cases limit with
  | none => cases h
  | some time =>
    cases h
    exact ⟨time, rfl, rfl⟩

/-- What a read brings from a stream without failures, and what it leaves. -/
theorem ByteStream.next_of_no_fault {s : ByteStream} (limit : Option Duration)
    (h : ∀ cause, .fault cause ∉ s) :
    (∀ cause, (s.next limit).1 ≠ .failed cause) ∧ ∀ cause, .fault cause ∉ (s.next limit).2 := by
  induction s generalizing limit with
  | nil =>
    refine ⟨fun cause hc => ?_, fun _ => List.not_mem_nil⟩
    cases hc
  | cons segment s ih =>
    have hs : ∀ cause, .fault cause ∉ s := fun cause hc => h cause (List.mem_cons_of_mem _ hc)
    cases segment with
    | bytes b =>
      rw [next]
      split
      · exact ih limit hs
      · refine ⟨fun cause hc => ?_, fun cause hc => ?_⟩
        · cases hc
        · cases hc
          exact hs cause ‹_›
    | fault cause => exact absurd (List.mem_cons_self ..) (h cause)
    | pause time =>
      cases limit with
      | none => exact ih none hs
      | some limit =>
        rw [next]
        split
        · exact ih _ hs
        · refine ⟨fun cause hc => ?_, fun cause hc => ?_⟩
          · cases hc
          · cases hc
            exact hs cause ‹_›
    | stall =>
      refine ⟨fun cause hc => ?_, h⟩
      cases hc

namespace Reader

/-- Nothing on the stream fails, and this is the limit. -/
structure Quiet (limit : Option Duration) (r : Reader) : Prop where
  limit_eq : r.limit = limit
  no_fault : ∀ cause, .fault cause ∉ r.source

theorem keeps_quiet (limit : Option Duration) :
    Keeps (Quiet limit) (· = .late .read limit) where
  fill {r} h := by
    obtain ⟨rfl, hsource⟩ := h
    obtain ⟨hfailed, hleft⟩ := ByteStream.next_of_no_fault r.limit hsource
    cases hp : r.pending with
    | cons b p =>
      rw [fill_of_pending hp]
      exact ⟨⟨rfl, hsource⟩, nofun⟩
    | nil =>
      rw [fill_of_pending_nil hp]
      rcases hnext : r.source.next r.limit with ⟨delivery, source'⟩
      rw [hnext] at hfailed hleft
      cases delivery with
      | data bytes => exact ⟨⟨rfl, hleft⟩, nofun⟩
      | failed cause => exact absurd rfl (hfailed cause)
      | nothing => exact ⟨⟨rfl, hleft⟩, fun stop h => (Except.error.inj h).symm⟩
  advance _ h := ⟨h.limit_eq, h.no_fault⟩
  unread bytes h :=
    ⟨(limit_unread bytes _).trans h.limit_eq, by rw [source_unread]; exact h.no_fault⟩

end Reader

end WireFetch
