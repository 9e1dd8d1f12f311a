import WireFetch.Proofs.Reading.Steps

/-!
# Readings on two readers

An activity reaches the reader only through the operations that peek at a byte, read a byte, or
hand bytes back. So if a relation between readers is such that these three do the same on related
readers and leave related readers behind, every activity made of them does the same on both. This
is the whole argument for statements about two runs.

## Main definitions

* `Reader.IsSimilarity` — a relation that the three operations respect
* `Reading.Agree` — an activity does the same on related readers

## Main results

* `Reading.Agree.bind` and the lemmas for the other parts of activities
* `Reader.isSimilarity_offers` — readers that offer the same bytes up to the end of the stream
-/

namespace WireFetch

/-! ### Agreement -/

/-- A relation between readers that the operations on bytes respect. -/
structure Reader.IsSimilarity (R : Reader → Reader → Prop) : Prop where
  peekByte : ∀ {r t : Reader}, R r t →
    r.peekByte.1 = t.peekByte.1 ∧ R r.peekByte.2 t.peekByte.2
  readByte : ∀ {r t : Reader}, R r t →
    r.readByte.1 = t.readByte.1 ∧ R r.readByte.2 t.readByte.2
  unread : ∀ {r t : Reader} (bytes : List UInt8), R r t → R (r.unread bytes) (t.unread bytes)

namespace Reading

variable {α β : Type} {R : Reader → Reader → Prop} {act : Reading α} {f : α → Reading β}

/-- An activity does the same on related readers and leaves related readers behind. -/
def Agree (R : Reader → Reader → Prop) (act : Reading α) : Prop :=
  ∀ s t : Session, R s.reader t.reader →
    (act s).1 = (act t).1 ∧ R (act s).2.reader (act t).2.reader

theorem agree_pure (a : α) : Agree R (pure a) := fun _ _ h => ⟨rfl, h⟩

theorem agree_fail (e : FetchError) : Agree R (fail e : Reading α) := fun _ _ h => ⟨rfl, h⟩

theorem agree_note (level : Log.Level) (area : Log.Area) (message : String) :
    Agree R (note level area message) := fun _ _ h => ⟨rfl, h⟩

theorem agree_peekByte (hR : Reader.IsSimilarity R) : Agree R peekByte := fun _ _ h =>
  hR.peekByte h

theorem agree_readByte (hR : Reader.IsSimilarity R) : Agree R readByte := fun _ _ h =>
  hR.readByte h

theorem agree_unread (hR : Reader.IsSimilarity R) (bytes : List UInt8) :
    Agree R (unread bytes) := fun _ _ h => ⟨rfl, hR.unread bytes h⟩

theorem Agree.bind (h : Agree R act) (hf : ∀ a, Agree R (f a)) : Agree R (act >>= f) := by
  intro s t hst
  rcases hs : act s with ⟨result, s'⟩
  rcases ht : act t with ⟨result', t'⟩
  have hact := h s t hst
  rw [hs, ht] at hact
  obtain ⟨rfl : result = result', hst'⟩ := hact
  cases result with
  | ok a =>
    rw [bind_of_ok hs, bind_of_ok ht]
    exact hf a s' t' hst'
  | error stop =>
    rw [bind_of_error hs, bind_of_error ht]
    exact ⟨rfl, hst'⟩

end Reading

/-- The pieces in which the bytes arrive make no difference. -/
theorem Reader.isSimilarity_offers :
    IsSimilarity fun r t => ∃ u, r.Offers u [] ∧ t.Offers u [] where
  peekByte := by
    rintro r t ⟨u, hr, ht⟩
    cases u with
    | nil =>
      obtain ⟨r', er, hr'⟩ := peekByte_of_offers_nil hr
      obtain ⟨t', et, ht'⟩ := peekByte_of_offers_nil ht
      rw [er, et]
      exact ⟨rfl, [], hr', ht'⟩
    | cons b u =>
      obtain ⟨r', er, hr'⟩ := peekByte_of_offers hr
      obtain ⟨t', et, ht'⟩ := peekByte_of_offers ht
      rw [er, et]
      exact ⟨rfl, b :: u, hr', ht'⟩
  readByte := by
    rintro r t ⟨u, hr, ht⟩
    cases u with
    | nil =>
      obtain ⟨r', er, hr'⟩ := readByte_of_offers_nil hr
      obtain ⟨t', et, ht'⟩ := readByte_of_offers_nil ht
      rw [er, et]
      exact ⟨rfl, [], hr', ht'⟩
    | cons b u =>
      obtain ⟨r', er, hr'⟩ := readByte_of_offers hr
      obtain ⟨t', et, ht'⟩ := readByte_of_offers ht
      rw [er, et]
      exact ⟨rfl, u, hr', ht'⟩
  unread := by
    rintro r t bytes ⟨u, hr, ht⟩
    exact ⟨bytes ++ u, offers_unread bytes hr, offers_unread bytes ht⟩

end WireFetch
