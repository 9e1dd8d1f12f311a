import WireFetch.Reader

/-!
# The operations on single bytes

`Reader.content` is the queue that a reader is: everything that can still be read. The lemmas here
are about its first byte, for any reader on which an operation had a result; what the stream does
later plays no part.

## Main results

* `Reader.content_peekByte` — to peek changes nothing
* `Reader.content_of_readByte` — to read takes the first byte
* `Reader.readByte_of_peekByte` — what was peeked at is read next
-/

namespace WireFetch.Reader

variable {r r' : Reader} {b : UInt8}

theorem pending_of_peekByte (h : r.peekByte = (.ok (some b), r')) : ∃ p, r'.pending = b :: p := by
  rcases hfill : r.fill with ⟨stop | ok, r₁⟩
  · rw [peekByte_of_fill_error hfill] at h
    cases h
  · rw [peekByte_of_fill hfill] at h
    simp only [Prod.mk.injEq, Except.ok.injEq] at h
    obtain ⟨hhead, rfl⟩ := h
    exact List.head?_eq_some_iff.1 hhead

/-- To peek changes nothing. -/
@[simp] theorem content_peekByte (r : Reader) : r.peekByte.2.content = r.content := by
  have hcontent := content_fill r
  rcases hfill : r.fill with ⟨stop | ok, r₁⟩ <;> rw [hfill] at hcontent
  · rwa [peekByte_of_fill_error hfill]
  · rwa [peekByte_of_fill hfill]

/-- To read takes the first byte. -/
theorem content_of_readByte (h : r.readByte = (.ok (some b), r')) :
    r.content = b :: r'.content := by
  have hcontent := content_fill r
  rcases hfill : r.fill with ⟨stop | ok, r₁⟩
  · rw [readByte_of_fill_error hfill] at h
    cases h
  · rw [hfill] at hcontent
    rw [readByte_of_fill hfill] at h
    simp only [Prod.mk.injEq, Except.ok.injEq] at h
    obtain ⟨hhead, rfl⟩ := h
    obtain ⟨p, hp⟩ := List.head?_eq_some_iff.1 hhead
    have hadvance := content_advance 1 r₁
    rw [hp] at hadvance ⊢
    exact hcontent.symm.trans hadvance

/-- What was peeked at is read next. -/
theorem readByte_of_peekByte (h : r.peekByte = (.ok (some b), r')) :
    ∃ r'', r'.readByte = (.ok (some b), r'') := by
  obtain ⟨p, hp⟩ := pending_of_peekByte h
  exact ⟨_, by rw [readByte_of_fill (fill_of_pending hp), hp]; rfl⟩

end WireFetch.Reader
