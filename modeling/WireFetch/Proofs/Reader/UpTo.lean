import WireFetch.Body
import WireFetch.Proofs.Reader.Drain

/-!
# Bytes up to a cap

`Reader.readUpTo` reads in pieces, and the pieces depend on how the bytes arrive. What it brings
does not: it is `Reader.upTo` of what is ahead, for any reader. If the cap is reached, these are the
bytes up to the cap and no stop, not even one that comes with the very next byte; else everything,
with the stop. So at the cap nothing behind the last byte is asked for, which `readUpTo_of_offers`
says once more of a reader about whose further bytes nothing is known.

## Main definitions

* `Reader.upTo` — what is read of the bytes ahead

## Main results

* `Reader.readUpTo_fst`, `content_readUpTo` — what is read
* `Reader.drain_readUpTo`, `drain_readUpTo_of_le`, `drain_readUpTo_of_all` — what is left
* `Reader.readUpTo_of_offers` — nothing behind the cap is asked for
-/

namespace WireFetch

namespace Reader

/-! ### What is ahead up to a cap -/

variable {r r' : Reader} {cap : Option Nat} {n : Nat} {p u : List UInt8} {behind : ByteStream}

/-- What of the bytes ahead is read up to a cap, and the stop that is met on the way. -/
def upTo (cap : Option Nat) (ahead : List UInt8 × Option Stop) : List UInt8 × Option Stop :=
  match cap with
  | none => ahead
  | some n => if n ≤ ahead.1.length then (ahead.1.take n, none) else ahead

theorem upTo_nil (cap : Option Nat) : upTo cap ([], none) = ([], none) := by
  cases cap with
  | none => rfl
  | some n => simp [upTo]

theorem upTo_append {p : List UInt8} (u : List UInt8) (stop : Option Stop)
    (h : ∀ n, cap = some n → p.length ≤ n) :
    upTo cap (p ++ u, stop)
      = (p ++ (upTo (cap.map (· - p.length)) (u, stop)).1,
          (upTo (cap.map (· - p.length)) (u, stop)).2) := by
  cases cap with
  | none => rfl
  | some n =>
    have hn := h n rfl
    by_cases hle : n ≤ p.length + u.length
    · have hle' : n - p.length ≤ u.length := by omega
      simp [upTo, hle, hle', List.take_append, List.take_of_length_le hn]
    · have hle' : ¬ n - p.length ≤ u.length := by omega
      simp [upTo, hle, hle']

/-- The stop is met, or it is not. -/
theorem upTo_snd_eq_none_or (cap : Option Nat) (ahead : List UInt8 × Option Stop) :
    (upTo cap ahead).2 = none ∨ (upTo cap ahead).2 = ahead.2 := by
  cases cap with
  | none => exact .inr rfl
  | some n =>
    simp only [upTo]
    split
    · exact .inl rfl
    · exact .inr rfl

theorem upTo_snd_eq_none {ahead : List UInt8 × Option Stop} (cap : Option Nat)
    (h : ahead.2 = none) : (upTo cap ahead).2 = none :=
  (upTo_snd_eq_none_or cap ahead).elim id fun hstop => hstop.trans h

/-! ### Reading up to a cap -/

theorem length_le_of_read (h : r.read n = (.ok p, r')) : p.length ≤ n := by
  by_cases hn : n = 0
  · rw [read, if_pos hn] at h
    cases h
    exact Nat.zero_le _
  rcases hfill : r.fill with ⟨stop | ok, r₁⟩
  · rw [read_of_fill_error hn hfill] at h
    cases h
  · rw [read_of_fill hn hfill] at h
    cases h
    exact List.length_take_le ..

/-- The size of one read is within the cap. -/
theorem min_getD_le (h : cap = some n) :
    (cap.getD ByteStream.bufferSize).min ByteStream.bufferSize ≤ n := by
  subst h
  exact Nat.min_le_left _ _

/-- Only a cap of no bytes makes a read ask for none. -/
theorem eq_some_zero_of_min_getD_eq_zero
    (h : (cap.getD ByteStream.bufferSize).min ByteStream.bufferSize = 0) : cap = some 0 := by
  cases cap with
  | none => exact absurd h (by decide)
  | some n =>
    have : min n 8192 = 0 := h
    have hn : n = 0 := by omega
    rw [hn]

/-- A read up to a cap takes what it brings from the front, whatever ends it. -/
theorem content_readUpTo (cap : Option Nat) (r : Reader) :
    r.content = (r.readUpTo cap).1.1 ++ (r.readUpTo cap).2.content := by
  fun_induction readUpTo cap r with
  | case1 cap r want r' h => exact content_read h
  | case2 cap r want b bytes r' h more stop r'' h' ih =>
    rw [h'] at ih
    rw [content_read h, ih]
    simp
  | case3 cap r want stop r' h => exact (content_read_error h).symm

/-- A read up to a cap brings what is ahead up to the cap. -/
theorem readUpTo_fst (cap : Option Nat) (r : Reader) : (r.readUpTo cap).1 = upTo cap r.drain := by
  fun_induction readUpTo cap r with
  | case1 cap r want r' h =>
    by_cases hwant : want = 0
    · obtain rfl := eq_some_zero_of_min_getD_eq_zero hwant
      simp [upTo]
    · rw [(drain_of_read_ok_nil hwant h).1, upTo_nil]
  | case2 cap r want b bytes r' h more stop r'' h' ih =>
    have hlength : ∀ n, cap = some n → (b :: bytes).length ≤ n := fun n hn =>
      Nat.le_trans (length_le_of_read h) (min_getD_le hn)
    rw [h'] at ih
    rw [drain_of_read_ok h, upTo_append _ _ hlength, List.length_cons, ← ih]
  | case3 cap r want stop r' h =>
    rw [drain_of_read_error h]
    cases cap with
    | none => rfl
    | some n =>
      cases n with
      | zero => simp [want, read] at h
      | succ n => simp [upTo]

/-- Unless a stop was met, what is ahead goes on behind the bytes that were read. -/
theorem drain_readUpTo (h : (r.readUpTo cap).1.2 = none) :
    r.drain = ((r.readUpTo cap).1.1 ++ (r.readUpTo cap).2.drain.1, (r.readUpTo cap).2.drain.2) := by
  fun_induction readUpTo cap r with
  | case1 cap r want r' hread => exact drain_of_read_ok hread
  | case2 cap r want b bytes r' hread more stop r'' hrest ih =>
    rw [hrest] at ih
    rw [drain_of_read_ok hread, ih h]
    simp
  | case3 cap r want stop r' hread => cases h

/-- If there are enough bytes, those behind the cap are still ahead, with the same stop. -/
theorem drain_readUpTo_of_le (h : n ≤ r.drain.1.length) :
    (r.readUpTo (some n)).2.drain = (r.drain.1.drop n, r.drain.2) := by
  have hgot : (r.readUpTo (some n)).1 = (r.drain.1.take n, none) := by
    rw [readUpTo_fst]
    exact if_pos h
  have hnone : (r.readUpTo (some n)).1.2 = none := congrArg Prod.snd hgot
  have hdrain := drain_readUpTo hnone
  rw [hgot] at hdrain
  have hbytes : r.drain.1.take n ++ r.drain.1.drop n = r.drain.1.take n ++ _ :=
    (List.take_append_drop n _).trans (congrArg Prod.fst hdrain)
  exact Prod.ext (List.append_cancel_left hbytes).symm (congrArg Prod.snd hdrain).symm

/-- Nothing is ahead once everything was read. -/
theorem drain_readUpTo_of_all (h : (r.readUpTo cap).1 = r.drain) (hend : r.drain.2 = none) :
    (r.readUpTo cap).2.drain = ([], none) := by
  have hdrain := drain_readUpTo ((congrArg Prod.snd h).trans hend)
  rw [h] at hdrain
  exact Prod.ext (List.self_eq_append_right.1 (congrArg Prod.fst hdrain))
    ((congrArg Prod.snd hdrain).symm.trans hend)

/-- With the same ahead and nothing that stops, the same is left. -/
theorem drain_readUpTo_congr {t : Reader} (cap : Option Nat) (h : r.drain = t.drain)
    (hend : r.drain.2 = none) :
    (r.readUpTo cap).2.drain = (t.readUpTo cap).2.drain ∧ (r.readUpTo cap).2.drain.2 = none := by
  have hgot : (r.readUpTo cap).1 = (t.readUpTo cap).1 := by rw [readUpTo_fst, readUpTo_fst, h]
  have hnone : (r.readUpTo cap).1.2 = none := by
    rw [readUpTo_fst]
    exact upTo_snd_eq_none cap hend
  have hr := drain_readUpTo hnone
  have ht := drain_readUpTo (hgot ▸ hnone)
  rw [← h, ← hgot, hr] at ht
  obtain ⟨hbytes, hstop⟩ := Prod.mk.inj ht
  refine ⟨Prod.ext (List.append_cancel_left hbytes) hstop, ?_⟩
  exact (congrArg Prod.snd hr).symm.trans hend

/-- One read of what is still wanted. -/
theorem readUpTo_eq (cap : Option Nat) (r : Reader) :
    r.readUpTo cap
      = match r.read ((cap.getD ByteStream.bufferSize).min ByteStream.bufferSize) with
        | (.ok [], r') => (([], none), r')
        | (.ok (b :: bytes), r') =>
          ((b :: bytes ++ (r'.readUpTo (cap.map (· - (bytes.length + 1)))).1.1,
            (r'.readUpTo (cap.map (· - (bytes.length + 1)))).1.2),
            (r'.readUpTo (cap.map (· - (bytes.length + 1)))).2)
        | (.error stop, r') => (([], some stop), r') := by
  rw [readUpTo]
  split <;> rename_i h <;> rw [h]

/-- A cap that is offered is reached, and what is behind it is left alone. -/
theorem readUpTo_of_offers (hn : n ≤ u.length) (h : r.Offers u behind) :
    ∃ r', r.readUpTo (some n) = ((u.take n, none), r') ∧ r'.Offers (u.drop n) behind := by
  induction hlen : u.length using Nat.strongRecOn generalizing r u n with
  | ind k ih =>
    rw [readUpTo_eq]
    cases n with
    | zero => exact ⟨r, by simp [read], h⟩
    | succ n =>
      cases u with
      | nil => simp at hn
      | cons b u =>
        have hwant : (n + 1).min ByteStream.bufferSize ≠ 0 := by
          simp [ByteStream.bufferSize]
        obtain ⟨p, v, r₁, hread, hp, rfl, -, h₁⟩ := read_of_offers hwant h
        have hpn : p.length < n + 1 := Nat.lt_of_lt_of_le hp (Nat.min_le_left _ _)
        simp only [List.length_cons, List.length_append] at hn hlen
        obtain ⟨r', hrest, h'⟩ := ih v.length (by omega) (n := n - p.length) (by omega) h₁ rfl
        refine ⟨r', ?_, ?_⟩
        · have hleft : n + 1 - (p.length + 1) = n - p.length := by omega
          have htake : p.take n = p := List.take_of_length_le (Nat.le_of_lt_succ hpn)
          simp [hread, hleft, hrest, List.take_append, htake]
        · simpa [List.drop_append, List.drop_of_length_le (Nat.le_of_lt_succ hpn)] using h'

end Reader

end WireFetch
