import WireFetch.Proofs.Body.Policy
import WireFetch.Proofs.Head.Agree
import WireFetch.Proofs.Response.Basic

/-!
# The pieces of a response

The bytes of a response arrive in pieces that nobody chose: a line end may be torn apart, markup
may begin in one piece and end in another, a piece may be empty or larger than one read takes. None
of this can be seen in what is read. Two streams with the same bytes, cut in any way and with any
pauses that are in time, give the same head, the same body, and leave the same bytes.

For the head this is the similarity of readers that offer the same bytes. The body is not made of
single bytes; there the pieces are gone as soon as it is told from `Reader.drain`.

## Main results

* `readHeadAndBody_of_offers` — readers that offer the same bytes
* `readHeadAndBody_eq_of_data_eq` — streams with the same bytes
-/

namespace WireFetch

open Reader

variable {s t : Session} {u : List UInt8}

theorem readHead_of_offers (hs : s.reader.Offers u []) (ht : t.reader.Offers u []) :
    (readHead s).1 = (readHead t).1 ∧
      ∃ v, (readHead s).2.reader.Offers v [] ∧ (readHead t).2.reader.Offers v [] :=
  agree_readHead isSimilarity_offers s t ⟨u, hs, ht⟩

/-- Readers that offer the same bytes give the same head and the same body, and still deliver the
same bytes afterwards. -/
theorem readHeadAndBody_of_offers (allowed : Option Nat) (hs : s.reader.Offers u [])
    (ht : t.reader.Offers u []) :
    (readHeadAndBody allowed s).1 = (readHeadAndBody allowed t).1 ∧
      (readHeadAndBody allowed s).2.reader.drain = (readHeadAndBody allowed t).2.reader.drain ∧
      (readHeadAndBody allowed s).2.reader.drain.2 = none := by
  obtain ⟨hresult, v, hs', ht'⟩ := readHead_of_offers hs ht
  rcases hsh : readHead s with ⟨result, s'⟩
  rcases hth : readHead t with ⟨result', t'⟩
  rw [hsh, hth] at hresult
  rw [hsh] at hs'
  rw [hth] at ht'
  have hdrain : s'.reader.drain = (v, none) := drain_of_offers hs'
  have hdrain' : t'.reader.drain = (v, none) := drain_of_offers ht'
  have hsame : s'.reader.drain = t'.reader.drain := hdrain.trans hdrain'.symm
  have hend : s'.reader.drain.2 = none := congrArg Prod.snd hdrain
  obtain rfl : result = result' := hresult
  cases result with
  | error stop =>
    rw [readHeadAndBody_of_error allowed hsh, readHeadAndBody_of_error allowed hth]
    exact ⟨rfl, hsame, hend⟩
  | ok head =>
    rw [readHeadAndBody_of_ok allowed hsh, readHeadAndBody_of_ok allowed hth]
    refine ⟨?_, Body.drain_readBody_congr _ _ allowed hsame hend⟩
    rw [Body.readBody_congr _ _ allowed hsame]

/-- **The pieces do not matter.** Two streams with the same bytes, both in time, give the same head
and the same body, whatever bound is set on the body, and the same bytes can be read afterwards up
to the end of the stream. -/
theorem readHeadAndBody_eq_of_data_eq {p q : ByteStream} {limit limit' : Option Duration}
    (allowed : Option Nat) (hp : p.InTime limit limit) (hq : q.InTime limit' limit')
    (hdata : p.data = q.data) :
    let s : Session := { reader := { source := p, limit } }
    let t : Session := { reader := { source := q, limit := limit' } }
    (readHeadAndBody allowed s).1 = (readHeadAndBody allowed t).1 ∧
      (readHeadAndBody allowed s).2.reader.drain = (readHeadAndBody allowed t).2.reader.drain ∧
      (readHeadAndBody allowed s).2.reader.drain.2 = none := by
  intro s t
  have hs : s.reader.Offers p.data [] := offers_of_inTime hp
  have ht : t.reader.Offers p.data [] := hdata ▸ offers_of_inTime hq
  exact readHeadAndBody_of_offers allowed hs ht

/-- A line break that a pause tears apart, an empty piece, and a body cut off in the middle. -/
theorem readHeadAndBody_eq_of_data_eq_torn :
    let p : ByteStream := [.bytes [72, 32, 50, 48, 48, 13, 10, 13, 10, 104, 105]]
    let q : ByteStream := [.bytes [72, 32, 50, 48, 48, 13], .pause ⟨5⟩, .bytes [],
      .bytes [10, 13, 10, 104], .bytes [105]]
    let s : Session := { reader := { source := p } }
    let t : Session := { reader := { source := q, limit := some ⟨7⟩ } }
    (readHeadAndBody (some 1) s).1 = (readHeadAndBody (some 1) t).1 ∧
      (readHeadAndBody (some 1) s).2.reader.drain = (readHeadAndBody (some 1) t).2.reader.drain ∧
      (readHeadAndBody (some 1) s).2.reader.drain.2 = none := by
  intro p q
  have hp : p.InTime none none :=
    ByteStream.inTime_of_isCalm (by simp [p, ByteStream.IsCalm]) nofun
  have hq : q.InTime (some ⟨7⟩) (some ⟨7⟩) := by
    refine ByteStream.inTime_of_isCalm (by simp [q, ByteStream.IsCalm]) fun time htime => ?_
    cases htime
    decide
  exact readHeadAndBody_eq_of_data_eq (some 1) hp hq rfl

end WireFetch
