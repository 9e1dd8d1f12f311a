import WireFetch.Proofs.Reading.Steps

/-!
# Activities that take a bounded number of bytes

A stream may go on for ever, so that an activity comes to an end is not to be seen from the stream.
What is to be seen is a bound: `Reading.Bounded n act` says that `act` takes at most `n` bytes, and
that whether more than one byte follows these makes no difference to it. On more than `n` bytes it
does the same whatever comes behind them, a stream that falls silent included; if there are no more,
it does something that is known as well, since the stream ends.

The one byte more is the price of a look ahead: to look at a byte is not to take it. It is paid only
once, not by each part of an activity, because a part that was stopped by its bound leaves all that
the next one may take, and the byte behind it. So the bounds of the parts are just added.

## Main definitions

* `Reading.outcome` — a result or a failure
* `Reading.Bounded` — a bound on the bytes that are taken

## Main results

* `Reading.Bounded.bind` — bounds are added
* `Reading.Bounded.exists_outcome` — the outcome depends on the first bytes only
-/

namespace WireFetch.Reading

variable {α β : Type} {act : Reading α} {f : α → Reading β} {n m : Nat}

/-- To have this outcome without doing anything. -/
def outcome : Except FetchError α → Reading α
  | .ok a => pure a
  | .error e => fail e

/-- On the bytes `v`, the activity has this outcome, and leaves `x`: if they are all there is, and
if there are more than `n`, whatever is behind them. -/
structure ComesTo (n : Nat) (act : Reading α) (v : List UInt8) (result : Except FetchError α)
    (x : List UInt8) : Prop where
  alone : Leads [] act v (outcome result) x
  before : n < v.length → ∀ w behind, Leads behind act (v ++ w) (outcome result) (x ++ w)

/-- The activity takes at most `n` bytes from the front, and looks at most at one more. -/
def Bounded (n : Nat) (act : Reading α) : Prop :=
  ∀ v : List UInt8, ∃ result x, x <:+ v ∧ v.length ≤ x.length + n ∧ ComesTo n act v result x

/-! ### Parts of activities -/

theorem comesTo_of_leads {result : Except FetchError α} {v x : List UInt8}
    (h : ∀ w behind, Leads behind act (v ++ w) (outcome result) (x ++ w)) :
    ComesTo n act v result x :=
  ⟨leads_nil h, fun _ => h⟩

theorem Bounded.mono (h : Bounded n act) (hnm : n ≤ m) : Bounded m act := by
  intro v
  obtain ⟨result, x, hx, hlength, hcomes⟩ := h v
  exact ⟨result, x, hx, by omega, hcomes.alone, fun hm => hcomes.before (by omega)⟩

theorem bounded_pure (a : α) : Bounded 0 (pure a) := fun v =>
  ⟨.ok a, v, List.suffix_refl v, Nat.le_refl _, comesTo_of_leads fun _ _ => leads_refl _⟩

theorem bounded_fail (e : FetchError) : Bounded 0 (fail e : Reading α) := fun v =>
  ⟨.error e, v, List.suffix_refl v, Nat.le_refl _, comesTo_of_leads fun _ _ => leads_refl _⟩

theorem bounded_note (level : Log.Level) (area : Log.Area) (message : String) :
    Bounded 0 (note level area message) := fun v =>
  ⟨.ok (), v, List.suffix_refl v, Nat.le_refl _,
    comesTo_of_leads fun _ _ => leads_note level area message⟩

theorem bounded_peekByte : Bounded 0 peekByte := by
  intro v
  cases v with
  | nil => exact ⟨.ok none, [], List.suffix_refl _, Nat.le_refl _, leads_peekByte_nil, nofun⟩
  | cons b v =>
    exact ⟨.ok (some b), b :: v, List.suffix_refl _, Nat.le_refl _,
      comesTo_of_leads fun _ _ => leads_peekByte⟩

theorem bounded_readByte : Bounded 1 readByte := by
  intro v
  cases v with
  | nil => exact ⟨.ok none, [], List.suffix_refl _, Nat.zero_le _, leads_readByte_nil, nofun⟩
  | cons b v =>
    exact ⟨.ok (some b), v, List.suffix_cons b v, Nat.le_refl _,
      comesTo_of_leads fun _ _ => leads_readByte⟩

/-! ### One activity after another -/

/-- What comes behind a result may also give back some of what was taken for it. -/
theorem Bounded.bind_of_comesTo (h : Bounded n act)
    (hf : ∀ v a x, x <:+ v → Leads [] act v (pure a) x → ∃ result y, y <:+ v ∧
      x.length ≤ y.length + m ∧ ComesTo m (f a) x result y) : Bounded (n + m) (act >>= f) := by
  intro v
  obtain ⟨result, x, hx, hlength, hcomes⟩ := h v
  cases result with
  | error e =>
    exact ⟨.error e, x, hx, by omega, hcomes.alone.bind_fail f, fun hv w behind =>
      (hcomes.before (by omega) w behind).bind_fail f⟩
  | ok a =>
    obtain ⟨result, y, hy, hlength', hcomes'⟩ := hf v a x hx hcomes.alone
    refine ⟨result, y, hy, by omega, (hcomes.alone.bind_pure f).trans hcomes'.alone,
      fun hv w behind => ?_⟩
    exact ((hcomes.before (by omega) w behind).bind_pure f).trans
      (hcomes'.before (by omega) w behind)

/-- The bounds of the parts are added. -/
theorem Bounded.bind (h : Bounded n act) (hf : ∀ a, Bounded m (f a)) :
    Bounded (n + m) (act >>= f) :=
  h.bind_of_comesTo fun _ a x hx _ =>
    have ⟨result, y, hy, hrest⟩ := hf a x
    ⟨result, y, hy.trans hx, hrest⟩

/-! ### On a stream -/

/-- The outcome and the number of bytes that are taken depend on the first `n + 1` bytes only, or on
all of them if the stream ends before. -/
theorem Bounded.exists_outcome (h : Bounded n act) (u : List UInt8) :
    ∃ (result : Except FetchError α) (taken : Nat), taken ≤ n ∧
      ∀ {s : Session} {v : List UInt8} {behind : ByteStream}, s.reader.Offers v behind →
        v.take (n + 1) = u.take (n + 1) → (n < v.length ∨ behind = []) →
      ∃ s', act s = (result.mapError Stop.failed, s') ∧ s'.reader.Offers (v.drop taken) behind := by
  obtain ⟨result, x, ⟨p, hx⟩, hlength, hcomes⟩ := h (u.take (n + 1))
  have houtcome : ∀ s', outcome result s' = (result.mapError Stop.failed, s') := by
    cases result <;> exact fun _ => rfl
  refine ⟨result, p.length, ?_, fun {s v behind} hs hfirst hend => ?_⟩
  · rw [← hx, List.length_append] at hlength
    omega
  · by_cases hv : n < v.length
    · have hsplit : v = u.take (n + 1) ++ v.drop (n + 1) := by
        rw [← hfirst, List.take_append_drop]
      have hlong : n < (u.take (n + 1)).length := by
        rw [← hfirst, List.length_take]
        omega
      have hdrop : v.drop p.length = x ++ v.drop (n + 1) := by
        conv => lhs; rw [hsplit, ← hx, List.append_assoc, List.drop_left]
      rw [hsplit] at hs
      obtain ⟨s', hact, hs'⟩ := hcomes.before hlong (v.drop (n + 1)) behind s hs
      exact ⟨s', hact.trans (houtcome s'), by rwa [hdrop]⟩
    · obtain rfl := hend.resolve_left hv
      have hall : v = u.take (n + 1) := by rw [← hfirst, List.take_of_length_le (by omega)]
      have hdrop : v.drop p.length = x := by rw [hall, ← hx, List.drop_left]
      rw [hall] at hs
      obtain ⟨s', hact, hs'⟩ := hcomes.alone s hs
      exact ⟨s', hact.trans (houtcome s'), by rwa [hdrop]⟩

end WireFetch.Reading
