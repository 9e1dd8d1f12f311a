import WireFetch.Proofs.Reading.Steps

/-!
# Activities that some bytes decide

Some bytes decide an activity if what comes behind them makes no difference to it: it has a result
or fails, and in either case nothing but these bytes was looked at, so the same happens with any
bytes behind them and on any stream. What is left is then an end of these bytes, followed by what
was behind them all along.

To be decided is not the same as to come to an end when the stream ends there. At the end of the
stream an activity can see that nothing follows, and on a stream that goes on it cannot. The one
case in which the end may be seen here is the failure that says so, `FetchError.unexpectedEof`.

An activity that hands bytes back may leave more than its last part was given. So the bytes `u` are
those from the very beginning, and what is still ahead is an end of them at any time.

## Main definitions

* `Reading.Decided` — nothing behind the bytes makes a difference, or they are too few

## Main results

* `Reading.Decided.bind`, `Decided.of_leads` — activities made of others
-/

namespace WireFetch.Reading

variable {α β : Type} {act act' : Reading α} {f : α → Reading β} {u v x : List UInt8}

/-- The bytes `u`, of which `v` are ahead, decide on the activity, or they end too early. -/
inductive Decided (u : List UInt8) (act : Reading α) (v : List UInt8) : Prop
  | result (a : α) (x : List UInt8) (hx : x <:+ u)
      (h : ∀ w behind, Leads behind act (v ++ w) (pure a) (x ++ w)) : Decided u act v
  | failure (e : FetchError) (x : List UInt8) (hx : x <:+ u)
      (h : ∀ w behind, Leads behind act (v ++ w) (fail e) (x ++ w)) : Decided u act v
  | ended (h : Leads [] act v (fail .unexpectedEof) []) : Decided u act v

theorem decided_pure (a : α) (hv : v <:+ u) : Decided u (pure a) v :=
  .result a v hv fun _ _ => leads_refl _

theorem decided_fail (e : FetchError) (hv : v <:+ u) : Decided u (fail e : Reading α) v :=
  .failure e v hv fun _ _ => leads_refl _

theorem decided_note (level : Log.Level) (area : Log.Area) (message : String) (hv : v <:+ u) :
    Decided u (note level area message) v :=
  .result () v hv fun _ _ => leads_note level area message

theorem Decided.of_leads (h : ∀ w behind, Leads behind act (v ++ w) act' (x ++ w))
    (h' : Decided u act' x) : Decided u act v := by
  cases h' with
  | result a y hy h' =>
    exact .result a y hy fun w behind => (h w behind).trans (h' w behind)
  | failure e y hy h' =>
    exact .failure e y hy fun w behind => (h w behind).trans (h' w behind)
  | ended h' => exact .ended ((leads_nil h).trans h')

/-- If the first part has a result, the rest is to be decided with the bytes that it leaves. -/
theorem Decided.bind (h : Decided u act v)
    (hf : ∀ a x, x <:+ u → (∀ w behind, Leads behind act (v ++ w) (pure a) (x ++ w)) →
      Decided u (f a) x) : Decided u (act >>= f) v := by
  cases h with
  | result a x hx h => exact .of_leads (fun w behind => (h w behind).bind_pure f) (hf a x hx h)
  | failure e x hx h => exact .failure e x hx fun w behind => (h w behind).bind_fail f
  | ended h => exact .ended (h.bind_fail f)

end WireFetch.Reading
