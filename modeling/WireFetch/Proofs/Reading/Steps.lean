import WireFetch.Proofs.Reader.Offers
import WireFetch.Reading

/-!
# Readings step by step

A reading is followed from the first byte on: as long as the reader offers the bytes that an
activity asks for, one knows with what it goes on, and which bytes are then offered
(`Reading.Leads`). Steps are put together with `Leads.trans`, and inside a larger activity with
`Leads.bind`, so what an activity does on a text is a chain of steps like the text itself. What is
behind the offered bytes stays untouched all along.

## Main definitions

* `Reading.Leads` — an activity goes on as another one

## Main results

* `Reading.bind_of_ok`, `bind_of_error`, `exists_of_bind_eq_ok`, `exists_of_bind_eq_error` — one
  activity after another
* `Reading.leads_peekByte`, `leads_readByte`, `leads_unread` — the steps on bytes
* `Reading.Leads.alone` — bytes that are all there is
-/

namespace WireFetch

namespace Reading

variable {α β : Type} {act act' act'' : Reading α} {f : α → Reading β} {s s' : Session}

/-! ### One activity after another -/

theorem bind_of_ok {a : α} (h : act s = (.ok a, s')) : (act >>= f) s = f a s' := by
  simp [bind, ExceptT.bind, ExceptT.mk, StateT.bind, ExceptT.bindCont, h]

theorem bind_of_error {stop : Stop} (h : act s = (.error stop, s')) :
    (act >>= f) s = (.error stop, s') := by
  simp [bind, ExceptT.bind, ExceptT.mk, StateT.bind, ExceptT.bindCont, h]
  rfl

@[simp] theorem pure_apply (a : α) (s : Session) : (pure a : Reading α) s = (.ok a, s) := rfl

@[simp] theorem fail_apply (e : FetchError) (s : Session) :
    (fail e : Reading α) s = (.error (.failed e), s) := rfl

theorem bind_apply_congr {t : Session} (f : α → Reading β) (h : act s = act' t) :
    (act >>= f) s = (act' >>= f) t := by
  rcases ht : act' t with ⟨result, t'⟩
  rw [ht] at h
  cases result with
  | ok a => rw [bind_of_ok h, bind_of_ok ht]
  | error stop => rw [bind_of_error h, bind_of_error ht]

/-- What brings a result has first brought one for its first part. -/
theorem exists_of_bind_eq_ok {b : β} (h : (act >>= f) s = (.ok b, s')) :
    ∃ a s₁, act s = (.ok a, s₁) ∧ f a s₁ = (.ok b, s') := by
  rcases hs : act s with ⟨result, s₁⟩
  cases result with
  | ok a =>
    rw [bind_of_ok hs] at h
    exact ⟨a, s₁, rfl, h⟩
  | error stop =>
    rw [bind_of_error hs] at h
    cases h

/-- What stops has stopped in its first part, or has brought a result there first. -/
theorem exists_of_bind_eq_error {stop : Stop} (h : (act >>= f) s = (.error stop, s')) :
    act s = (.error stop, s') ∨ ∃ a s₁, act s = (.ok a, s₁) ∧ f a s₁ = (.error stop, s') := by
  rcases hs : act s with ⟨result, s₁⟩
  cases result with
  | ok a =>
    rw [bind_of_ok hs] at h
    exact .inr ⟨a, s₁, rfl, h⟩
  | error stop' =>
    rw [bind_of_error hs] at h
    obtain ⟨hstop, rfl⟩ := Prod.mk.inj h
    exact .inl (by rw [Except.error.inj hstop])

theorem peekByte_apply (s : Session) :
    peekByte s = (s.reader.peekByte.1, { s with reader := s.reader.peekByte.2 }) := rfl

theorem readByte_apply (s : Session) :
    readByte s = (s.reader.readByte.1, { s with reader := s.reader.readByte.2 }) := rfl

/-! ### Going on -/

/-- On a reader that offers `u`, `act` comes to the same as `act'` on one that offers `v`. What the
stream does behind these bytes is `behind`. -/
def Leads (behind : ByteStream) (act : Reading α) (u : List UInt8) (act' : Reading α)
    (v : List UInt8) : Prop :=
  ∀ s : Session, s.reader.Offers u behind →
    ∃ s' : Session, act s = act' s' ∧ s'.reader.Offers v behind

variable {behind : ByteStream} {b : UInt8} {u v w : List UInt8}

theorem leads_refl (act : Reading α) : Leads behind act u act u := fun s hs => ⟨s, rfl, hs⟩

theorem Leads.trans (h : Leads behind act u act' v) (h' : Leads behind act' v act'' w) :
    Leads behind act u act'' w := by
  intro s hs
  obtain ⟨s₁, h₁, hs₁⟩ := h s hs
  obtain ⟨s₂, h₂, hs₂⟩ := h' s₁ hs₁
  exact ⟨s₂, h₁.trans h₂, hs₂⟩

/-- The rest of an activity is carried along. -/
theorem Leads.bind (h : Leads behind act u act' v) (f : α → Reading β) :
    Leads behind (act >>= f) u (act' >>= f) v := by
  intro s hs
  obtain ⟨s', hact, hs'⟩ := h s hs
  exact ⟨s', bind_apply_congr f hact, hs'⟩

/-- Once its first part has a result, an activity goes on with the rest. -/
theorem Leads.bind_pure {a : α} (h : Leads behind act u (pure a) v) (f : α → Reading β) :
    Leads behind (act >>= f) u (f a) v :=
  h.bind f

theorem Leads.bind_fail {e : FetchError} (h : Leads behind act u (fail e) v) (f : α → Reading β) :
    Leads behind (act >>= f) u (fail e) v :=
  h.bind f

theorem leads_note (level : Log.Level) (area : Log.Area) (message : String) :
    Leads behind (note level area message) u (pure ()) u := fun _ hs => ⟨_, rfl, hs⟩

theorem leads_peekByte : Leads behind peekByte (b :: u) (pure (some b)) (b :: u) := by
  intro s hs
  obtain ⟨r', hpeek, h'⟩ := Reader.peekByte_of_offers hs
  exact ⟨{ s with reader := r' }, by rw [peekByte_apply, hpeek]; rfl, h'⟩

theorem leads_readByte : Leads behind readByte (b :: u) (pure (some b)) u := by
  intro s hs
  obtain ⟨r', hread, h'⟩ := Reader.readByte_of_offers hs
  exact ⟨{ s with reader := r' }, by rw [readByte_apply, hread]; rfl, h'⟩

theorem leads_unread (bytes : List UInt8) :
    Leads behind (unread bytes) u (pure ()) (bytes ++ u) := fun s hs =>
  ⟨{ s with reader := s.reader.unread bytes }, rfl, Reader.offers_unread bytes hs⟩

/-- What goes on in the same way before anything does so before nothing. -/
theorem leads_nil (h : ∀ w behind, Leads behind act (u ++ w) act' (v ++ w)) :
    Leads [] act u act' v := by
  have hnil := h [] []
  rwa [List.append_nil, List.append_nil] at hnil

/-- What an activity comes to, and leaves, when the bytes are all there is. -/
theorem Leads.alone (h : Leads [] act u act' v) :
    ∃ s', act { reader := { source := [.bytes u] } } = act' s' ∧ s'.reader.content = v := by
  obtain ⟨s', hact, hs'⟩ := h { reader := { source := [.bytes u] } } (Reader.offers_bytes u)
  exact ⟨s', hact, hs'.content_eq⟩

/-! At the end of the stream. -/

theorem leads_peekByte_nil : Leads [] peekByte [] (pure none) [] := by
  intro s hs
  obtain ⟨r', hpeek, h'⟩ := Reader.peekByte_of_offers_nil hs
  exact ⟨{ s with reader := r' }, by rw [peekByte_apply, hpeek]; rfl, h'⟩

theorem leads_readByte_nil : Leads [] readByte [] (pure none) [] := by
  intro s hs
  obtain ⟨r', hread, h'⟩ := Reader.readByte_of_offers_nil hs
  exact ⟨{ s with reader := r' }, by rw [readByte_apply, hread]; rfl, h'⟩

end Reading

end WireFetch
