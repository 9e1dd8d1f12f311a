import WireFetch.Proofs.Fetch.Itinerary

/-!
# Which steps an activity takes

An activity of a fetch is made of parts that take a step and parts that take none. `Fetching.Takes`
says which steps an activity takes, in order. If it has a result, each of them was begun and done;
if it stops, a relation says how the stop and the log go together. Activities that leave the log as
it is are `Fetching.Silent`. The two are put together along the activity.

## Main definitions

* `Fetching.Silent` — an activity that takes no step
* `Fetching.Takes`, `Fetching.Fails` — an activity that takes these steps, and one of them failing

## Main results

* `Fetching.Silent.during` — a silent activity as a step
* `Fetching.Takes.bind`, `Silent.bind`, `Silent.bind_takes`, `Takes.bind_silent` — one activity
  after another
-/

namespace WireFetch.Fetching

open Itinerary

variable {α β : Type} {steps steps' : List Step} {act : Fetching α} {f : α → Fetching β}
  {p p' : Progress} {P : α → Prop} {Q : β → Prop} {E : Stop → Prop}
  {R R' R'' : Stop → List Event → Prop}

/-! ### One activity after another -/

theorem bind_of_ok {a : α} (h : act p = (.ok a, p')) : (act >>= f) p = f a p' := by
  simp [bind, ExceptT.bind, ExceptT.mk, StateT.bind, ExceptT.bindCont, h]

theorem bind_of_error {stop : Stop} (h : act p = (.error stop, p')) :
    (act >>= f) p = (.error stop, p') := by
  simp [bind, ExceptT.bind, ExceptT.mk, StateT.bind, ExceptT.bindCont, h]
  rfl

/-- What brings a result has first brought one for its first part. -/
theorem exists_of_bind_eq_ok {b : β} (h : (act >>= f) p = (.ok b, p')) :
    ∃ a p₁, act p = (.ok a, p₁) ∧ f a p₁ = (.ok b, p') := by
  rcases hact : act p with ⟨stop | a, p₁⟩
  · rw [bind_of_error hact] at h
    cases h
  · rw [bind_of_ok hact] at h
    exact ⟨a, p₁, rfl, h⟩

/-- An outcome is what the activity comes to. -/
theorem eq_of_outcome_eq_ok {result : Except Stop α} (h : outcome act p = (.ok result, p')) :
    act p = (result, p') := by
  rcases hact : act p with ⟨result', p₁⟩
  rw [outcome, hact] at h
  cases h
  rfl

/-! ### Activities without steps -/

/-- An activity adds nothing to the log; what stops it has the property `E`, and a result the
property `P`. -/
def Silent (E : Stop → Prop) (act : Fetching α) (P : α → Prop) : Prop :=
  ∀ p : Progress, (act p).2.events = p.events ∧
    (∀ stop, (act p).1 = .error stop → E stop) ∧ ∀ a, (act p).1 = .ok a → P a

theorem silent_pure {a : α} (h : P a) : Silent E (pure a) P := fun _ =>
  ⟨rfl, nofun, fun _ ha => by cases ha; exact h⟩

theorem silent_fail {e : FetchError} (h : E (.failed e)) : Silent E (fail e) P := fun _ =>
  ⟨rfl, fun _ he => by cases he; exact h, nofun⟩

theorem silent_notes (records : List Log.Record) :
    Silent E (notes records) fun _ => True := fun _ => ⟨rfl, nofun, fun _ _ => trivial⟩

theorem silent_note (level : Log.Level) (area : Log.Area) (message : String) :
    Silent E (note level area message) fun _ => True := silent_notes _

theorem silent_expect (stream : ByteStream) : Silent E (expect stream) fun _ => True := fun _ =>
  ⟨rfl, nofun, fun _ _ => trivial⟩

theorem silent_take (r : Received) : Silent E (take r) fun _ => True := fun _ =>
  ⟨rfl, nofun, fun _ _ => trivial⟩

theorem silent_takeIf (takes : Bool) (r : Received) :
    Silent E (takeIf takes r) fun _ => True := by
  cases takes with
  | true => exact silent_take r
  | false => exact silent_pure trivial

/-- An activity that may stop has gone on if it did not. -/
theorem silent_stopIf {stops : Bool} {stop : Stop} (h : stops = true → E stop) :
    Silent E (stopIf stops stop) fun _ => stops = false := by
  cases stops with
  | true => exact fun _ => ⟨rfl, fun _ he => by cases he; exact h rfl, nofun⟩
  | false => exact silent_pure rfl

theorem silent_accept {value : Except FetchError α} (h : ∀ e, value = .error e → E (.failed e)) :
    Silent E (accept value) (value = .ok ·) := by
  cases value with
  | ok a => exact silent_pure rfl
  | error e => exact silent_fail (h e rfl)

theorem silent_reading (reader : Reader) (activity : Reading α)
    (h : ∀ stop, (activity { reader }).1 = .error stop → E stop) :
    Silent E (reading reader activity) fun x => ∃ s, activity { reader } = (.ok x.1, s) := by
  intro p
  unfold reading
  rcases hact : activity { reader } with ⟨stop | a, s⟩ <;> rw [hact] at h
  · exact ⟨rfl, fun stop' h' => by cases h'; exact h stop rfl, nofun⟩
  · exact ⟨rfl, nofun, fun x hx => by cases hx; exact ⟨s, rfl⟩⟩

theorem Silent.bind (h : Silent E act P) (hf : ∀ a, P a → Silent E (f a) Q) :
    Silent E (act >>= f) Q := by
  intro p
  obtain ⟨hlog, hE, hP⟩ := h p
  rcases hact : act p with ⟨stop | a, p'⟩ <;> rw [hact] at hlog hE hP
  · rw [bind_of_error hact]
    exact ⟨hlog, fun stop h => hE stop (by cases h; rfl), nofun⟩
  · rw [bind_of_ok hact]
    obtain ⟨hlog', h'⟩ := hf a (hP a rfl) p'
    exact ⟨hlog'.trans hlog, h'⟩

theorem Silent.weaken {P' : α → Prop} (h : Silent E act P) (hP : ∀ a, P a → P' a) :
    Silent E act P' := fun p =>
  let ⟨hlog, hE, hok⟩ := h p
  ⟨hlog, hE, fun a ha => hP a (hok a ha)⟩

/-! ### Activities with steps -/

/-- An activity takes these steps. If it has a result, they were all done, and the result has the
property `P`; if it stops, `R` relates the stop and what was added to the log. -/
def Takes (steps : List Step) (R : Stop → List Event → Prop) (act : Fetching α) (P : α → Prop) :
    Prop :=
  ∀ p : Progress, ∃ log, (act p).2.events = p.events ++ log ∧
    (∀ stop, (act p).1 = .error stop → R stop log) ∧
    ∀ a, (act p).1 = .ok a → log = allDone steps ∧ P a

theorem Silent.takes (h : Silent E act P) : Takes [] (fun stop log => log = [] ∧ E stop) act P := by
  intro p
  obtain ⟨hlog, hE, hP⟩ := h p
  exact ⟨[], by rw [hlog, List.append_nil], fun stop h => ⟨rfl, hE stop h⟩,
    fun a h => ⟨rfl, hP a h⟩⟩

theorem Takes.mono (h : Takes steps R act P) (hR : ∀ stop log, R stop log → R' stop log) :
    Takes steps R' act P := by
  intro p
  obtain ⟨log, hlog, hstop, hok⟩ := h p
  exact ⟨log, hlog, fun stop h => hR _ _ (hstop stop h), hok⟩

theorem Takes.weaken {P' : α → Prop} (h : Takes steps R act P) (hP : ∀ a, P a → P' a) :
    Takes steps R act P' := by
  intro p
  obtain ⟨log, hlog, hstop, hok⟩ := h p
  exact ⟨log, hlog, hstop, fun a h => (hok a h).imp_right (hP a)⟩

/-- If the second activity stops, the steps of the first had all been done. -/
theorem Takes.bind (h : Takes steps R act P) (hf : ∀ a, P a → Takes steps' R' (f a) Q)
    (hR : ∀ stop log, R stop log → R'' stop log)
    (hR' : ∀ stop log, R' stop log → R'' stop (allDone steps ++ log)) :
    Takes (steps ++ steps') R'' (act >>= f) Q := by
  intro p
  obtain ⟨log, hlog, hstop, hok⟩ := h p
  rcases hact : act p with ⟨stop | a, p'⟩ <;> rw [hact] at hlog hstop hok
  · rw [bind_of_error hact]
    exact ⟨log, hlog, fun stop h => hR _ _ (hstop stop (by cases h; rfl)), nofun⟩
  · obtain ⟨rfl, ha⟩ := hok a rfl
    obtain ⟨log', hlog', hstop', hok'⟩ := hf a ha p'
    rw [bind_of_ok hact]
    refine ⟨allDone steps ++ log', by rw [hlog', hlog, List.append_assoc],
      fun stop h => hR' _ _ (hstop' stop h), fun b h => ?_⟩
    obtain ⟨rfl, hb⟩ := hok' b h
    exact ⟨(allDone_append ..).symm, hb⟩

theorem Silent.bind_takes (h : Silent E act P) (hf : ∀ a, P a → Takes steps R (f a) Q)
    (hE : ∀ stop, E stop → R stop []) : Takes steps R (act >>= f) Q :=
  h.takes.bind hf (fun stop _ ⟨hlog, h⟩ => hlog ▸ hE stop h) fun _ _ h => h

theorem Takes.bind_silent (h : Takes steps R act P) (hf : ∀ a, P a → Silent E (f a) Q)
    (hE : ∀ stop, E stop → R stop (allDone steps)) : Takes steps R (act >>= f) Q := by
  have hbind := h.bind (fun a ha => (hf a ha).takes) (fun _ _ h => h) fun stop log ⟨hlog, h⟩ => by
    rw [hlog, List.append_nil]
    exact hE stop h
  rwa [List.append_nil] at hbind

/-! ### Steps that fail -/

/-- One of the steps failed, and the failure has the property `E`. -/
def Fails (steps : List Step) (E : Stop → Prop) (stop : Stop) (log : List Event) : Prop :=
  Breaks steps log ∧ E stop

theorem during_of_ok {step : Step} {a : α}
    (h : act { p with events := p.events ++ [.begun step] } = (.ok a, p')) :
    during step act p = (.ok a, { p' with events := p'.events ++ [.done step] }) := by
  have hbegun : record (.begun step) p
      = (.ok (), { p with events := p.events ++ [.begun step] }) := rfl
  have hdone : record (.done step) p'
      = (.ok (), { p' with events := p'.events ++ [.done step] }) := rfl
  rw [during, bind_of_ok hbegun, bind_of_ok h, bind_of_ok hdone]
  rfl

theorem during_of_error {step : Step} {stop : Stop}
    (h : act { p with events := p.events ++ [.begun step] } = (.error stop, p')) :
    during step act p = (.error stop, p') := by
  have hbegun : record (.begun step) p
      = (.ok (), { p with events := p.events ++ [.begun step] }) := rfl
  rw [during, bind_of_ok hbegun, bind_of_error h]

/-- What a step brings is what the activity in it brings. -/
theorem exists_of_during_eq_ok {step : Step} {a : α} (h : during step act p = (.ok a, p')) :
    ∃ p₁ p₂, act p₁ = (.ok a, p₂) := by
  rcases hact : act { p with events := p.events ++ [.begun step] } with ⟨stop | a', p₁⟩
  · rw [during_of_error hact] at h
    cases h
  · rw [during_of_ok hact] at h
    cases h
    exact ⟨_, _, hact⟩

/-- A silent activity as a step. -/
theorem Silent.during (h : Silent E act P) (step : Step) :
    Takes [step] (Fails [step] E) (during step act) P := by
  intro p
  obtain ⟨hlog, hE, hP⟩ := h { p with events := p.events ++ [.begun step] }
  rcases hact : act { p with events := p.events ++ [.begun step] } with ⟨stop | a, p'⟩ <;>
    rw [hact] at hlog hE hP
  · rw [during_of_error hact]
    exact ⟨[.begun step], hlog, fun stop h => ⟨.here step [], hE stop (by cases h; rfl)⟩, nofun⟩
  · have hlog' : p'.events = p.events ++ [.begun step] := hlog
    rw [during_of_ok hact]
    refine ⟨allDone [step], by simp [hlog'], nofun, fun a' h => ?_⟩
    cases h
    exact ⟨rfl, hP a rfl⟩

theorem Takes.bind_fails (h : Takes steps (Fails steps E) act P)
    (hf : ∀ a, P a → Takes steps' (Fails steps' E) (f a) Q) :
    Takes (steps ++ steps') (Fails (steps ++ steps') E) (act >>= f) Q :=
  h.bind hf (fun _ _ h => ⟨h.1.append steps', h.2⟩) fun _ _ h => ⟨h.1.allDone_append steps, h.2⟩

/-- One of the steps failed, or something behind them. -/
def FailsBehind (steps : List Step) (E : Stop → Prop) (stop : Stop) (log : List Event) : Prop :=
  (Breaks steps log ∨ log = allDone steps) ∧ E stop

theorem Takes.bind_failsBehind (h : Takes steps (Fails steps E) act P)
    (hf : ∀ a, P a → Takes steps' (FailsBehind steps' E) (f a) Q) :
    Takes (steps ++ steps') (FailsBehind (steps ++ steps') E) (act >>= f) Q :=
  h.bind hf (fun _ _ h => ⟨.inl (h.1.append steps'), h.2⟩) fun _ _ h =>
    ⟨h.1.imp (·.allDone_append steps) fun hlog => by rw [hlog, allDone_append], h.2⟩

theorem Takes.bind_silent_failsBehind (h : Takes steps (Fails steps E) act P)
    (hf : ∀ a, P a → Silent E (f a) Q) : Takes steps (FailsBehind steps E) (act >>= f) Q :=
  (h.mono fun _ _ h => ⟨.inl h.1, h.2⟩).bind_silent hf fun _ h => ⟨.inr rfl, h⟩

end WireFetch.Fetching
