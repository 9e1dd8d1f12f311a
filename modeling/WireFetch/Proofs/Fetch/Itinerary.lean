import WireFetch.Fetch.Progress

/-!
# The log of steps taken in order

A fetch has its steps before it and takes them one after another. What its log can be is then a
matter of lists, and nothing about the steps themselves is needed: `Itinerary.Follows` says that the
steps were taken in order until one failed, and that nothing but closing came behind that one. The
one place where a fetch may be given up between two steps is before a handshake.

From this follows what is said about orders: wherever a step was begun, all steps before it had been
done, and nothing else was in the log (`Itinerary.Follows.split`).

## Main definitions

* `Itinerary.allDone` — the log of steps that were all done
* `Itinerary.Breaks` — the log of steps of which one failed
* `Itinerary.Follows` — the log of a fetch that has these steps before it

## Main results

* `Itinerary.Breaks.follows`, `Itinerary.Follows.allDone_append` — logs put together
* `Itinerary.Follows.split`, `place`, `behind_done` — what is around a step
* `Itinerary.Follows.mem_behind` — what is behind a step that failed
* `Itinerary.Follows.mem`, `not_begun_behind` — no other step is begun
-/

namespace WireFetch.Itinerary

variable {step : Step} {steps taken ahead : List Step} {log before behind closing : List Event}

/-- The log of steps that were all done, one after another. -/
def allDone (steps : List Step) : List Event := steps.flatMap fun step => [.begun step, .done step]

@[simp] theorem allDone_nil : allDone [] = [] := rfl

@[simp] theorem allDone_cons (step : Step) (steps : List Step) :
    allDone (step :: steps) = .begun step :: .done step :: allDone steps := rfl

@[simp] theorem allDone_append (steps ahead : List Step) :
    allDone (steps ++ ahead) = allDone steps ++ allDone ahead := List.flatMap_append

@[simp] theorem begun_mem_allDone : .begun step ∈ allDone steps ↔ step ∈ steps := by
  simp [allDone]

@[simp] theorem done_mem_allDone : .done step ∈ allDone steps ↔ step ∈ steps := by
  simp [allDone]

/-! ### Steps of which one failed -/

/-- One of the steps was begun and not done; those before it were done. -/
inductive Breaks : List Step → List Event → Prop
  | here (step : Step) (steps : List Step) : Breaks (step :: steps) [.begun step]
  | later (step : Step) {steps : List Step} {log : List Event} (h : Breaks steps log) :
    Breaks (step :: steps) (.begun step :: .done step :: log)

theorem Breaks.append (h : Breaks steps log) (ahead : List Step) :
    Breaks (steps ++ ahead) log := by
  induction h with
  | here step steps => exact .here ..
  | later step h ih => exact .later step ih

theorem Breaks.allDone_append (taken : List Step) (h : Breaks steps log) :
    Breaks (taken ++ steps) (allDone taken ++ log) := by
  induction taken with
  | nil => exact h
  | cons step taken ih => exact .later step ih

theorem Breaks.eq_of_singleton (h : Breaks [step] log) : log = [.begun step] := by
  cases h with
  | here => rfl
  | later _ h => cases h

/-- A step that was begun is one of the steps. -/
theorem Breaks.mem (h : Breaks steps log) (hstep : .begun step ∈ log) : step ∈ steps := by
  induction h with
  | here => simp_all
  | later _ _ ih =>
    simp only [List.mem_cons, Event.begun.injEq, reduceCtorEq, false_or] at hstep
    exact List.mem_cons.2 (hstep.imp_right ih)

/-! ### Steps taken in order -/

/-- Nothing but closing. -/
inductive IsClosing : List Event → Prop
  | none : IsClosing []
  | begun (inside : Bool) : IsClosing [.begun (.close inside)]
  | done (inside : Bool) : IsClosing [.begun (.close inside), .done (.close inside)]

/-- The log of a fetch that has these steps before it. -/
inductive Follows : List Step → List Event → Prop
  | finished : Follows [] []
  /-- there is no handshake with this host -/
  | givenUp (host : String) (limit : Duration) (steps : List Step) :
    Follows (.handshake host limit :: steps) []
  | failed (step : Step) (steps : List Step) {closing : List Event} (h : IsClosing closing) :
    Follows (step :: steps) (.begun step :: closing)
  | done (step : Step) {steps : List Step} {log : List Event} (h : Follows steps log) :
    Follows (step :: steps) (.begun step :: .done step :: log)

/-- Behind a failure the fetch may close, whatever steps it had still before it. -/
theorem Breaks.follows (h : Breaks steps log) (hclosing : IsClosing closing) (ahead : List Step) :
    Follows (steps ++ ahead) (log ++ closing) := by
  induction h with
  | here step steps => exact .failed step _ hclosing
  | later step h ih => exact .done step ih

theorem Follows.allDone_append (taken : List Step) (h : Follows steps log) :
    Follows (taken ++ steps) (allDone taken ++ log) := by
  induction taken with
  | nil => exact h
  | cons step taken ih => exact .done step ih

/-- Nothing but the end of closing is behind its beginning. -/
theorem IsClosing.split (h : IsClosing closing) (heq : closing = before ++ .begun step :: behind) :
    ∃ inside, step = .close inside ∧ (behind = [] ∨ behind = [.done step]) := by
  cases h with
  | none => simp at heq
  | begun inside =>
    obtain ⟨-, hstep, hbehind⟩ : before = [] ∧ step = .close inside ∧ behind = [] := by
      simpa [List.cons_eq_append_iff] using heq
    exact ⟨inside, hstep, .inl hbehind⟩
  | done inside =>
    obtain ⟨-, hstep, hbehind⟩ :
        before = [] ∧ step = .close inside ∧ behind = [.done (.close inside)] := by
      simpa [List.cons_eq_append_iff] using heq
    exact ⟨inside, hstep, .inr (hstep ▸ hbehind)⟩

/-- When a step was begun, the steps before it had been done, and nothing else. Behind a failure
nothing but closing is begun. -/
theorem Follows.split (h : Follows steps log) (heq : log = before ++ .begun step :: behind) :
    (∃ taken ahead, steps = taken ++ step :: ahead ∧ before = allDone taken ∧
        (IsClosing behind ∨ ∃ log', behind = .done step :: log' ∧ Follows ahead log')) ∨
      ∃ inside, step = .close inside ∧ (behind = [] ∨ behind = [.done step]) := by
  -- along the itinerary: the step is the first one, or it is looked for behind that
  induction h generalizing before with
  | finished => simp at heq
  | givenUp => simp at heq
  | failed first steps hclosing =>
    rcases List.cons_eq_append_iff.1 heq with ⟨rfl, hrest⟩ | ⟨before, rfl, hrest⟩
    · cases hrest
      exact .inl ⟨[], steps, rfl, rfl, .inl hclosing⟩
    · exact .inr (hclosing.split hrest)
  | @done first steps log h ih =>
    rcases List.cons_eq_append_iff.1 heq with ⟨rfl, hrest⟩ | ⟨before, rfl, hrest⟩
    · cases hrest
      exact .inl ⟨[], steps, rfl, rfl, .inr ⟨log, rfl, h⟩⟩
    rcases List.cons_eq_append_iff.1 hrest with ⟨rfl, hrest⟩ | ⟨before, rfl, hlog⟩
    · cases hrest
    refine (ih hlog).imp_left ?_
    rintro ⟨taken, ahead, rfl, rfl, hbehind⟩
    exact ⟨first :: taken, ahead, rfl, rfl, hbehind⟩

/-- Besides closing, no step is begun but those that were before the fetch. -/
theorem Follows.mem (h : Follows steps log) (hstep : .begun step ∈ log) :
    step ∈ steps ∨ ∃ inside, step = .close inside := by
  obtain ⟨before, behind, heq⟩ := List.append_of_mem hstep
  refine (h.split heq).imp ?_ fun ⟨inside, hinside, _⟩ => ⟨inside, hinside⟩
  rintro ⟨taken, ahead, rfl, -⟩
  exact List.mem_append_right _ (List.mem_cons_self ..)

/-- A step that was not before the fetch any more is not begun. -/
theorem not_begun_behind {step' : Step} (hclose : ∀ inside, step' ≠ .close inside)
    (hahead : step' ∉ ahead)
    (h : IsClosing behind ∨ ∃ log, behind = .done step :: log ∧ Follows ahead log) :
    .begun step' ∉ behind := by
  intro hmem
  rcases h with h | ⟨log, rfl, h⟩
  · obtain ⟨before, behind', heq⟩ := List.append_of_mem hmem
    obtain ⟨inside, hinside, -⟩ := h.split heq
    exact hclose inside hinside
  · have hlog : .begun step' ∈ log := by simpa using hmem
    rcases h.mem hlog with hin | ⟨inside, hinside⟩
    · exact hahead hin
    · exact hclose inside hinside

/-- A step that was begun has its place among the steps, and so has what is before and behind it. -/
theorem Follows.place (h : Follows steps log) (heq : log = before ++ .begun step :: behind)
    (hclose : ∀ inside, step ≠ .close inside) :
    ∃ taken ahead, steps = taken ++ step :: ahead ∧ before = allDone taken ∧
      ∀ step', (∀ inside, step' ≠ .close inside) → step' ∉ ahead → .begun step' ∉ behind := by
  rcases h.split heq with ⟨taken, ahead, hsteps, hbefore, hbehind⟩ | ⟨inside, hinside, -⟩
  · exact ⟨taken, ahead, hsteps, hbefore, fun _ hstep hahead =>
      not_begun_behind hstep hahead hbehind⟩
  · exact absurd hinside (hclose inside)

theorem IsClosing.mem (h : IsClosing closing) {event : Event} (hevent : event ∈ closing) :
    ∃ inside, event = .begun (.close inside) ∨ event = .done (.close inside) := by
  cases h with
  | none => cases hevent
  | begun inside => exact ⟨inside, .inl (List.mem_singleton.1 hevent)⟩
  | done inside => exact ⟨inside, by simpa using hevent⟩

/-- Behind a step that failed there is nothing but closing. -/
theorem Follows.mem_behind (h : Follows steps log) (heq : log = before ++ .begun step :: behind)
    (hfailed : .done step ∉ behind) {event : Event} (hevent : event ∈ behind) :
    ∃ inside, event = .begun (.close inside) ∨ event = .done (.close inside) := by
  rcases h.split heq with ⟨_, _, -, -, hbehind | ⟨log', rfl, -⟩⟩ | ⟨inside, -, rfl | rfl⟩
  · exact hbehind.mem hevent
  · exact absurd (List.mem_cons_self ..) hfailed
  · cases hevent
  · exact absurd (List.mem_cons_self ..) hfailed

/-- Behind a step that was done, the fetch goes on with what is left. -/
theorem Follows.behind_done (h : Follows steps log) (hdone : .done step ∈ log)
    (hclose : ∀ inside, step ≠ .close inside) : ∃ taken ahead log', steps = taken ++ step :: ahead ∧
      log = allDone (taken ++ [step]) ++ log' ∧ Follows ahead log' := by
  induction h with
  | finished => cases hdone
  | givenUp => cases hdone
  | failed first steps h => cases h <;> simp [eq_comm, hclose] at hdone
  | @done first steps log h ih =>
    have hcases : step = first ∨ .done step ∈ log := by simpa using hdone
    rcases hcases with rfl | hlog
    · exact ⟨[], steps, log, rfl, rfl, h⟩
    · obtain ⟨taken, ahead, log', rfl, rfl, h'⟩ := ih hlog
      exact ⟨first :: taken, ahead, log', rfl, rfl, h'⟩

/-- Only before a handshake a fetch is given up. -/
theorem Follows.begun_mem (h : Follows (step :: steps) log)
    (hshake : ∀ host limit, step ≠ .handshake host limit) : .begun step ∈ log := by
  cases h with
  | givenUp host limit => exact absurd rfl (hshake host limit)
  | failed => exact List.mem_cons_self ..
  | done => exact List.mem_cons_self ..

end WireFetch.Itinerary
