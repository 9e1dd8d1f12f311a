import WireFetch.Proofs.Reader.Keeps
import WireFetch.Proofs.Reading.Steps

/-!
# How an activity ends

An activity stops because the reader is stopped, or for reasons of its own. `Reading.Ends` says for
readers of a certain kind which ones there are, together with what is known of a result if there is
one. Both are put together along the activity, step by step. Of the kind of the readers nothing
matters but that the operations keep it (`Reader.Keeps`).

## Main definitions

* `Reading.Ends` — what stops an activity, and what is known of its result

## Main results

* `Reading.Ends.bind` and the lemmas for the other parts of activities
-/

namespace WireFetch.Reading

variable {α β : Type} {I : Reader → Prop} {S E : Stop → Prop} {P : α → Prop}
  {act : Reading α} {f : α → Reading β}

/-- On a reader with the property `I`, an activity leaves such a reader; what stops it has the
property `E`, and a result the property `P`. -/
def Ends (I : Reader → Prop) (E : Stop → Prop) (act : Reading α) (P : α → Prop) : Prop :=
  ∀ s : Session, I s.reader → I (act s).2.reader ∧
    (∀ stop, (act s).1 = .error stop → E stop) ∧ ∀ a, (act s).1 = .ok a → P a

theorem ends_pure {a : α} (h : P a) : Ends I E (pure a) P := fun _ hs =>
  ⟨hs, nofun, fun _ ha => by cases ha; exact h⟩

theorem ends_fail {e : FetchError} (h : E (.failed e)) : Ends I E (fail e) P := fun _ hs =>
  ⟨hs, fun _ he => by cases he; exact h, nofun⟩

theorem ends_note (level : Log.Level) (area : Log.Area) (message : String) :
    Ends I E (note level area message) fun _ => True := fun _ hs =>
  ⟨hs, nofun, fun _ _ => trivial⟩

theorem ends_peekByte (hI : Reader.Keeps I S) (hE : ∀ stop, S stop → E stop) :
    Ends I E peekByte fun _ => True := fun s hs => by
  obtain ⟨hleft, hstop⟩ := hI.peekByte hs
  exact ⟨hleft, fun stop h => hE stop (hstop stop h), fun _ _ => trivial⟩

theorem ends_readByte (hI : Reader.Keeps I S) (hE : ∀ stop, S stop → E stop) :
    Ends I E readByte fun _ => True := fun s hs => by
  obtain ⟨hleft, hstop⟩ := hI.readByte hs
  exact ⟨hleft, fun stop h => hE stop (hstop stop h), fun _ _ => trivial⟩

theorem ends_unread (hI : Reader.Keeps I S) (bytes : List UInt8) :
    Ends I E (unread bytes) fun _ => True := fun _ hs =>
  ⟨hI.unread bytes hs, nofun, fun _ _ => trivial⟩

theorem Ends.bind {Q : β → Prop} (h : Ends I E act P) (hf : ∀ a, P a → Ends I E (f a) Q) :
    Ends I E (act >>= f) Q := by
  intro s hs
  obtain ⟨hleft, hE, hP⟩ := h s hs
  rcases hact : act s with ⟨result, s'⟩
  rw [hact] at hleft hE hP
  cases result with
  | ok a =>
    rw [bind_of_ok hact]
    exact hf a (hP a rfl) s' hleft
  | error stop =>
    rw [bind_of_error hact]
    exact ⟨hleft, fun stop h => hE stop (by cases h; rfl), nofun⟩

end WireFetch.Reading
