import WireFetch.Text.Ascii

/-!
# Header lists

The headers of a message in the order they came, each with the spelling its sender used. Keys are
looked up without regard to case. A key may stand more than once (`add`), or replace what stood
there before (`set`); the replacement takes the place of the first earlier entry.

## Main definitions

* `Headers`, with `set`, `add`, `clear`, `get?`, `getAll`, `contains`
* `Headers.render` — one line per entry

## Main results

* `Headers.get?_eq_head?_getAll` — a look-up gives the first of all values
* `Headers.contains_iff` — a key is there when it has a value
* `Headers.getAll_add` — what `add` changes
* `Headers.mem_entries_set` — what `set` brings in
-/

namespace WireFetch

/-- Keys with their values, in order of arrival. -/
structure Headers where
  entries : List (String × String) := []
  deriving DecidableEq, Repr, Inhabited

namespace Headers

open Text

/-- No headers. -/
def empty : Headers := ⟨[]⟩

instance : EmptyCollection Headers := ⟨empty⟩

/-- Puts an entry where the first entry with its key stands, and removes all other entries with
that key; at the end if there is none. -/
def setIn (key value : String) : List (String × String) → List (String × String)
  | [] => [(key, value)]
  | e :: es =>
    if sameName e.1 key then (key, value) :: es.filter fun e => !sameName e.1 key
    else e :: setIn key value es

/-- Gives `key` the value `value` only. -/
def set (key value : String) (h : Headers) : Headers := ⟨setIn key value h.entries⟩

/-- Gives `key` one more value. -/
def add (key value : String) (h : Headers) : Headers := ⟨h.entries ++ [(key, value)]⟩

/-- Removes everything. -/
def clear (_ : Headers) : Headers := empty

/-- All values of `key`, in order. -/
def getAll (key : String) (h : Headers) : List String :=
  (h.entries.filter fun e => sameName e.1 key).map Prod.snd

/-- The first value of `key`. -/
def get? (key : String) (h : Headers) : Option String :=
  (h.entries.find? fun e => sameName e.1 key).map Prod.snd

/-- Whether `key` has a value. -/
def contains (key : String) (h : Headers) : Bool := h.entries.any fun e => sameName e.1 key

/-- The number of entries. -/
def size (h : Headers) : Nat := h.entries.length

/-- One entry as a line. -/
def renderEntry (e : String × String) : String := e.1 ++ ": " ++ e.2 ++ "\n"

/-- One line per entry. -/
def render (h : Headers) : String := String.join (h.entries.map renderEntry)

theorem get?_eq_head?_getAll (key : String) (h : Headers) : h.get? key = (h.getAll key).head? := by
  simp [get?, getAll, ← List.head?_filter]

theorem contains_iff (key : String) (h : Headers) : h.contains key ↔ h.getAll key ≠ [] := by
  simp [contains, getAll, List.filter_eq_nil_iff]

theorem getAll_add (key key' value : String) (h : Headers) :
    (h.add key value).getAll key'
      = h.getAll key' ++ if sameName key key' then [value] else [] := by
  by_cases hk : sameName key key' <;> simp [add, getAll, List.filter_append, hk]

/-- To set a value brings in no other entry. -/
theorem mem_entries_set {key value : String} {h : Headers} {e : String × String}
    (he : e ∈ (h.set key value).entries) : e = (key, value) ∨ e ∈ h.entries := by
  have hin : ∀ entries : List (String × String), e ∈ setIn key value entries →
      e = (key, value) ∨ e ∈ entries := by
    intro entries he
    induction entries with
    | nil => exact .inl (List.mem_singleton.1 he)
    | cons e' entries ih =>
      rw [setIn] at he
      split at he
      · rcases List.mem_cons.1 he with rfl | he
        · exact .inl rfl
        · exact .inr (List.mem_cons_of_mem _ (List.mem_filter.1 he).1)
      · rcases List.mem_cons.1 he with rfl | he
        · exact .inr (List.mem_cons_self ..)
        · exact (ih he).imp_right (List.mem_cons_of_mem _)
  exact hin h.entries he

end Headers

end WireFetch
