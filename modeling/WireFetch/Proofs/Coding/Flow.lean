import WireFetch.Coding.Flow

/-!
# What a reader gets

A reader that wants everything up to a limit gets a beginning of what the decoder hands out. If the
limit is not behind the last byte of it, the reader gets all it wants and never learns of a fault:
no call asks for more than there is, so no call meets the end. Else it learns how the decoder ends.
It then has everything, unless the call that meets the fault took some runs before; and this cannot
be if the last run was dry.

## Main definitions

* `Flow.Yields` — everything is handed out, and no fault behind it

## Main results

* `Flow.seen_of_le` — the limit is reached
* `Flow.seen_of_endsDry` — the limit is not reached, and nothing is lost
* `Flow.fault_seen_eq_none_iff` — when a reader learns of no fault
* `Flow.isPrefix_output_seen`, `length_output_seen_le` — what it has in any case
-/

namespace WireFetch.Coding

variable {room got n m : Nat} {runs runs' : List Run} {t t' : Tap} {limit : Option Nat}

theorem Run.EndsDry.of_suffix (h : EndsDry runs) (hsuffix : runs' <:+ runs) : EndsDry runs' := by
  obtain ⟨before, rfl⟩ := hsuffix
  intro run hrun
  refine h run ?_
  rw [List.getLast?_append, Option.mem_def.1 hrun]
  rfl

/-! ### Calls -/

namespace Tap

theorem le_of_fill (h : fill room got runs = some (n, t)) : n ≤ got + room := by
  induction runs generalizing room got with
  | nil => cases h
  | cons run runs ih =>
    rw [fill] at h
    split at h
    · cases h
      exact Nat.le_refl _
    split at h
    · cases h
      omega
    · have := ih h
      omega

/-- No call gets more than it asks for. -/
theorem le_of_read (h : t.read room = some (n, t')) : n ≤ room := by
  unfold read at h
  split at h
  · cases h
    exact Nat.min_le_left ..
  · exact Nat.zero_add room ▸ le_of_fill h

theorem suffix_of_fill (h : fill room got runs = some (n, t)) : t.runs <:+ runs := by
  induction runs generalizing room got with
  | nil => cases h
  | cons run runs ih =>
    rw [fill] at h
    split at h
    · cases h
      exact List.suffix_cons ..
    split at h
    · cases h
      exact List.suffix_cons ..
    · exact (ih h).trans (List.suffix_cons ..)

theorem suffix_of_read (h : t.read room = some (n, t')) : t'.runs <:+ t.runs := by
  unfold read at h
  split at h
  · cases h
    exact List.suffix_rfl
  · exact suffix_of_fill h

theorem total_lt_of_fill (hroom : 0 < room) (h : fill room got runs = none) :
    Run.total runs < room := by
  induction runs generalizing room got with
  | nil => exact hroom
  | cons run runs ih =>
    rw [fill] at h
    rw [Run.total]
    split at h
    · cases h
    split at h
    · cases h
    · have := ih (by omega) h
      omega

/-- A call that fails asked for more than there is. -/
theorem content_lt_of_read (hroom : 0 < room) (h : t.read room = none) : t.content < room := by
  unfold read at h
  split at h
  · cases h
  · have := total_lt_of_fill hroom h
    rw [content]
    omega

theorem total_of_fill_of_endsDry (hdry : Run.EndsDry runs) (hne : runs ≠ [])
    (h : fill room got runs = none) : got + Run.total runs = 0 := by
  induction runs generalizing room got with
  | nil => exact absurd rfl hne
  | cons run runs ih =>
    rw [fill] at h
    rw [Run.total]
    split at h
    · cases h
    split at h
    · cases h
    · next hrun =>
      cases runs with
      | nil =>
        have hlast : run.dry = true := hdry run rfl
        have hzero : ¬ 0 < got + run.size := fun hpos => hrun ⟨hlast, hpos⟩
        rw [Run.total]
        omega
      | cons run' runs =>
        have := ih (hdry.of_suffix (List.suffix_cons ..)) (List.cons_ne_nil run' runs) h
        omega

/-- A call that fails behind a dry run loses nothing. -/
theorem content_of_read_of_endsDry (hdry : Run.EndsDry t.runs) (h : t.read room = none) :
    t.content = 0 := by
  unfold read at h
  split at h
  · cases h
  · have hready : t.ready = 0 := by omega
    rw [content, hready, Nat.zero_add]
    cases hruns : t.runs with
    | nil => rfl
    | cons run runs =>
      have hne : t.runs ≠ [] := hruns ▸ List.cons_ne_nil run runs
      have htotal := total_of_fill_of_endsDry hdry hne h
      rw [← hruns]
      omega

end Tap

/-! ### All calls -/

variable {b : Buffer}

theorem Buffer.size_push (n : Nat) (b : Buffer) : (b.push n).size = b.size + n := rfl

theorem drain_le (limit : Option Nat) (b : Buffer) (t : Tap) :
    drain limit b t ≤ b.size + t.content := by
  fun_induction drain limit b t with
  | case1 b t henough => exact Nat.le_add_right ..
  | case2 b t henough h => exact Nat.le_add_right ..
  | case3 b t henough n t' h ih =>
    have := Tap.content_of_read (Buffer.room_pos henough) h
    rw [Buffer.size_push] at ih
    omega

theorem drain_le_limit (hb : b.size ≤ m) : drain (some m) b t ≤ m := by
  fun_induction drain (some m) b t with
  | case1 b t henough => exact hb
  | case2 b t henough h => exact hb
  | case3 b t henough n t' h ih =>
    have hn := Tap.le_of_read h
    have hroom : b.room (some m) ≤ m - b.size := Nat.min_le_right ..
    refine ih ?_
    rw [Buffer.size_push]
    omega

/-- A limit is reached if there are bytes enough. -/
theorem le_drain (h : m ≤ b.size + t.content) : m ≤ drain (some m) b t := by
  fun_induction drain (some m) b t with
  | case1 b t henough => exact of_decide_eq_true henough
  | case2 b t henough hread =>
    have hlt := Tap.content_lt_of_read (Buffer.room_pos henough) hread
    have hroom : b.room (some m) ≤ m - b.size := Nat.min_le_right ..
    omega
  | case3 b t henough n t' hread ih =>
    have := Tap.content_of_read (Buffer.room_pos henough) hread
    refine ih ?_
    rw [Buffer.size_push]
    omega

/-- With a dry run at the end, the reader has enough, or everything. -/
theorem drain_of_endsDry (limit : Option Nat) (b : Buffer) (hdry : Run.EndsDry t.runs) :
    isEnough limit (drain limit b t) ∨ drain limit b t = b.size + t.content := by
  fun_induction drain limit b t with
  | case1 b t henough => exact .inl henough
  | case2 b t henough h => exact .inr (by rw [Tap.content_of_read_of_endsDry hdry h, Nat.add_zero])
  | case3 b t henough n t' h ih =>
    have := Tap.content_of_read (Buffer.room_pos henough) h
    refine (ih (hdry.of_suffix (Tap.suffix_of_read h))).imp_right fun heq => ?_
    rw [heq, Buffer.size_push]
    omega

theorem isEnough_iff : isEnough limit n ↔ ∃ m, limit = some m ∧ m ≤ n := by
  cases limit <;> simp [isEnough]

/-! ### What is seen -/

namespace Flow

variable {f : Flow}

theorem content_start (f : Flow) : (⟨0, f.runs⟩ : Tap).content = f.output.length := by
  rw [Tap.content, f.total_runs, Nat.zero_add]

/-- A reader that gets all it wants sees nothing of what is behind. -/
theorem seen_of_le (h : m ≤ f.output.length) : f.seen (some m) = ⟨f.output.take m, none⟩ := by
  have hsize : drain (some m) .empty ⟨0, f.runs⟩ = m := by
    refine Nat.le_antisymm (drain_le_limit (Nat.zero_le m)) (le_drain ?_)
    rw [content_start]
    exact Nat.le_trans h (Nat.le_add_left ..)
  rw [seen, hsize]
  simp [isEnough]

/-- What is enough for a reader is what there is. -/
theorem isEnough_drain_iff : isEnough limit (drain limit .empty ⟨0, f.runs⟩) ↔
    ∃ m, limit = some m ∧ m ≤ f.output.length := by
  rw [isEnough_iff]
  refine exists_congr fun m => and_congr_right ?_
  rintro rfl
  have hle := drain_le (some m) .empty ⟨0, f.runs⟩
  rw [content_start, Buffer.empty, Nat.zero_add] at hle
  refine ⟨fun h => Nat.le_trans h hle, fun h => le_drain ?_⟩
  rwa [content_start, Buffer.empty, Nat.zero_add]

/-- No fault is seen if there is none, or if it is behind the limit. -/
theorem fault_seen_eq_none_iff : (f.seen limit).fault = none ↔
    f.fault = none ∨ ∃ m, limit = some m ∧ m ≤ f.output.length := by
  rw [← isEnough_drain_iff, seen]
  dsimp only
  split
  · next h => simp [h]
  · next h => simp [h]

theorem fault_seen_of_lt (h : ∀ m, limit = some m → f.output.length < m) :
    (f.seen limit).fault = f.fault := by
  rw [seen]
  refine if_neg (mt isEnough_drain_iff.1 ?_)
  rintro ⟨m, hm, hle⟩
  exact absurd hle (Nat.not_le.2 (h m hm))

/-- If the last run is dry and the limit is not reached, everything is seen. -/
theorem seen_of_endsDry (hdry : Run.EndsDry f.runs)
    (h : ∀ m, limit = some m → f.output.length < m) : f.seen limit = ⟨f.output, f.fault⟩ := by
  have hnot : ¬ isEnough limit (drain limit .empty ⟨0, f.runs⟩) := by
    rw [isEnough_drain_iff]
    rintro ⟨m, hm, hle⟩
    exact absurd hle (Nat.not_le.2 (h m hm))
  have hsize := (@drain_of_endsDry ⟨0, f.runs⟩ limit .empty hdry).resolve_left hnot
  rw [content_start, Buffer.empty, Nat.zero_add] at hsize
  rw [seen, if_neg hnot, Buffer.empty, hsize, List.take_length]

/-- Exactly `p` is handed out, and no fault comes behind it. -/
structure Yields (f : Flow) (p : List UInt8) : Prop where
  output : f.output = p
  fault : f.fault = none

theorem isPrefix_output_seen (limit : Option Nat) (f : Flow) :
    (f.seen limit).output <+: f.output := List.take_prefix ..

theorem length_output_seen_le (m : Nat) (f : Flow) : (f.seen (some m)).output.length ≤ m :=
  Nat.le_trans (List.length_take_le ..) (drain_le_limit (Nat.zero_le m))

theorem output_seen_of_output_eq_nil (h : f.output = []) (limit : Option Nat) :
    (f.seen limit).output = [] := by
  have hprefix := f.isPrefix_output_seen limit
  rwa [h, List.prefix_nil] at hprefix

theorem endsDry_ended (o : Output) (fault : Option DecodeFault) :
    Run.EndsDry (ended o fault).runs := by
  simp [ended, Run.EndsDry]

end Flow

end WireFetch.Coding
