import WireFetch.Coding.Gzip
import WireFetch.Proofs.Coding.Checksum
import WireFetch.Proofs.Coding.Cut
import WireFetch.Proofs.Coding.Decode

/-!
# Whole members, and members cut short

A member is its header, compressed data and a trailer that checks them. What an encoder may put into
a header is a `Member.Header`, of which `Header.bytes` is the rendering; all that the decoder wants
from it is to know where it ends.

Skipping a header reads from the front, field by field, so what a header is does not change when
more bytes follow. Neither do the blocks, and the trailer takes nothing back. So a member that is cut
short decodes to a beginning of what the whole member decodes to.

## Main definitions

* `Member.Header`, `IsMember` — headers, and members for some bytes

## Main results

* `yields_ofMember` — a member is decoded
* `gunzip_eq_seen` — a limit does nothing but to end the reading
* `isPrefix_output_ofMember` — a member cut short decodes to a beginning
-/

namespace WireFetch.Coding

namespace Member

/-! ### Headers -/

/-- A field of bytes with its size in front. -/
def sized (field : List UInt8) : List UInt8 := lowFirst 2 field.length ++ field

/-- A field that ends with a zero byte. -/
def zeroEnded (text : List UInt8) : List UInt8 := text ++ [0]

/-- A text does not hold the byte that ends it, and is not too long. -/
structure IsText (text : List UInt8) : Prop where
  ne_zero : 0 ∉ text
  length_le : text.length ≤ maxTextLength

/-- What an encoder may put into a header. -/
structure Header where
  /-- whether the encoder takes the decoded bytes for text -/
  text : Bool
  time : UInt32
  hint : UInt8
  system : UInt8
  extra : Option (List UInt8)
  name : Option (List UInt8)
  comment : Option (List UInt8)
  /-- whether the header has a check of its own -/
  checked : Bool
  extra_lt : ∀ field ∈ extra, field.length < 256 ^ 2
  name_isText : ∀ text ∈ name, IsText text
  comment_isText : ∀ text ∈ comment, IsText text

namespace Header

/-- The flags that announce what a header has. -/
def announce (text checked extra name comment : Bool) : UInt8 :=
  (if text then 0x01 else 0) ||| (if checked then headerCheckFlag else 0) |||
    (if extra then extraFlag else 0) ||| (if name then nameFlag else 0) |||
    (if comment then commentFlag else 0)

/-- The flags of a header. -/
def flags (h : Header) : UInt8 :=
  announce h.text h.checked h.extra.isSome h.name.isSome h.comment.isSome

/-- The fields behind the first ten bytes. -/
def fields (h : Header) : List UInt8 :=
  h.extra.elim [] sized ++ (h.name.elim [] zeroEnded ++ h.comment.elim [] zeroEnded)

/-- What the check of a header covers. -/
def covered (h : Header) : List UInt8 :=
  0x1f :: 0x8b :: 8 :: h.flags :: (lowFirst 4 h.time.toNat ++ (h.hint :: h.system :: h.fields))

/-- The check of a header, if it has one. -/
def check (h : Header) : List UInt8 :=
  if h.checked then lowFirst 2 (crc32 h.covered % 65536) else []

/-- The bytes of a header. -/
def bytes (h : Header) : List UInt8 := h.covered ++ h.check

end Header

end Member

/-- The bytes `z` are a member for `p`, with nothing behind it. -/
def IsMember (z p : List UInt8) : Prop :=
  ∃ (h : Member.Header) (blocks : List UInt8), Deflated blocks p ∧
    z = h.bytes ++ (blocks ++ (lowFirst 4 (crc32 p) ++ lowFirst 4 (p.length % 2 ^ 32)))

namespace Member

variable {bytes rest more : List UInt8}

/-! ### Skipping a header -/

/-- A field is skipped if it is there. -/
def skipIf (there : Prop) [Decidable there] (skip : List UInt8 → Except DecodeFault (List UInt8))
    (bytes : List UInt8) : Except DecodeFault (List UInt8) :=
  if there then skip bytes else return bytes

theorem skipIf_bind (there : Prop) [Decidable there]
    (skip next : List UInt8 → Except DecodeFault (List UInt8)) (bytes : List UInt8) :
    (skipIf there skip bytes >>= next) = if there then skip bytes >>= next else next bytes := by
  unfold skipIf
  split <;> rfl

/-- A header is ten bytes and four fields, each of which may be missing. -/
theorem skipHeader_cons (m₀ m₁ method flags a b c d e f : UInt8) (bytes : List UInt8) :
    skipHeader (m₀ :: m₁ :: method :: flags :: a :: b :: c :: d :: e :: f :: bytes)
      = if m₀ = 0x1f ∧ m₁ = 0x8b ∧ method = 8 ∧ flags &&& reservedFlags = 0 then do
          let rest ← skipIf (flags &&& extraFlag ≠ 0) skipSized bytes
          let rest ← skipIf (flags &&& nameFlag ≠ 0) skipZeroEnded rest
          let rest ← skipIf (flags &&& commentFlag ≠ 0) skipZeroEnded rest
          skipIf (flags &&& headerCheckFlag ≠ 0) (skipHeaderCheck
            (m₀ :: m₁ :: method :: flags :: a :: b :: c :: d :: e :: f :: bytes)) rest
        else .error .badHeader := by
  rw [skipHeader]
  split
  · simp only [skipIf_bind]
    simp only [skipIf, bind_pure]
  · rfl

/-! #### Nothing depends on what comes behind -/

/-- When `skip` gives the rest of some bytes, `skip'` gives it too, with `more` behind the bytes and
behind the rest. -/
def Grows (more : List UInt8) (skip skip' : List UInt8 → Except DecodeFault (List UInt8)) : Prop :=
  ∀ ⦃bytes rest⦄, skip bytes = .ok rest → skip' (bytes ++ more) = .ok (rest ++ more)

variable {skip skip' next next' : List UInt8 → Except DecodeFault (List UInt8)}

theorem Grows.bind (h : Grows more skip skip') (h' : Grows more next next') :
    Grows more (fun bytes => skip bytes >>= next) (fun bytes => skip' bytes >>= next') := by
  intro bytes rest hrest
  dsimp only at hrest ⊢
  cases hskip : skip bytes with
  | error fault =>
    rw [hskip] at hrest
    cases hrest
  | ok behind =>
    rw [hskip] at hrest
    rw [h hskip]
    exact h' hrest

theorem Grows.skipIf (h : Grows more skip skip') (there : Prop) [Decidable there] :
    Grows more (skipIf there skip) (Member.skipIf there skip') := by
  intro bytes rest hrest
  by_cases hthere : there
  · rw [Member.skipIf, if_pos hthere] at hrest ⊢
    exact h hrest
  · rw [Member.skipIf, if_neg hthere] at hrest ⊢
    cases hrest
    rfl

theorem grows_skipSized (more : List UInt8) : Grows more skipSized skipSized := by
  intro bytes rest h
  match bytes with
  | [] | [_] => cases h
  | low :: high :: bytes =>
    simp only [skipSized] at h
    split at h
    · cases h
      simp only [skipSized, List.cons_append, List.length_append]
      rw [if_pos (by omega), List.drop_append_of_le_length ‹_›]
    · cases h

theorem grows_skipZeroEnded (more : List UInt8) : Grows more skipZeroEnded skipZeroEnded := by
  intro bytes rest h
  unfold skipZeroEnded at h ⊢
  split at h
  · cases h
  · next hlength =>
    split at h
    · next hdrop =>
      cases h
      -- the text ends in front of what is added
      have hends : (bytes.takeWhile (· ≠ 0)).length ≠ bytes.length := by
        intro heq
        have happend := List.takeWhile_append_dropWhile (p := (· ≠ 0)) (l := bytes)
        have hsum := congrArg List.length happend
        rw [hdrop, List.length_append, heq] at hsum
        simp at hsum
      rw [List.takeWhile_append, if_neg hends, if_neg hlength, List.dropWhile_append, hdrop]
      rfl
    · cases h

theorem grows_skipHeaderCheck (whole more : List UInt8) :
    Grows more (skipHeaderCheck whole) (skipHeaderCheck (whole ++ more)) := by
  intro bytes rest h
  match bytes with
  | [] | [_] => cases h
  | low :: high :: bytes =>
    -- what the check covers is found by counting from the end, which moves by `more` in both
    have hcovered : (whole ++ more).take ((whole ++ more).length - (low :: high :: bytes ++ more).length)
      = whole.take (whole.length - (low :: high :: bytes).length) := by
      rw [List.length_append, List.length_append, Nat.add_sub_add_right,
        List.take_append_of_le_length (Nat.sub_le ..)]
    unfold skipHeaderCheck at h ⊢
    dsimp only [List.cons_append] at h hcovered ⊢
    rw [hcovered]
    split at h
    · cases h
      rw [if_pos ‹_›]
    · cases h

/-- A header is the same with more bytes behind it. -/
theorem grows_skipHeader (more : List UInt8) : Grows more skipHeader skipHeader := by
  intro bytes rest h
  match bytes with
  | m₀ :: m₁ :: method :: flags :: a :: b :: c :: d :: e :: f :: bytes =>
    simp only [List.cons_append]
    rw [skipHeader_cons] at h ⊢
    split at h
    · rw [if_pos ‹_›]
      have hextra := (grows_skipSized more).skipIf (flags &&& extraFlag ≠ 0)
      have hname := (grows_skipZeroEnded more).skipIf (flags &&& nameFlag ≠ 0)
      have hcomment := (grows_skipZeroEnded more).skipIf (flags &&& commentFlag ≠ 0)
      have hcheck := (grows_skipHeaderCheck (m₀ :: m₁ :: method :: flags :: a :: b :: c :: d :: e ::
        f :: bytes) more).skipIf (flags &&& headerCheckFlag ≠ 0)
      exact hextra.bind (hname.bind (hcomment.bind hcheck)) h
    · cases h
  | [] | [_] | [_, _] | [_, _, _] | [_, _, _, _] | [_, _, _, _, _] | [_, _, _, _, _, _]
  | [_, _, _, _, _, _, _] | [_, _, _, _, _, _, _, _] | [_, _, _, _, _, _, _, _, _] => cases h

/-! #### Every header is skipped -/

theorem skipSized_sized {field : List UInt8} (h : field.length < 256 ^ 2) (rest : List UInt8) :
    skipSized (sized field ++ rest) = .ok rest := by
  have hsize := littleEndian_lowFirst h
  simp only [lowFirst] at hsize
  simp [sized, skipSized, lowFirst, hsize]

theorem skipZeroEnded_zeroEnded {text : List UInt8} (h : IsText text) (rest : List UInt8) :
    skipZeroEnded (zeroEnded text ++ rest) = .ok rest := by
  have hne : ∀ b ∈ text, decide (b ≠ 0) = true := fun b hb =>
    decide_eq_true fun h0 => h.ne_zero (h0 ▸ hb)
  have htake : (zeroEnded text ++ rest).takeWhile (· ≠ 0) = text := by
    rw [zeroEnded, List.append_assoc, List.takeWhile_append_of_pos hne]
    simp
  have hdrop : (zeroEnded text ++ rest).dropWhile (· ≠ 0) = 0 :: rest := by
    rw [zeroEnded, List.append_assoc, List.dropWhile_append_of_pos hne]
    rfl
  rw [skipZeroEnded, htake, if_neg (Nat.not_lt.2 h.length_le), hdrop]

/-- A field that may be missing is skipped when it is announced. -/
theorem skipIf_elim {there : Prop} [Decidable there] {field : Option (List UInt8)}
    {render : List UInt8 → List UInt8} (hthere : there ↔ field.isSome) (rest : List UInt8)
    (h : ∀ content ∈ field, skip (render content ++ rest) = .ok rest) :
    skipIf there skip (field.elim [] render ++ rest) = .ok rest := by
  unfold skipIf
  cases field with
  | none => rw [if_neg (by simpa using hthere)]; rfl
  | some content => rw [if_pos (by simpa using hthere)]; exact h content rfl

theorem skipHeaderCheck_append (covered rest : List UInt8) :
    skipHeaderCheck (covered ++ (lowFirst 2 (crc32 covered % 65536) ++ rest))
      (lowFirst 2 (crc32 covered % 65536) ++ rest) = .ok rest := by
  have hlt : crc32 covered % 65536 < 256 ^ 2 := Nat.mod_lt _ (by decide)
  have hcheck := littleEndian_lowFirst hlt
  simp only [lowFirst] at hcheck
  simp [skipHeaderCheck, lowFirst, hcheck]

/-- Each flag can be told from the others. -/
theorem announce_and (text checked extra name comment : Bool) :
    Header.announce text checked extra name comment &&& reservedFlags = 0 ∧
    (Header.announce text checked extra name comment &&& headerCheckFlag ≠ 0 ↔ checked) ∧
    (Header.announce text checked extra name comment &&& extraFlag ≠ 0 ↔ extra) ∧
    (Header.announce text checked extra name comment &&& nameFlag ≠ 0 ↔ name) ∧
    (Header.announce text checked extra name comment &&& commentFlag ≠ 0 ↔ comment) := by
  revert text checked extra name comment
  decide

namespace Header

variable (h : Header) (rest : List UInt8)

theorem flags_and : h.flags &&& reservedFlags = 0 ∧
    (h.flags &&& headerCheckFlag ≠ 0 ↔ h.checked) ∧
    (h.flags &&& extraFlag ≠ 0 ↔ h.extra.isSome) ∧
    (h.flags &&& nameFlag ≠ 0 ↔ h.name.isSome) ∧
    (h.flags &&& commentFlag ≠ 0 ↔ h.comment.isSome) :=
  announce_and ..

theorem skip_extra : skipIf (h.flags &&& extraFlag ≠ 0) skipSized
    (h.extra.elim [] sized ++ rest) = .ok rest :=
  skipIf_elim h.flags_and.2.2.1 rest fun field hfield => skipSized_sized (h.extra_lt field hfield) rest

theorem skip_name : skipIf (h.flags &&& nameFlag ≠ 0) skipZeroEnded
    (h.name.elim [] zeroEnded ++ rest) = .ok rest :=
  skipIf_elim h.flags_and.2.2.2.1 rest fun text htext =>
    skipZeroEnded_zeroEnded (h.name_isText text htext) rest

theorem skip_comment : skipIf (h.flags &&& commentFlag ≠ 0) skipZeroEnded
    (h.comment.elim [] zeroEnded ++ rest) = .ok rest :=
  skipIf_elim h.flags_and.2.2.2.2 rest fun text htext =>
    skipZeroEnded_zeroEnded (h.comment_isText text htext) rest

theorem skip_check : skipIf (h.flags &&& headerCheckFlag ≠ 0) (skipHeaderCheck (h.bytes ++ rest))
    (h.check ++ rest) = .ok rest := by
  have hflag := h.flags_and.2.1
  unfold skipIf
  by_cases hchecked : h.checked
  · rw [if_pos (hflag.2 hchecked), bytes, check, if_pos hchecked, List.append_assoc]
    exact skipHeaderCheck_append h.covered rest
  · rw [if_neg (mt hflag.1 hchecked), check, if_neg hchecked]
    rfl

end Header

/-- A header is skipped, and nothing else. -/
theorem skipHeader_bytes (h : Header) (rest : List UInt8) :
    skipHeader (h.bytes ++ rest) = .ok rest := by
  have hwhole : h.bytes ++ rest = 0x1f :: 0x8b :: 8 :: h.flags :: (lowFirst 4 h.time.toNat ++
      (h.hint :: h.system :: (h.extra.elim [] sized ++ (h.name.elim [] zeroEnded ++
        (h.comment.elim [] zeroEnded ++ (h.check ++ rest)))))) := by
    simp [Header.bytes, Header.covered, Header.fields]
  have hcheck := h.skip_check rest
  rw [hwhole] at hcheck ⊢
  simp only [lowFirst, List.cons_append, List.nil_append] at hcheck ⊢
  rw [skipHeader_cons, if_pos ⟨rfl, rfl, rfl, h.flags_and.1⟩, h.skip_extra]
  change (skipIf _ skipZeroEnded _ >>= _) = _
  rw [h.skip_name]
  change (skipIf _ skipZeroEnded _ >>= _) = _
  rw [h.skip_comment]
  exact hcheck

/-! ### The trailer -/

theorem checkTrailer_eq_none (output : List UInt8) :
    checkTrailer output (lowFirst 4 (crc32 output) ++ lowFirst 4 (output.length % 2 ^ 32))
      = none := by
  have hlt : output.length % 2 ^ 32 < 256 ^ 4 := Nat.mod_lt _ (by decide)
  rw [checkTrailer, if_neg (by simp), List.take_left' (length_lowFirst ..),
    List.drop_left' (length_lowFirst ..), List.take_of_length_le (by simp),
    littleEndian_lowFirst (crc32_lt output), littleEndian_lowFirst hlt]
  exact if_pos ⟨rfl, rfl⟩

theorem judge_of_append {output atHand later : List UInt8}
    (h : atHand ++ later = lowFirst 4 (crc32 output) ++ lowFirst 4 (output.length % 2 ^ 32)) :
    judge output atHand later = .passed := by
  rw [judge, h, checkTrailer_eq_none]

/-- The trailer takes nothing back. -/
theorem isPatient_judge : IsPatient judge := by
  intro output atHand later atHand' later' more heq hpassed fault hearly
  unfold judge at hearly
  split at hearly <;> cases hearly

end Member

/-! ### Members -/

variable {z p bytes rest more : List UInt8}

theorem ofMember_of_skipHeader (limit : Option Nat) (h : Member.skipHeader bytes = .ok rest) :
    Flow.ofMember limit bytes
      = (inflate (Member.atHand bytes rest) (isEnough limit) rest).flow Member.judge := by
  rw [Flow.ofMember, h]

/-- A limit does nothing to a member but to end the reading. -/
theorem gunzip_eq_seen (limit : Option Nat) (bytes : List UInt8) :
    gunzip limit bytes = (Flow.ofMember none bytes).seen limit := by
  rw [gunzip]
  cases h : Member.skipHeader bytes with
  | error fault => rw [Flow.ofMember, Flow.ofMember, h]
  | ok rest =>
    rw [ofMember_of_skipHeader _ h, ofMember_of_skipHeader _ h]
    exact seen_flow_inflate ..

/-- **A member is decoded.** -/
theorem yields_ofMember (h : IsMember z p) : (Flow.ofMember none z).Yields p := by
  obtain ⟨header, blocks, hblocks, rfl⟩ := h
  rw [ofMember_of_skipHeader none (Member.skipHeader_bytes header _)]
  generalize Member.atHand _ _ = n
  have hundivided := undivided_inflate n
    (blocks ++ (lowFirst 4 (crc32 p) ++ lowFirst 4 (p.length % 2 ^ 32)))
  rw [decode_of_deflated hblocks] at hundivided
  exact hundivided.yields_flow fun atHand later h => Member.judge_of_append h

/-- What a member that is cut short decodes to, the whole begins with, and nothing of it is lost. -/
theorem isPrefix_output_ofMember (h : (Flow.ofMember none (bytes ++ more)).Yields p) :
    (Flow.ofMember none bytes).output <+: p ∧ Run.EndsDry (Flow.ofMember none bytes).runs := by
  cases hskip : Member.skipHeader bytes with
  | error fault =>
    rw [Flow.ofMember, hskip]
    exact ⟨List.nil_prefix, nofun⟩
  | ok rest =>
    rw [ofMember_of_skipHeader none (Member.grows_skipHeader more hskip)] at h
    rw [ofMember_of_skipHeader none hskip, ← h.output]
    exact Member.isPatient_judge.isPrefix_output_flow (undivided_inflate ..) (undivided_inflate ..)
      h.fault

end WireFetch.Coding
