import WireFetch.Text.Utf8

/-!
# ASCII characters of a head line

A head line is read as UTF-8, or else byte for character. In both readings an ASCII character
stands for one byte, its own number, and no other character has such a byte in it. So a byte below
128 is in a line if and only if its character is in the text of the line, whichever reading it was;
and so it is with a row of such bytes, as a part of the line or as its beginning.

## Main results

* `Text.mem_decodeLine_iff` — ASCII characters of a line are bytes of it
* `Text.prefix_decodeLine_iff`, `head?_decodeLine_iff`, `infix_decodeLine_iff` — and so are words of
  them
* `Text.decodeLine_encodeUtf8` — a text that was written as UTF-8
* `Text.length_decodeLine_le` — a text has no more characters than the line has bytes
-/

namespace WireFetch.Text

variable {b : UInt8} {c : Char} {bytes m : List UInt8}

theorem toNat_latin1 (b : UInt8) : (latin1 b).toNat = b.toNat := by
  have hvalid : b.toNat.isValidChar := .inl (Nat.lt_trans b.toNat_lt (by decide))
  rw [latin1, Char.ofNat, dif_pos hvalid]
  rfl

theorem latin1_injective {b' : UInt8} (h : latin1 b = latin1 b') : b = b' := by
  have hnat := congrArg Char.toNat h
  rw [toNat_latin1, toNat_latin1] at hnat
  exact UInt8.toNat_inj.1 hnat

/-- The bytes of a character are those below 128 only if it is one of them. -/
theorem mem_utf8EncodeChar_iff (hb : b < 128) : b ∈ String.utf8EncodeChar c ↔ latin1 b = c := by
  have hlt : b.toNat < 128 := hb
  have hnat : latin1 b = c ↔ b.toNat = c.toNat := by
    rw [← toNat_latin1, Char.toNat_inj]
  -- further bytes, and the first of several, are at least 128
  have hhigh : ∀ n, 128 ≤ n → n < 256 → b ≠ UInt8.ofNat n := by
    rintro n hn hn' rfl
    rw [UInt8.toNat_ofNat', Nat.mod_eq_of_lt hn'] at hlt
    omega
  have hv : c.toNat = c.val.toNat := rfl
  rw [hnat, hv, String.utf8EncodeChar]
  generalize c.val.toNat = v
  split
  · rw [List.mem_singleton, ← UInt8.toNat_inj, UInt8.toNat_ofNat', Nat.mod_eq_of_lt (by omega)]
  · have hne : b.toNat ≠ v := by omega
    simp only [hne, iff_false]
    split
    · simp only [List.mem_cons, List.not_mem_nil, or_false, not_or]
      exact ⟨hhigh _ (by omega) (by omega), hhigh _ (by omega) (by omega)⟩
    · split
      · simp only [List.mem_cons, List.not_mem_nil, or_false, not_or]
        exact ⟨hhigh _ (by omega) (by omega), hhigh _ (by omega) (by omega),
          hhigh _ (by omega) (by omega)⟩
      · simp only [List.mem_cons, List.not_mem_nil, or_false, not_or]
        exact ⟨hhigh _ (by omega) (by omega), hhigh _ (by omega) (by omega),
          hhigh _ (by omega) (by omega), hhigh _ (by omega) (by omega)⟩

/-- A text in UTF-8 is the row of its characters. -/
theorem flatMap_utf8EncodeChar_of_decodeUtf8? {text : String} (h : decodeUtf8? bytes = some text) :
    text.toList.flatMap String.utf8EncodeChar = bytes := by
  have htext : text.toByteArray = bytes.toByteArray := by
    unfold decodeUtf8? String.fromUTF8? at h
    split at h
    · cases h
      rfl
    · cases h
  have hdata := congrArg (fun a => a.data.toList) htext
  rw [← String.utf8Encode_toList] at hdata
  simpa [List.utf8Encode] using hdata

/-- ASCII characters of a line are bytes of it. -/
theorem mem_decodeLine_iff (hb : b < 128) :
    latin1 b ∈ (decodeLine bytes).toList ↔ b ∈ bytes := by
  unfold decodeLine
  cases h : decodeUtf8? bytes with
  | none =>
    simp only [Option.getD_none, String.toList_ofList, List.mem_map]
    constructor
    · rintro ⟨x, hx, heq⟩
      rwa [← latin1_injective heq]
    · exact fun hmem => ⟨b, hmem, rfl⟩
  | some text =>
    have hbytes := flatMap_utf8EncodeChar_of_decodeUtf8? h
    rw [Option.getD_some, ← hbytes, List.mem_flatMap]
    constructor
    · exact fun hmem => ⟨latin1 b, hmem, (mem_utf8EncodeChar_iff hb).2 rfl⟩
    · rintro ⟨c, hc, hmem⟩
      rwa [(mem_utf8EncodeChar_iff hb).1 hmem]

/-! ### Words -/

theorem utf8EncodeChar_latin1 (hb : b < 128) : String.utf8EncodeChar (latin1 b) = [b] := by
  have hlt : b.toNat < 128 := hb
  have hv : (latin1 b).val.toNat = b.toNat := toNat_latin1 b
  rw [String.utf8EncodeChar, hv, if_pos (Nat.le_of_lt_succ hlt), UInt8.ofNat_toNat]

theorem flatMap_utf8EncodeChar_map_latin1 (hm : ∀ b ∈ m, b < 128) :
    (m.map latin1).flatMap String.utf8EncodeChar = m := by
  induction m with
  | nil => rfl
  | cons b m ih =>
    rw [List.map_cons, List.flatMap_cons, utf8EncodeChar_latin1 (hm b (List.mem_cons_self ..)),
      ih fun b hb => hm b (List.mem_cons_of_mem _ hb)]
    rfl

theorem prefix_of_prefix_flatMap {l : List Char} (hm : ∀ b ∈ m, b < 128)
    (h : m <+: l.flatMap String.utf8EncodeChar) : m.map latin1 <+: l := by
  induction m generalizing l with
  | nil => exact List.nil_prefix
  | cons b m ih =>
    have hb : b < 128 := hm b (List.mem_cons_self ..)
    cases l with
    | nil => exact absurd (List.prefix_nil.1 h) (List.cons_ne_nil b m)
    | cons c l =>
      -- the first byte tells the first character
      have hmem : b ∈ String.utf8EncodeChar c := by
        obtain ⟨x, y, hxy⟩ := List.exists_cons_of_ne_nil (String.utf8EncodeChar_ne_nil (c := c))
        rw [List.flatMap_cons, hxy, List.cons_append, List.cons_prefix_cons] at h
        rw [hxy, h.1]
        exact List.mem_cons_self ..
      obtain rfl := (mem_utf8EncodeChar_iff hb).1 hmem
      rw [List.flatMap_cons, utf8EncodeChar_latin1 hb, List.singleton_append,
        List.cons_prefix_cons] at h
      rw [List.map_cons, List.cons_prefix_cons]
      exact ⟨rfl, ih (fun b hb => hm b (List.mem_cons_of_mem _ hb)) h.2⟩

theorem infix_of_infix_flatMap {l : List Char} (hm : ∀ b ∈ m, b < 128)
    (h : m <:+: l.flatMap String.utf8EncodeChar) : m.map latin1 <:+: l := by
  induction l with
  | nil =>
    obtain rfl := List.infix_nil.1 h
    exact List.nil_infix
  | cons c l ih =>
    by_cases hc : ∃ b < 128, latin1 b = c
    · obtain ⟨b, hb, rfl⟩ := hc
      have hcons : (latin1 b :: l).flatMap String.utf8EncodeChar
          = b :: l.flatMap String.utf8EncodeChar := by
        rw [List.flatMap_cons, utf8EncodeChar_latin1 hb, List.singleton_append]
      rw [hcons, List.infix_cons_iff, ← hcons] at h
      rcases h with h | h
      · exact (prefix_of_prefix_flatMap hm h).isInfix
      · exact List.infix_cons (ih h)
    · have hnone : ∀ b ∈ m, b ∉ String.utf8EncodeChar c := fun b hb hmem =>
        hc ⟨b, hm b hb, (mem_utf8EncodeChar_iff (hm b hb)).1 hmem⟩
      rw [List.flatMap_cons] at h
      rcases List.infix_append_iff_ne_nil.1 h with h | h | ⟨m₁, m₂, hne, -, rfl, h, -⟩
      · cases m with
        | nil => exact List.nil_infix
        | cons b m => exact absurd (h.subset (List.mem_cons_self ..)) (hnone b (by simp))
      · exact List.infix_cons (ih h)
      · obtain ⟨b, hb⟩ := List.exists_mem_of_ne_nil _ hne
        exact absurd (h.subset hb) (hnone b (List.mem_append_left _ hb))

/-- An ASCII word begins a line if it begins the text of the line. -/
theorem prefix_decodeLine_iff (hm : ∀ b ∈ m, b < 128) :
    m.map latin1 <+: (decodeLine bytes).toList ↔ m <+: bytes := by
  unfold decodeLine
  cases h : decodeUtf8? bytes with
  | none =>
    rw [Option.getD_none, String.toList_ofList, List.prefix_map_iff]
    constructor
    · rintro ⟨l, hl, heq⟩
      rwa [(List.map_inj_right fun _ _ => latin1_injective).1 heq]
    · exact fun hpart => ⟨m, hpart, rfl⟩
  | some text =>
    rw [Option.getD_some, ← flatMap_utf8EncodeChar_of_decodeUtf8? h]
    constructor
    · rintro ⟨l, hl⟩
      rw [← hl, List.flatMap_append, flatMap_utf8EncodeChar_map_latin1 hm]
      exact List.prefix_append ..
    · exact prefix_of_prefix_flatMap hm

/-- An ASCII character begins a line if it begins the text of the line. -/
theorem head?_decodeLine_iff (hb : b < 128) :
    (decodeLine bytes).toList.head? = some (latin1 b) ↔ bytes.head? = some b := by
  have hword : ∀ c ∈ [b], c < 128 := fun c hc => List.mem_singleton.1 hc ▸ hb
  rw [← List.singleton_prefix_iff_head?_eq_some, ← List.singleton_prefix_iff_head?_eq_some]
  exact prefix_decodeLine_iff hword

/-- An ASCII word is a part of a line if it is a part of the text of the line. -/
theorem infix_decodeLine_iff (hm : ∀ b ∈ m, b < 128) :
    m.map latin1 <:+: (decodeLine bytes).toList ↔ m <:+: bytes := by
  unfold decodeLine
  cases h : decodeUtf8? bytes with
  | none =>
    rw [Option.getD_none, String.toList_ofList, List.infix_map_iff]
    constructor
    · rintro ⟨l, hl, heq⟩
      rwa [(List.map_inj_right fun _ _ => latin1_injective).1 heq]
    · exact fun hpart => ⟨m, hpart, rfl⟩
  | some text =>
    rw [Option.getD_some, ← flatMap_utf8EncodeChar_of_decodeUtf8? h]
    constructor
    · rintro ⟨l, l', hl⟩
      rw [← hl, List.flatMap_append, List.flatMap_append, flatMap_utf8EncodeChar_map_latin1 hm]
      exact List.infix_append ..
    · exact infix_of_infix_flatMap hm

/-! ### Texts written as UTF-8 -/

theorem encodeUtf8_append (s t : String) : encodeUtf8 (s ++ t) = encodeUtf8 s ++ encodeUtf8 t := by
  simp [encodeUtf8]

theorem toByteArray_encodeUtf8 (s : String) : (encodeUtf8 s).toByteArray = s.toByteArray :=
  ByteArray.ext (by simp [encodeUtf8])

/-- A text that was written as UTF-8 is read as such. -/
@[simp] theorem decodeLine_encodeUtf8 (s : String) : decodeLine (encodeUtf8 s) = s := by
  have hvalid : decodeUtf8? (encodeUtf8 s) = some s := by
    rw [decodeUtf8?, toByteArray_encodeUtf8, String.fromUTF8?, dif_pos s.isValidUTF8]
    rfl
  rw [decodeLine, hvalid, Option.getD_some]

theorem encodeUtf8_eq_flatMap (s : String) :
    encodeUtf8 s = s.toList.flatMap String.utf8EncodeChar := by
  have hbytes := congrArg (fun a : ByteArray => a.data.toList) (@String.utf8Encode_toList s)
  simpa [encodeUtf8, List.utf8Encode] using hbytes.symm

/-- A line in ASCII is the row of its bytes. -/
theorem decodeLine_of_ascii (h : ∀ b ∈ bytes, b < 128) :
    decodeLine bytes = String.ofList (bytes.map latin1) := by
  have hbytes : encodeUtf8 (String.ofList (bytes.map latin1)) = bytes := by
    rw [encodeUtf8_eq_flatMap, String.toList_ofList, flatMap_utf8EncodeChar_map_latin1 h]
  rw [← decodeLine_encodeUtf8 (String.ofList (bytes.map latin1)), hbytes]

/-- No byte is without a character. -/
theorem decodeLine_eq_empty_iff : decodeLine bytes = "" ↔ bytes = [] := by
  constructor
  · unfold decodeLine
    cases h : decodeUtf8? bytes with
    | none =>
      intro hempty
      rw [Option.getD_none, String.ofList_eq_empty_iff, List.map_eq_nil_iff] at hempty
      exact hempty
    | some text =>
      rintro rfl
      exact (flatMap_utf8EncodeChar_of_decodeUtf8? h).symm
  · rintro rfl
    rfl

/-! ### Lengths -/

/-- A text has no more characters than the line has bytes. -/
theorem length_decodeLine_le (bytes : List UInt8) : (decodeLine bytes).length ≤ bytes.length := by
  unfold decodeLine
  cases h : decodeUtf8? bytes with
  | none =>
    have hlength : (String.ofList (bytes.map latin1)).length = bytes.length := by
      rw [String.length_ofList, List.length_map]
    exact Nat.le_of_eq hlength
  | some text =>
    have hchars : ∀ l : List Char, l.length ≤ (l.flatMap String.utf8EncodeChar).length := by
      intro l
      induction l with
      | nil => exact Nat.le_refl 0
      | cons c l ih =>
        have hc : 0 < (String.utf8EncodeChar c).length := by
          rw [String.length_utf8EncodeChar]
          exact c.utf8Size_pos
        rw [List.flatMap_cons, List.length_append, List.length_cons]
        omega
    calc text.length = text.toList.length := String.length_toList.symm
      _ ≤ (text.toList.flatMap String.utf8EncodeChar).length := hchars text.toList
      _ = bytes.length := congrArg List.length (flatMap_utf8EncodeChar_of_decodeUtf8? h)

end WireFetch.Text
