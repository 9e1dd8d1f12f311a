/-!
# Elements of encoded data

Certificates are written as nested elements. An element has a tag, a length and so many bytes of
content. A tag consists of a class, of a bit that is not looked at here, and of a number; numbers
from 31 on follow in digits of seven bits. A length below 128 is one byte; longer ones tell first
how many bytes they take. Lengths that are left open are refused.

## Main definitions

* `Element`, `Element.read?` — an element, and the bytes behind it
* `elements` — elements one after another, as far as they can be read
* `arcs` — the numbers of an object identifier

## Main results

* `Element.length_lt_of_read?` — an element takes bytes, so a list of elements ends
-/

namespace WireFetch.Der

/-- What a tag number means. -/
inductive TagClass where
  | universal
  | application
  | context
  | private_
  deriving DecidableEq, Repr

/-- A piece of encoded data. -/
structure Element where
  tagClass : TagClass
  tag : Nat
  content : List UInt8
  deriving DecidableEq, Repr

/-- The class in a first byte. -/
def classOf (b : UInt8) : TagClass :=
  match b.toNat / 64 with
  | 0 => .universal
  | 1 => .application
  | 2 => .context
  | _ => .private_

/-- The value of bytes as digits, the most significant first. -/
def bigEndian (bytes : List UInt8) : Nat := bytes.foldl (fun n b => 256 * n + b.toNat) 0

/-- A number in at most `room` digits of seven bits, behind `n`; all but the last have their high
bit set. -/
def sevenBits? (room n : Nat) : List UInt8 → Option (Nat × List UInt8)
  | [] => none
  | b :: bytes =>
    match room with
    | 0 => none
    | room + 1 =>
      let n := 128 * n + b.toNat % 128
      if b < 128 then some (n, bytes) else sevenBits? room n bytes

/-- A tag number takes at most so many bytes behind the first. -/
def maxTagDigits : Nat := 5

/-- The tag at the front. -/
def tag? : List UInt8 → Option ((TagClass × Nat) × List UInt8)
  | [] => none
  | b :: bytes =>
    let low := b.toNat % 32
    if low < 31 then some ((classOf b, low), bytes)
    else (sevenBits? maxTagDigits 0 bytes).map fun (n, rest) => ((classOf b, n), rest)

/-- The length at the front. -/
def length? : List UInt8 → Option (Nat × List UInt8)
  | [] => none
  | b :: bytes =>
    if b < 128 then some (b.toNat, bytes)
    else
      let size := b.toNat - 128
      if size = 0 ∨ size = 127 ∨ bytes.length < size then none
      else
        let n := bigEndian (bytes.take size)
        if n < Nat.pow 2 64 then some (n, bytes.drop size) else none

namespace Element

/-- The element at the front, and the bytes behind it. -/
def read? (bytes : List UInt8) : Option (Element × List UInt8) := do
  let ((tagClass, tag), rest) ← tag? bytes
  let (size, rest) ← length? rest
  if rest.length < size then none
  else return (⟨tagClass, tag, rest.take size⟩, rest.drop size)

end Element

/-! ### Bytes taken -/

theorem length_lt_of_sevenBits? {room n m : Nat} {bytes rest : List UInt8}
    (h : sevenBits? room n bytes = some (m, rest)) : rest.length < bytes.length := by
  induction bytes generalizing room n with
  | nil => simp [sevenBits?] at h
  | cons b bytes ih =>
    cases room with
    | zero => simp [sevenBits?] at h
    | succ room =>
      simp only [sevenBits?] at h
      split at h
      · cases h; simp
      · exact Nat.lt_succ_of_lt (ih h)

theorem length_lt_of_tag? {t : TagClass × Nat} {bytes rest : List UInt8}
    (h : tag? bytes = some (t, rest)) : rest.length < bytes.length := by
  cases bytes with
  | nil => simp [tag?] at h
  | cons b bytes =>
    simp only [tag?] at h
    split at h
    · cases h; simp
    · obtain ⟨⟨n, r⟩, hs, he⟩ := Option.map_eq_some_iff.1 h
      cases he
      exact Nat.lt_succ_of_lt (length_lt_of_sevenBits? hs)

theorem length_le_of_length? {n : Nat} {bytes rest : List UInt8}
    (h : length? bytes = some (n, rest)) : rest.length ≤ bytes.length := by
  cases bytes with
  | nil => simp [length?] at h
  | cons b bytes =>
    simp only [length?] at h
    split at h
    · cases h; simp
    · split at h
      · cases h
      · split at h
        · simp only [Option.some.injEq, Prod.mk.injEq] at h
          obtain ⟨_, rfl⟩ := h
          simp
          omega
        · cases h

/-- An element takes bytes. -/
theorem Element.length_lt_of_read? {e : Element} {bytes rest : List UInt8}
    (h : Element.read? bytes = some (e, rest)) : rest.length < bytes.length := by
  simp only [Element.read?, Option.bind_eq_bind, Option.bind_eq_some_iff] at h
  obtain ⟨⟨⟨c, t⟩, r₁⟩, h₁, ⟨⟨n, r₂⟩, h₂, h₃⟩⟩ := h
  split at h₃
  · cases h₃
  · cases h₃
    have a := length_lt_of_tag? h₁
    have b := length_le_of_length? h₂
    simp only [List.length_drop] at *
    omega

/-- The elements at the front, and the bytes from the first one that cannot be read. -/
def elements (bytes : List UInt8) : List Element × List UInt8 :=
  match _h : Element.read? bytes with
  | none => ([], bytes)
  | some (e, rest) =>
    let (more, rest) := elements rest
    (e :: more, rest)
termination_by bytes.length
decreasing_by exact Element.length_lt_of_read? ‹_›

/-! ### Kinds of elements -/

/-- The tag numbers that have a meaning here. -/
def integerTag : Nat := 2

@[inherit_doc integerTag] def bitStringTag : Nat := 3

@[inherit_doc integerTag] def octetStringTag : Nat := 4

@[inherit_doc integerTag] def identifierTag : Nat := 6

@[inherit_doc integerTag] def sequenceTag : Nat := 16

@[inherit_doc integerTag] def setTag : Nat := 17

namespace Element

/-- The content of an element of this universal kind. -/
def contentOf? (tag : Nat) (e : Element) : Option (List UInt8) :=
  if e.tagClass = .universal ∧ e.tag = tag then some e.content else none

/-- Whether an element is the one with this number among optional ones. -/
def isOptional (n : Nat) (e : Element) : Bool := e.tagClass = .context && e.tag = n

end Element

/-- The content of the element at the front, which has this kind, and the bytes behind it. -/
def take? (tag : Nat) (bytes : List UInt8) : Option (List UInt8 × List UInt8) := do
  let (e, rest) ← Element.read? bytes
  return (← e.contentOf? tag, rest)

/-- The content of a sequence at the front, and the bytes behind it. -/
def sequence? : List UInt8 → Option (List UInt8 × List UInt8) := take? sequenceTag

/-- Whether bytes are the shortest form of an integer. -/
def isInteger : List UInt8 → Bool
  | [] => false
  | [_] => true
  | a :: b :: _ => !(a = 0 && b < 128 || a = 255 && 128 ≤ b)

/-- Whether bytes are a string of bits: the number of bits left out at the end, which are zero, and
the bits. -/
def isBitString : List UInt8 → Bool
  | [] => false
  | unused :: bits =>
    match bits.getLast? with
    | none => unused = 0
    | some last => unused ≤ 8 && last.toNat % Nat.pow 2 unused.toNat = 0

/-- The numbers behind the first two of an object identifier; `value` is what was read of one, if
`inside`. -/
def laterArcs (value : Nat) (inside : Bool) : List UInt8 → List Nat
  | [] => if inside then [value] else []
  | b :: bytes =>
    let value := 128 * value + b.toNat % 128
    if b < 128 then value :: laterArcs 0 false bytes else laterArcs value true bytes

/-- The numbers of an object identifier; the first byte holds two of them. -/
def arcs : List UInt8 → List Nat
  | [] => []
  | [0] => [0]
  | b :: bytes => b.toNat / 40 :: b.toNat % 40 :: laterArcs 0 false bytes

end WireFetch.Der
