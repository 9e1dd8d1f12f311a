import WireFetch.Text.Integer

/-!
# Addresses of proxies

A proxy is given as `host:port`. The last colon divides the two; what stands before it is the host
as it is, so that the address of an IPv6 host keeps its brackets.

## Main definitions

* `splitAtLast?` — the text before and behind the last of some character
* `portNumber` — a number of a port
* `proxyAddress` — a host and a port

## Main results

* `splitAtLast?_append` — the last one divides
-/

namespace WireFetch.CommandLine

/-- What stands before and behind the last `c`. -/
def splitAtLast? (c : Char) (s : List Char) : Option (List Char × List Char) :=
  if c ∈ s then
    some ((s.reverse.dropWhile (· ≠ c)).tail.reverse, (s.reverse.takeWhile (· ≠ c)).reverse)
  else none

/-- The last `c` is the one behind which no other stands. -/
theorem splitAtLast?_append {c : Char} {a b : List Char} (h : c ∉ b) :
    splitAtLast? c (a ++ c :: b) = some (a, b) := by
  have all : ∀ x ∈ b.reverse, decide (x ≠ c) = true := by
    intro x hx
    simp only [decide_eq_true_eq]
    rintro rfl
    exact h (List.mem_reverse.1 hx)
  have rev : (a ++ c :: b).reverse = b.reverse ++ c :: a.reverse := by simp
  rw [splitAtLast?, if_pos (by simp), rev, List.takeWhile_append_of_pos all,
    List.dropWhile_append_of_pos all]
  simp

/-- Why a text is no number of a port. -/
inductive PortFault where
  | empty
  | badDigit
  | tooLarge
  deriving DecidableEq, Repr

namespace PortFault

/-- The wording. -/
def message : PortFault → String
  | empty => "cannot parse integer from empty string"
  | badDigit => "invalid digit found in string"
  | tooLarge => "number too large to fit in target type"

end PortFault

/-- The largest number of a port. -/
def maxPort : Nat := 65535

/-- The number whose first digits make `n`; the first fault counts. -/
def portFrom (n : Nat) : List Char → Except PortFault Nat
  | [] => .ok n
  | c :: s =>
    match Text.digit? c with
    | none => .error .badDigit
    | some d => if maxPort < 10 * n + d then .error .tooLarge else portFrom (10 * n + d) s

/-- The number of a port; a `+` may stand in front. -/
def portNumber (s : List Char) : Except PortFault Nat :=
  match s with
  | [] => .error .empty
  | ['+'] => .error .badDigit
  | '+' :: s => portFrom 0 s
  | s => portFrom 0 s

/-- Why a text is no address of a proxy. -/
inductive ProxyFault where
  | noPort
  | noHost
  | badPort (fault : PortFault)
  deriving DecidableEq, Repr

/-- The host and the port that a text names. -/
def proxyAddress (spec : String) : Except ProxyFault (String × Nat) :=
  match splitAtLast? ':' spec.toList with
  | none => .error .noPort
  | some ([], _) => .error .noHost
  | some (host, port) =>
    match portNumber port with
    | .ok n => .ok (String.ofList host, n)
    | .error fault => .error (.badPort fault)

end WireFetch.CommandLine
