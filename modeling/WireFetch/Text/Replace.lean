/-!
# Replacing a mark

## Main definitions

* `replaceAll` — every occurrence of a mark replaced by a value, from the left to the right
-/

namespace WireFetch.Text

/-- Replaces every occurrence of `mark` by `value` behind the next `skip` characters, which are left
out. -/
def replaceFrom (mark value : List Char) (skip : Nat) : List Char → List Char
  | [] => []
  | c :: s =>
    match skip with
    | skip + 1 => replaceFrom mark value skip s
    | 0 =>
      if mark.isPrefixOf (c :: s) then value ++ replaceFrom mark value (mark.length - 1) s
      else c :: replaceFrom mark value 0 s

/-- Replaces every occurrence of `mark` by `value`; what stands in a value is not looked at. -/
def replaceAll (mark value s : String) : String :=
  String.ofList (replaceFrom mark.toList value.toList 0 s.toList)

end WireFetch.Text
