/-!
# Lines of text

A line ends at a line feed; a carriage return in front of it belongs to the end as well. Behind the
last line feed there is one more line, unless nothing stands there.

## Main definitions

* `lines` — the lines of a text
* `ofLines` — lines as a text
-/

namespace WireFetch.Text

/-- A line without the carriage return at its end; the line is given from its end. -/
def withoutReturn (reversed : List Char) : List Char :=
  match reversed with
  | '\r' :: s => s
  | s => s

/-- The lines of a text of which the start of the first line was read; the start is given from its
end. -/
def linesFrom (reversed : List Char) : List Char → List String
  | [] => if reversed = [] then [] else [String.ofList reversed.reverse]
  | '\n' :: s => String.ofList (withoutReturn reversed).reverse :: linesFrom [] s
  | c :: s => linesFrom (c :: reversed) s

/-- The lines of a text. -/
def lines (text : String) : List String := linesFrom [] text.toList

/-- Lines as a text. -/
def ofLines (lines : List String) : String := String.join (lines.map (· ++ "\n"))

end WireFetch.Text
