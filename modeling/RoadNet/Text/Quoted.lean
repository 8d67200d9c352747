import RoadNet.Text.GraphemeExtend
import RoadNet.Text.Unprintable

/-!
# RoadNet.Text.Quoted

Text made safe to show in messages: control characters, quotes and characters without a shape
of their own are written as escapes.
-/

namespace RoadNet.Text

/-- The escape of a character by its code point. -/
def codePointEscape (c : Char) : List Char :=
  "\\u\x7b".toList ++ Nat.toDigits 16 c.toNat ++ ['\x7d']

/-- Write one character, escaped if it has no shape of its own or is in `quotes`. An extending
character is escaped if `extending` says so. -/
def escapeChar (quotes : List Char) (extending : Bool) (c : Char) : List Char :=
  if c = '\x00' then ['\\', '0']
  else if c = '\t' then ['\\', 't']
  else if c = '\r' then ['\\', 'r']
  else if c = '\n' then ['\\', 'n']
  else if c = '\\' || quotes.contains c then ['\\', c]
  else if extending && isGraphemeExtend c then codePointEscape c
  else if isPrintable c then [c]
  else codePointEscape c

/-- Escape a text to stand between quotes of either kind. An extending character is escaped
only at the start, where it has nothing to extend. -/
def escaped (s : String) : String :=
  match s.toList with
  | [] => ""
  | c :: cs =>
    String.ofList (escapeChar ['"', '\''] true c ++ cs.flatMap (escapeChar ['"', '\''] false))

/-- A text in double quotes, with every extending character escaped. -/
def quoted (s : String) : String :=
  String.ofList ('"' :: s.toList.flatMap (escapeChar ['"'] true) ++ ['"'])

/-- A list of quoted texts in brackets. -/
def quotedList (l : List String) : String := "[" ++ ", ".intercalate (l.map quoted) ++ "]"

end RoadNet.Text
