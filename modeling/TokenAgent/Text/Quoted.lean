import TokenAgent.Text.Combining
import TokenAgent.Text.Hex
import TokenAgent.Text.Printable

/-!
# Quoted text

Text between double quotes, as messages show it.  The quote and the backslash are escaped; so
are NUL, tab, line feed and carriage return, each with its letter; any other character that is
not printable, or would combine with the one before it, is written as its code point.
-/

namespace TokenAgent

namespace Quoted

/-- How one character is shown. -/
def encodeChar (c : Char) : List Char :=
  match c with
  | '\x00' => ['\\', '0']
  | '\t' => ['\\', 't']
  | '\r' => ['\\', 'r']
  | '\n' => ['\\', 'n']
  | '"' => ['\\', '"']
  | '\\' => ['\\', '\\']
  | c =>
      if Text.isCombining c || !Text.isPrintable c then
        "\\u\x7b".toList ++ (Hex.lower 1 c.toNat).toList ++ ['\x7d']
      else [c]

def encode (s : String) : String :=
  String.ofList ('"' :: s.toList.flatMap encodeChar ++ ['"'])

end Quoted

end TokenAgent
