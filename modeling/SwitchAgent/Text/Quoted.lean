import SwitchAgent.Text.Invisible
import SwitchAgent.Text.Numeral

/-!
# Quoted text

Text between double quotes in one line, as log records show it: quotes and backslashes are
escaped, a few controls have short names, and what has no glyph is shown by number.
-/

namespace SwitchAgent.Text

def quoteChar (c : Char) : List Char :=
  if c == '"' || c == '\\' then ['\\', c]
  else if c == '\t' then ['\\', 't']
  else if c == '\n' then ['\\', 'n']
  else if c == '\r' then ['\\', 'r']
  else if c == '\x00' then ['\\', '0']
  else if isInvisible c then ['\\', 'u', '\x7b'] ++ hexDigits c.toNat ++ ['\x7d']
  else [c]

def quoted (s : String) : String :=
  String.ofList ('"' :: s.toList.flatMap quoteChar ++ ['"'])

end SwitchAgent.Text
