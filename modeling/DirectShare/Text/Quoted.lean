import DirectShare.Text.Hidden

/-!
# Quoted text

A quoted text stands between double quotes. A quote and a backslash have a backslash before them,
the usual controls are written by their letters, and every other character that would not show is
written by its code point.

`quoteChar` is one character as it stands between the quotes, and `quote` the whole text.
-/

namespace DirectShare.Text

/-- One character as it stands between the quotes. -/
def quoteChar (c : Char) : List Char :=
  if c = '"' then ['\\', '"']
  else if c = '\\' then ['\\', '\\']
  else if c = '\n' then ['\\', 'n']
  else if c = '\r' then ['\\', 'r']
  else if c = '\t' then ['\\', 't']
  else if c = '\x00' then ['\\', '0']
  else if isHidden c then ['\\', 'u', '\x7b'] ++ Nat.toDigits 16 c.toNat ++ ['\x7d']
  else [c]

/-- The text between double quotes. -/
def quote (s : String) : String :=
  String.ofList ('"' :: (s.toList.flatMap quoteChar ++ ['"']))

example : quote "a\"b" = "\"a\\\"b\"" := by decide +kernel

example : quote "\x1b" = "\"\\u\x7b1b\x7d\"" := by decide +kernel

end DirectShare.Text
