import GuestBridge.Text.Unprintable

/-!
# Quoted text

`quote` writes a text between double quotes so that it can be read on one line: the usual controls,
the quote and the backslash get a letter after a backslash, every other character that is not shown
(`isUnprintable`) is spelled by its code point in hexadecimal, and all else stands for itself.
-/

namespace GuestBridge

namespace Text

/-- The lowercase hexadecimal digits of a number. -/
def hexDigits (n : Nat) : List Char :=
  Nat.toDigits 16 n

/-- A character as it stands between the quotes. -/
def quoteChar (c : Char) : List Char :=
  if c = '\x00' then ['\\', '0']
  else if c = '\t' then ['\\', 't']
  else if c = '\r' then ['\\', 'r']
  else if c = '\n' then ['\\', 'n']
  else if c = '"' then ['\\', '"']
  else if c = '\\' then ['\\', '\\']
  else if isUnprintable c then ['\\', 'u', '\x7b'] ++ hexDigits c.toNat ++ ['\x7d']
  else [c]

/-- The text in quotes. -/
def quote (text : String) : String :=
  String.ofList ('"' :: text.toList.flatMap quoteChar ++ ['"'])

end Text

end GuestBridge
