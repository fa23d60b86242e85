import GuestBridge.Number.Numeral
import GuestBridge.Text.Utf8

/-!
# JSON trees

A `Json` tree keeps what a document says: the members of an object in order and with repetitions,
and each number as it is written. A string is `none` when its bytes or escapes stand for no text,
which matters only to a reader that looks at it. `chars` writes a tree without blanks.
-/

namespace GuestBridge

/-- A JSON document as a tree. -/
inductive Json where
  | null
  | bool (b : Bool)
  | number (n : Numeral)
  | string (text : Option String)
  | array (items : List Json)
  | object (members : List (Option String × Json))
  deriving Repr

namespace Json

def text (s : String) : Json :=
  .string (some s)

/-- The object of members with texts as keys. -/
def ofMembers (members : List (String × Json)) : Json :=
  .object (members.map fun m => (some m.1, m.2))

/-! ## Writing -/

/-- A character inside a string. Only quotes, backslashes and controls are escaped. -/
def escapeChar (c : Char) : List Char :=
  if c = '"' then ['\\', '"']
  else if c = '\\' then ['\\', '\\']
  else if c = '\x08' then ['\\', 'b']
  else if c = '\x0c' then ['\\', 'f']
  else if c = '\n' then ['\\', 'n']
  else if c = '\r' then ['\\', 'r']
  else if c = '\t' then ['\\', 't']
  else if c.toNat < 0x20 then
    ['\\', 'u', '0', '0', Bytes.hexDigit (c.toNat / 16), Bytes.hexDigit (c.toNat % 16)]
  else [c]

/-- A string in quotes; one that stands for no text is written as half of a pair. -/
def stringChars : Option String → List Char
  | some s => '"' :: s.toList.flatMap escapeChar ++ ['"']
  | none => ['"', '\\', 'u', 'd', '8', '0', '0', '"']

mutual

/-- The characters of a document. -/
def chars : Json → List Char
  | null => ['n', 'u', 'l', 'l']
  | bool true => ['t', 'r', 'u', 'e']
  | bool false => ['f', 'a', 'l', 's', 'e']
  | number n => n.chars true
  | string s => stringChars s
  | array [] => ['[', ']']
  | array (j :: rest) => '[' :: (chars j ++ itemChars rest)
  | object [] => ['\x7b', '\x7d']
  | object ((key, j) :: rest) =>
      '\x7b' :: (stringChars key ++ ':' :: (chars j ++ memberChars rest))

/-- The items after the first, and the end of the array. -/
def itemChars : List Json → List Char
  | [] => [']']
  | j :: rest => ',' :: (chars j ++ itemChars rest)

/-- The members after the first, and the end of the object. -/
def memberChars : List (Option String × Json) → List Char
  | [] => ['\x7d']
  | (key, j) :: rest => ',' :: (stringChars key ++ ':' :: (chars j ++ memberChars rest))

end

/-- The document as text. -/
def write (j : Json) : String :=
  String.ofList j.chars

end Json

end GuestBridge
