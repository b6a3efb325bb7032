import ProductQuery.Json.Basic
/-!
# Json.Writer — compact JSON text

Values are written without blanks, members in the order in which they are listed.  A string escapes the quote, the
backslash and the control characters below `0x20`, and nothing else.
-/
namespace ProductQuery
namespace Json

def hexChar (n : Nat) : Char := Nat.digitChar n

/-- One character inside a quoted string. -/
def escape (c : Char) : List Char :=
  if c = '"' then ['\\', '"']
  else if c = '\\' then ['\\', '\\']
  else if c.toNat < 0x20 then
    if c = '\x08' then ['\\', 'b']
    else if c = '\t' then ['\\', 't']
    else if c = '\n' then ['\\', 'n']
    else if c = '\x0c' then ['\\', 'f']
    else if c = '\r' then ['\\', 'r']
    else ['\\', 'u', '0', '0', hexChar (c.toNat / 16), hexChar (c.toNat % 16)]
  else [c]

def quoted (s : String) : List Char := '"' :: (s.toList.flatMap escape ++ ['"'])

mutual
/-- The compact text of a value, as characters. -/
def chars : Json → List Char
  | .null => ['n', 'u', 'l', 'l']
  | .bool true => ['t', 'r', 'u', 'e']
  | .bool false => ['f', 'a', 'l', 's', 'e']
  | .number n => n.text.toList
  | .string s => quoted s
  | .array [] => ['[', ']']
  | .array (v :: rest) => '[' :: (v.chars ++ (itemChars rest ++ [']']))
  | .object [] => ['\x7b', '\x7d']
  | .object ((k, v) :: rest) => '\x7b' :: (quoted k ++ ':' :: (v.chars ++ (memberChars rest ++ ['\x7d'])))

/-- The items behind the first, each after a comma. -/
def itemChars : List Json → List Char
  | [] => []
  | v :: rest => ',' :: (v.chars ++ itemChars rest)

/-- The members behind the first, each after a comma. -/
def memberChars : List (String × Json) → List Char
  | [] => []
  | (k, v) :: rest => ',' :: (quoted k ++ ':' :: (v.chars ++ memberChars rest))
end

def text (v : Json) : String := String.ofList v.chars

end Json
end ProductQuery
