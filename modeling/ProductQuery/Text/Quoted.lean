import ProductQuery.Text.Unicode.Category
import ProductQuery.Text.Unicode.Property
/-!
# Text.Quoted — text quoted for a reader

A string in a message stands between quotes.  Quotes, backslashes and the common controls are escaped by a letter; what
cannot be seen, and what would join the character before it, by its code point.
-/
namespace ProductQuery
namespace Quoted

/-- Controls, unassigned and private characters, and all blanks but the space. -/
def hidden : CharSet := (Category.set ["Cc", "Cf", "Cs", "Co", "Cn", "Zl", "Zp", "Zs"]).diff (.single ' ')

/-- Characters that join the one before them. -/
def joining : CharSet := (Property.find? "graphemeextend").getD .empty

def escape (c : Char) : List Char :=
  match c with
  | '\x00' => ['\\', '0']
  | '\t' => ['\\', 't']
  | '\r' => ['\\', 'r']
  | '\n' => ['\\', 'n']
  | '\\' => ['\\', '\\']
  | '"' => ['\\', '"']
  | c =>
    if joining.contains c || hidden.contains c then '\\' :: 'u' :: '\x7b' :: (Nat.toDigits 16 c.toNat ++ ['\x7d'])
    else [c]

def text (s : String) : String := String.ofList ('"' :: (s.toList.flatMap escape ++ ['"']))

end Quoted
end ProductQuery
