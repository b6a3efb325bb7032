/-!
# Text.Symbol — bytes read as text

A byte sequence is read as UTF-8 without refusing any of it: a byte that belongs to no character is kept as a stray.
Text is the case without strays.
-/
namespace ProductQuery

/-- A character, or `none` for a byte that belongs to no character. -/
abbrev Symbol := Option Char

namespace Symbol

def width : Symbol → Nat
  | some c => c.utf8Size
  | none => 1

/-- The six low bits of a continuation byte. -/
def continuation? (b : UInt8) : Option Nat :=
  if 0x80 ≤ b ∧ b ≤ 0xBF then some (b.toNat - 0x80) else none

/-- The character of a code point, unless it is a surrogate, out of range, or below `least`, where a shorter encoding
exists. -/
def character? (least n : Nat) : Option Char :=
  if least ≤ n ∧ n.isValidChar then some (Char.ofNat n) else none

/-- The character that a byte begins, and how many bytes follow it. -/
def leading (b : UInt8) (rest : List UInt8) : Option (Char × Nat) :=
  if b < 0x80 then some (Char.ofNat b.toNat, 0)
  else if b < 0xC0 then none
  else if b < 0xE0 then
    match (rest.take 1).mapM continuation? with
    | some [x] => (character? 0x80 ((b.toNat - 0xC0) * 64 + x)).map (·, 1)
    | _ => none
  else if b < 0xF0 then
    match (rest.take 2).mapM continuation? with
    | some [x, y] => (character? 0x800 ((b.toNat - 0xE0) * 4096 + x * 64 + y)).map (·, 2)
    | _ => none
  else if b < 0xF8 then
    match (rest.take 3).mapM continuation? with
    | some [x, y, z] =>
      (character? 0x10000 ((b.toNat - 0xF0) * 262144 + x * 4096 + y * 64 + z)).map (·, 3)
    | _ => none
  else none

def ofBytes : List UInt8 → List Symbol
  | [] => []
  | b :: rest =>
    match leading b rest with
    | some (c, n) => some c :: ofBytes (rest.drop n)
    | none => none :: ofBytes rest
termination_by bytes => bytes.length
decreasing_by all_goals simp only [List.length_drop, List.length_cons]; omega

def ofText (s : String) : List Symbol := s.toList.map some

end Symbol

/-- The bytes of a text. -/
def Text.bytes (s : String) : List UInt8 := s.toByteArray.data.toList

/-- The number of a hexadecimal digit, in either case. -/
def hexDigit? (c : Char) : Option Nat :=
  if '0' ≤ c ∧ c ≤ '9' then some (c.toNat - '0'.toNat)
  else if 'a' ≤ c ∧ c ≤ 'f' then some (c.toNat - 'a'.toNat + 10)
  else if 'A' ≤ c ∧ c ≤ 'F' then some (c.toNat - 'A'.toNat + 10)
  else none

/-- The number that hexadecimal digits spell, most significant first. -/
def ofHexDigits (digits : List Nat) : Nat := digits.foldl (fun n d => n * 16 + d) 0

/-- The number that decimal digits spell. -/
def ofDecimalDigits (digits : List Char) : Nat := digits.foldl (fun n c => n * 10 + (c.toNat - '0'.toNat)) 0

end ProductQuery
