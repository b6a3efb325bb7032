import ProductQuery.Text.Symbol
/-!
# Service.Address — the addresses of hosts

An address is read from its usual text and written in its shortest one.  The longer kind has eight groups of sixteen
bits. One row of zero groups may stand as `::`, and the last two groups may have the form of a short address.
-/
namespace ProductQuery

/-- An address of four octets. -/
structure ShortAddress where
  a : UInt8
  b : UInt8
  c : UInt8
  d : UInt8
  deriving DecidableEq, Repr

/-- An address of eight groups. -/
structure LongAddress where
  groups : List UInt16
  eight : groups.length = 8
  deriving DecidableEq, Repr

inductive Address where
  | short (a : ShortAddress)
  | long (a : LongAddress)
  deriving DecidableEq, Repr

namespace ShortAddress

/-- A decimal number up to 255 without needless zeros. -/
def readOctet (text : List Char) : Option (UInt8 × List Char) :=
  let (digits, rest) := text.span Char.isDigit
  let n := ofDecimalDigits digits
  if digits = [] ∨ 3 < digits.length ∨ 255 < n ∨ (digits.head? = some '0' ∧ 1 < digits.length) then none
  else some (UInt8.ofNat n, rest)

def readNext : List Char → Option (UInt8 × List Char)
  | '.' :: rest => readOctet rest
  | _ => none

/-- Reads an address at the beginning of a text. -/
def read (text : List Char) : Option (ShortAddress × List Char) := do
  let (a, r) ← readOctet text
  let (b, r) ← readNext r
  let (c, r) ← readNext r
  let (d, r) ← readNext r
  return (⟨a, b, c, d⟩, r)

/-- The address as two groups of sixteen bits. -/
def groups (x : ShortAddress) : List UInt16 :=
  [UInt16.ofNat (x.a.toNat * 256 + x.b.toNat), UInt16.ofNat (x.c.toNat * 256 + x.d.toNat)]

def ofGroups (g h : UInt16) : ShortAddress :=
  ⟨UInt8.ofNat (g.toNat / 256), UInt8.ofNat (g.toNat % 256), UInt8.ofNat (h.toNat / 256), UInt8.ofNat (h.toNat % 256)⟩

def text (x : ShortAddress) : String := s!"{x.a.toNat}.{x.b.toNat}.{x.c.toNat}.{x.d.toNat}"

end ShortAddress

namespace LongAddress

/-- One to four hexadecimal digits. -/
def readGroup (text : List Char) : Option (UInt16 × List Char) :=
  let (digits, rest) := text.span (fun c => (hexDigit? c).isSome)
  if digits = [] ∨ 4 < digits.length then none
  else some (UInt16.ofNat (ofHexDigits (digits.filterMap hexDigit?)), rest)

/-- What stands behind the colon before a group; the first group has none. -/
def afterColon (first : Bool) (text : List Char) : Option (List Char) :=
  if first then some text
  else
    match text with
    | ':' :: rest => some rest
    | _ => none

/-- The groups of a row. -/
structure Row where
  groups : List UInt16
  /-- The last two groups had the form of a short address. -/
  endsShort : Bool
  rest : List Char

/-- Reads groups as long as there are any and there is room for them. -/
def readRow (first : Bool) : Nat → List Char → Row
  | 0, text => ⟨[], false, text⟩
  | room + 1, text =>
    match afterColon first text with
    | none => ⟨[], false, text⟩
    | some behind =>
      match if room = 0 then none else ShortAddress.read behind with
      | some (a, rest) => ⟨a.groups, true, rest⟩
      | none =>
        match readGroup behind with
        | none => ⟨[], false, text⟩
        | some (g, rest) =>
          let row := readRow false room rest
          { row with groups := g :: row.groups }

def ofGroups? (groups : List UInt16) : Option LongAddress :=
  if h : groups.length = 8 then some ⟨groups, h⟩ else none

/-- Reads an address at the beginning of a text. -/
def read (text : List Char) : Option (LongAddress × List Char) :=
  let front := readRow true 8 text
  if front.groups.length = 8 then (ofGroups? front.groups).map (·, front.rest)
  else if front.endsShort then none
  else
    match front.rest with
    | ':' :: ':' :: behind =>
      let back := readRow true (7 - front.groups.length) behind
      let zeros := List.replicate (8 - front.groups.length - back.groups.length) 0
      (ofGroups? (front.groups ++ zeros ++ back.groups)).map (·, back.rest)
    | _ => none

/-- How many zero groups stand from a place on. -/
def zerosFrom (groups : List UInt16) (i : Nat) : Nat := ((groups.drop i).takeWhile (· = 0)).length

/-- The place of the longest row of zero groups, the first of several. -/
def longestZeros (groups : List UInt16) : Nat :=
  (List.range groups.length).foldl (fun best i => if zerosFrom groups best < zerosFrom groups i then i else best) 0

def groupText (g : UInt16) : String := String.ofList (Nat.toDigits 16 g.toNat)

def rowText (groups : List UInt16) : String := ":".intercalate (groups.map groupText)

/-- The short address inside, if the groups before it say that there is one. -/
def short? (x : LongAddress) : Option ShortAddress :=
  match x.groups with
  | [0, 0, 0, 0, 0, 0xffff, g, h] => some (.ofGroups g h)
  | _ => none

def text (x : LongAddress) : String :=
  match x.short? with
  | some a => "::ffff:" ++ a.text
  | none =>
    let i := longestZeros x.groups
    let n := zerosFrom x.groups i
    if 1 < n then rowText (x.groups.take i) ++ "::" ++ rowText (x.groups.drop (i + n)) else rowText x.groups

end LongAddress

namespace Address

def ofText? (text : String) : Option Address :=
  match ShortAddress.read text.toList with
  | some (a, rest) => if rest = [] then some (.short a) else none
  | none =>
    match LongAddress.read text.toList with
    | some (a, []) => some (.long a)
    | _ => none

def withPort (a : Address) (port : UInt16) : String :=
  match a with
  | .short a => s!"{a.text}:{port.toNat}"
  | .long a => s!"[{a.text}]:{port.toNat}"

end Address
end ProductQuery
