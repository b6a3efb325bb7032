import ProductQuery.Pattern.Syntax
import ProductQuery.Text.Symbol
import ProductQuery.Text.Unicode.Category
import ProductQuery.Text.Unicode.Property
/-!
# Pattern.Reader — patterns read from text

There are no back-references and no look-around.  What the reader refuses is not a pattern, and why does not matter.
The blanks of a pattern are skipped where the flag `x` is on.
-/
namespace ProductQuery
namespace Pattern

/-- What is left of a pattern, whether its blanks are skipped, and the group names used so far. -/
structure Cursor where
  rest : List Char
  skipping : Bool
  names : List (List Char)

abbrev Read := StateT Cursor Option

namespace Read

def blanks : CharSet := (Property.find? "whitespace").getD .empty

def isBlank (c : Char) : Bool := blanks.contains c

/-- What may begin a group name. -/
def letters : CharSet := (Property.find? "alphabetic").getD .empty

/-- What may go on with a group name, beside a few signs. -/
def lettersAndNumbers : CharSet := letters.union ((Category.find? "n").getD .empty)

def refuse {α : Type} : Read α := failure

def peek : Read (Option Char) := do return (← get).rest.head?

def advance : Read Unit := modify fun c => { c with rest := c.rest.drop 1 }

def dropBlanks : Bool → List Char → List Char
  | _, [] => []
  | true, c :: rest => dropBlanks (c ≠ '\n') rest
  | false, c :: rest => if isBlank c then dropBlanks false rest else if c = '#' then dropBlanks true rest else c :: rest

/-- Skips blanks and comments where they are not part of the pattern. -/
def skip : Read Unit := modify fun c => if c.skipping then { c with rest := dropBlanks false c.rest } else c

/-- Passes a character and the blanks behind it, and returns the next, which must be there. -/
def advanceTo : Read Char := do
  advance
  skip
  match ← peek with
  | some c => return c
  | none => refuse

def passBlanks : Read Unit := do advance; skip

def accept (text : List Char) : Read Bool := do
  let c ← get
  if c.rest.take text.length = text then
    set { c with rest := c.rest.drop text.length }
    return true
  else return false

/-- The next character behind the front that is not skipped. -/
def peekBeyond : Read (Option Char) := do
  let c ← get
  if !c.skipping then return c.rest.tail.head?
  let blanksDropped := c.rest.tail.dropWhile isBlank
  match blanksDropped with
  | [] => return c.rest.tail.head?
  | '#' :: rest =>
    match rest.dropWhile isBlank with
    | [] => return c.rest.tail.head?
    | d :: _ => return some d
  | d :: _ => return some d

/-- Passes the characters that satisfy a test, each with the blanks behind it. -/
def collect (test : Char → Bool) : Nat → Read (List Char)
  | 0 => return []
  | fuel + 1 => do
    match ← peek with
    | some c =>
      if test c then
        passBlanks
        return c :: (← collect test fuel)
      else return []
    | none => return []

/-- Passes blanks, whether or not the pattern skips them. -/
def dropSpaces : Read Unit := modify fun c => { c with rest := c.rest.dropWhile isBlank }

/-- A bound on the steps from here on. -/
def fuel : Read Nat := do return (← get).rest.length + 1

/-- A decimal number of 32 bits; `none` if there is no digit. -/
def decimal? : Read (Option Nat) := do
  dropSpaces
  let ds ← collect (fun c => c.isDigit) (← fuel)
  dropSpaces
  skip
  if ds = [] then return none
  let n := ofDecimalDigits ds
  if n < 0x100000000 then return some n else refuse

/-- Is this a tree that a repetition cannot follow? -/
def unrepeatable : Tree → Bool
  | .empty => true
  | .flags _ => true
  | _ => false

/-- Takes the last part, for a repetition to apply to. -/
def lastPart : List Tree → Read (Tree × List Tree)
  | t :: rest => if unrepeatable t then refuse else return (t, rest)
  | [] => refuse

/-- A counted repetition, from its opening brace. -/
def counts : Read (Nat × Option Nat) := do
  let _ ← advanceTo
  let least ← decimal?
  match ← peek with
  | some ',' => do
    if (← advanceTo) = '\x7d' then
      match least with
      | some n => advance; return (n, none)
      | none => refuse
    else
      match least, ← decimal? with
      | some n, some m => do
        if (← peek) = some '\x7d' ∧ n ≤ m then
          advance
          return (n, some m)
        else refuse
      | _, _ => refuse
  | some '\x7d' =>
    match least with
    | some n => advance; return (n, some n)
    | none => refuse
  | _ => refuse

/-- Passes the sign that makes a repetition lazy, which changes no answer. -/
def passLazy : Read Unit := do
  if (← peek) = some '?' then advance

def flag? : Char → Option Flag
  | 'i' => some .caseInsensitive
  | 'm' => some .multiLine
  | 's' => some .dotAll
  | 'U' => some .swapGreed
  | 'u' => some .unicode
  | 'R' => some .crlf
  | 'x' => some .ignoreBlanks
  | _ => none

/-- Flags up to the colon or bracket behind them: no letter twice, none missing behind the sign. -/
def flagItems : Nat → List FlagItem → Read (List FlagItem)
  | 0, _ => refuse
  | n + 1, done => do
    match ← peek with
    | none => refuse
    | some c =>
      if c = ':' ∨ c = ')' then
        if done.head? = some none then refuse else return done.reverse
      else
        let item : FlagItem ← if c = '-' then pure none else match flag? c with
          | some f => pure (some f)
          | none => refuse
        if done.contains item then refuse
        advance
        flagItems n (item :: done)

/-- Whether flags switch one on or off; `none` if they leave it. -/
def switched (f : Flag) (items : List FlagItem) : Option Bool :=
  (items.foldl (fun (s : Bool × Option Bool) item =>
    match item with
    | none => (false, s.2)
    | some g => if g = f then (s.1, some s.1) else s) (true, none)).2

/-- The name of a group, up to the closing angle. -/
def groupName : Read Unit := do
  let c ← get
  let (name, rest) := c.rest.span (· ≠ '>')
  match name, rest with
  | first :: more, _ :: rest =>
    let starts := first = '_' || letters.contains first
    let goesOn := more.all (fun d => ['_', '.', '[', ']'].contains d || lettersAndNumbers.contains d)
    if starts && goesOn && !c.names.contains name then set { c with rest, names := name :: c.names } else refuse
  | _, _ => refuse

/-- The start of a group: flags alone, or whether it captures and the flags in it. -/
inductive Opening where
  | flags (items : List FlagItem)
  | group (captures : Bool) (items : List FlagItem)

/-- Reads from the opening bracket of a group. -/
def opening : Read Opening := do
  passBlanks
  if (← accept ['?', '=']) || (← accept ['?', '!']) || (← accept ['?', '<', '=']) || (← accept ['?', '<', '!']) then
    refuse
  if (← accept ['?', 'P', '<']) || (← accept ['?', '<']) then
    groupName
    return .group true []
  if ← accept ['?'] then
    let items ← flagItems (← fuel) []
    let close ← peek
    advance
    if close = some ')' then
      if items = [] then refuse else return .flags items
    else return .group false items
  return .group true []

def scalar (n : Nat) : Read Char := if n.isValidChar then return Char.ofNat n else refuse

def isHex (c : Char) : Bool := (hexDigit? c).isSome

/-- A given number of hexadecimal digits. -/
def hexDigits : Nat → Read (List Char)
  | 0 => return []
  | n + 1 => do
    match ← peek with
    | some c =>
      if isHex c then
        passBlanks
        return c :: (← hexDigits n)
      else refuse
    | none => refuse

/-- A character by its code point, from the letter of the escape. -/
def hexLiteral (width : Nat) : Read Literal := do
  if (← advanceTo) = '\x7b' then
    let _ ← advanceTo
    let ds ← collect isHex (← fuel)
    if (← peek) = some '\x7d' ∧ ds ≠ [] then
      passBlanks
      return ⟨← scalar (ofHexDigits (ds.filterMap hexDigit?)), false⟩
    else refuse
  else
    let ds ← hexDigits width
    return ⟨← scalar (ofHexDigits (ds.filterMap hexDigit?)), width = 2⟩

/-- Splits at the first occurrence of a separator. -/
def splitAt? (separator : List Char) : List Char → Option (List Char × List Char)
  | [] => none
  | c :: rest =>
    if (c :: rest).take separator.length = separator then some ([], (c :: rest).drop separator.length)
    else (splitAt? separator rest).map (fun p => (c :: p.1, p.2))

/-- What the braces of a property class say. -/
def query (name : List Char) : Query :=
  match splitAt? ['!', '='] name, splitAt? [':'] name, splitAt? ['='] name with
  | some (p, v), _, _ => .valued (String.ofList p) (String.ofList v)
  | none, some (p, v), _ => .valued (String.ofList p) (String.ofList v)
  | none, none, some (p, v) => .valued (String.ofList p) (String.ofList v)
  | none, none, none => .named (String.ofList name)

/-- A class by property, from the letter of the escape. -/
def propertyClass : Read Query := do
  let c ← advanceTo
  if c = '\x7b' then
    passBlanks
    let name ← collect (· ≠ '\x7d') (← fuel)
    if (← peek) = some '\x7d' then
      advance
      return query name
    else refuse
  else if c = '\\' then refuse
  else
    passBlanks
    return .named (String.ofList [c])

/-- The characters that have a meaning of their own. -/
def isMeta (c : Char) : Bool :=
  ['\\', '.', '+', '*', '?', '(', ')', '|', '[', ']', '\x7b', '\x7d', '^', '$', '#', '&', '-', '~'].contains c

/-- The characters that a backslash may stand before without need. -/
def isEscapable (c : Char) : Bool :=
  isMeta c || (c.toNat < 0x80 && !c.isAlphanum && c ≠ '<' && c ≠ '>')

/-- The word edge that braces behind `\b` name; `none` if they are a counted repetition. -/
def namedBoundary : Read (Option Assertion) := do
  let before ← get
  let isNameChar := fun (c : Char) => c.isAlpha || c = '-'
  if !isNameChar (← advanceTo) then
    set before
    return none
  let name ← collect isNameChar (← fuel)
  if (← peek) ≠ some '\x7d' then refuse
  advance
  match String.ofList name with
  | "start" => return some .wordStart
  | "end" => return some .wordEnd
  | "start-half" => return some .wordStartHalf
  | "end-half" => return some .wordEndHalf
  | _ => refuse

def escape : Read Tree := do
  advance
  match ← peek with
  | none => refuse
  | some c =>
    match c with
    | 'x' => return .literal (← hexLiteral 2)
    | 'u' => return .literal (← hexLiteral 4)
    | 'U' => return .literal (← hexLiteral 8)
    | 'p' => return .property false (← propertyClass)
    | 'P' => return .property true (← propertyClass)
    | _ =>
      advance
      if isEscapable c then return .literal ⟨c, false⟩
      match c with
      | 'd' => return .shorthand false .digit
      | 'D' => return .shorthand true .digit
      | 's' => return .shorthand false .space
      | 'S' => return .shorthand true .space
      | 'w' => return .shorthand false .word
      | 'W' => return .shorthand true .word
      | 'a' => return .literal ⟨'\x07', false⟩
      | 'f' => return .literal ⟨'\x0c', false⟩
      | 't' => return .literal ⟨'\t', false⟩
      | 'n' => return .literal ⟨'\n', false⟩
      | 'r' => return .literal ⟨'\r', false⟩
      | 'v' => return .literal ⟨'\x0b', false⟩
      | 'A' => return .assertion .startText
      | 'z' => return .assertion .endText
      | 'B' => return .assertion .notBoundary
      | '<' => return .assertion .wordStart
      | '>' => return .assertion .wordEnd
      | 'b' =>
        if (← peek) = some '\x7b' then return .assertion ((← namedBoundary).getD .boundary)
        else return .assertion .boundary
      | _ => refuse

def asciiNames : List String :=
  ["alnum", "alpha", "ascii", "blank", "cntrl", "digit", "graph", "lower", "print", "punct", "space", "upper", "word",
    "xdigit"]

/-- An ASCII class in a class, from its bracket; nothing is passed if there is none. -/
def asciiClass? : Read (Option ClassItem) := do
  let c ← get
  match c.rest with
  | '[' :: ':' :: rest =>
    let (negated, rest) := match rest with
      | '^' :: rest => (true, rest)
      | rest => (false, rest)
    let (name, rest) := rest.span (· ≠ ':')
    match rest with
    | ':' :: ']' :: rest =>
      if asciiNames.contains (String.ofList name) then
        set { c with rest }
        return some (.ascii negated (String.ofList name))
      else return none
    | _ => return none
  | _ => return none

/-- A character or an escape in a class. -/
def classAtom : Read Tree := do
  match ← peek with
  | none => refuse
  | some '\\' => escape
  | some c =>
    advance
    return .literal ⟨c, false⟩

/-- An atom as a member of a class. -/
def asItem : Tree → Read ClassItem
  | .literal l => return .literal l
  | .property n q => return .property n q
  | .shorthand n k => return .shorthand n k
  | _ => refuse

/-- A member of a class: an atom or a range. -/
def classRange : Read ClassItem := do
  let first ← classAtom
  skip
  match ← peek with
  | none => refuse
  | some c =>
    if c ≠ '-' then asItem first
    else
      let beyond ← peekBeyond
      if beyond = some ']' ∨ beyond = some '-' then asItem first
      else
        let _ ← advanceTo
        match first, ← classAtom with
        | .literal a, .literal b => if a.char ≤ b.char then return .range a b else refuse
        | _, _ => refuse

/-- Hyphens at the start of a class stand for themselves. -/
def leadingHyphens : Nat → Read (List ClassItem)
  | 0 => refuse
  | n + 1 => do
    if (← peek) = some '-' then
      let _ ← advanceTo
      return .literal ⟨'-', false⟩ :: (← leadingHyphens n)
    else return []

/-- The opening of a class: whether it is negated, and the members that only its start can hold. -/
def classOpening : Read (Bool × List ClassItem) := do
  let c ← advanceTo
  let negated := c == '^'
  if negated then let _ ← advanceTo
  let hyphens ← leadingHyphens (← fuel)
  if hyphens = [] ∧ (← peek) = some ']' then
    let _ ← advanceTo
    return (negated, [.literal ⟨']', false⟩])
  else return (negated, hyphens)

def unite : List ClassItem → ClassItem
  | [] => .empty
  | [i] => i
  | is => .union is

def applyOp (pending : Option (SetOp × ClassSet)) (rhs : ClassSet) : ClassSet :=
  match pending with
  | none => rhs
  | some (kind, lhs) => .op kind lhs rhs

def setOp? : Read (Option SetOp) := do
  if ← accept ['&', '&'] then return some .intersection
  if ← accept ['-', '-'] then return some .difference
  if ← accept ['~', '~'] then return some .symmetricDifference
  return none

/-- Reads the members of a class, latest first, up to its closing bracket. -/
def classBody : Nat → List ClassItem → Option (SetOp × ClassSet) → Read ClassSet
  | 0, _, _ => refuse
  | n + 1, items, pending => do
    skip
    match ← peek with
    | none => refuse
    | some '[' => do
      match ← asciiClass? with
      | some i => classBody n (i :: items) pending
      | none =>
        let (negated, members) ← classOpening
        let set ← classBody n members.reverse none
        classBody n (.bracketed negated set :: items) pending
    | some ']' =>
      advance
      return applyOp pending (.item (unite items.reverse))
    | some _ => do
      match ← setOp? with
      | some kind => classBody n [] (some (kind, applyOp pending (.item (unite items.reverse))))
      | none =>
        let i ← classRange
        classBody n (i :: items) pending

def sequence : List Tree → Tree
  | [] => .empty
  | [t] => t
  | ts => .concat ts

def choice : List Tree → Tree
  | [t] => t
  | ts => .alternation ts

mutual
/-- Reads branches up to a closing bracket or the end. -/
def branches : Nat → Read (List Tree)
  | 0 => refuse
  | n + 1 => do
    let parts ← parts n []
    if (← peek) = some '|' then
      advance
      return sequence parts :: (← branches n)
    else return [sequence parts]

/-- Reads the parts of a branch; those read already stand latest first. -/
def parts : Nat → List Tree → Read (List Tree)
  | 0, _ => refuse
  | n + 1, done => do
    skip
    match ← peek with
    | none => return done.reverse
    | some '|' => return done.reverse
    | some ')' => return done.reverse
    | some '(' =>
      match ← opening with
      | .flags items =>
        modify fun c => { c with skipping := (switched .ignoreBlanks items).getD c.skipping }
        parts n (.flags items :: done)
      | .group captures items =>
        let outside := (← get).skipping
        modify fun c => { c with skipping := (switched .ignoreBlanks items).getD c.skipping }
        let inner ← branches n
        if (← peek) ≠ some ')' then refuse
        advance
        modify fun c => { c with skipping := outside }
        parts n (.group captures items (choice inner) :: done)
    | some '[' =>
      let (negated, members) ← classOpening
      let set ← classBody (← fuel) members.reverse none
      parts n (.bracketed negated set :: done)
    | some '?' => repeated n done 0 (some 1)
    | some '*' => repeated n done 0 none
    | some '+' => repeated n done 1 none
    | some '\x7b' =>
      let (t, done) ← lastPart done
      let (least, most) ← counts
      skip
      passLazy
      parts n (.repetition t least most :: done)
    | some '\\' =>
      let t ← escape
      parts n (t :: done)
    | some '.' => advance; parts n (.dot :: done)
    | some '^' => advance; parts n (.assertion .startLine :: done)
    | some '$' => advance; parts n (.assertion .endLine :: done)
    | some c => advance; parts n (.literal ⟨c, false⟩ :: done)

def repeated : Nat → List Tree → Nat → Option Nat → Read (List Tree)
  | 0, _, _, _ => refuse
  | n + 1, done, least, most => do
    let (t, done) ← lastPart done
    advance
    passLazy
    parts n (.repetition t least most :: done)
end

end Read

def Tree.read (text : List Char) : Option Tree :=
  match (Read.branches (2 * text.length + 2)).run ⟨text, false, []⟩ with
  | some (ts, c) => if c.rest = [] ∧ (Read.choice ts).depth ≤ maxNesting then some (Read.choice ts) else none
  | none => none

end Pattern
end ProductQuery
