import ProductQuery.Text.Symbol
/-!
# Storage.File — what reading a file gives

A file is read as a whole.  Reading it as text fails also where its bytes are no UTF-8.
-/
namespace ProductQuery

inductive ReadFault where
  | missing
  | isDirectory
  | notDirectory
  | nameTooLong
  | nulInName
  | notText
  | system (description : String) (number : Nat)
  deriving DecidableEq, Repr

/-- The words for an error that has a number. -/
def ReadFault.numbered (description : String) (number : Nat) : String := s!"{description} (os error {number})"

def ReadFault.message : ReadFault → String
  | .missing => numbered "No such file or directory" 2
  | .isDirectory => numbered "Is a directory" 21
  | .notDirectory => numbered "Not a directory" 20
  | .nameTooLong => numbered "File name too long" 36
  | .nulInName => "file name contained an unexpected NUL byte"
  | .notText => "stream did not contain valid UTF-8"
  | .system description number => numbered description number

/-- The bytes of a file, or why there are none. -/
abbrev Contents := Except ReadFault (List UInt8)

def Contents.symbols (c : Contents) : Except ReadFault (List Symbol) :=
  match c with
  | .error e => .error e
  | .ok bytes =>
    let symbols := Symbol.ofBytes bytes
    if symbols.all Option.isSome then .ok symbols else .error .notText

end ProductQuery
