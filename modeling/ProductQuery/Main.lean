import ProductQuery.Command.Run
/-!
# Main — the command line

Log lines go to the standard output and the standard error, and so does the answer of `query`.  A command that fails
prints why and ends with the code 1.
-/
namespace ProductQuery
namespace CommandLine

def faultOf : IO.Error → ReadFault
  | .noFileOrDirectory _ _ _ => .missing
  | .inappropriateType _ number _ => if number = 21 then .isDirectory else .notDirectory
  | .permissionDenied _ number details => .system details number.toNat
  | .invalidArgument _ number details => if number = 36 then .nameTooLong else .system details number.toNat
  | e => .system e.toString 0

def readFile (path : String) : IO Contents := do
  try
    let bytes ← IO.FS.readBinFile path
    return .ok bytes.toList
  catch e => return .error (faultOf e)

def readInput : IO (List UInt8) := do
  let bytes ← (← IO.getStdin).readBinToEnd
  return bytes.toList

def printLog (entries : List Log.Entry) : IO Unit := do
  for line in Log.mainLines entries do IO.println line
  for line in Log.errorLines entries do IO.eprintln line

def fail (e : CommandError) : IO UInt32 := do
  IO.eprintln e.display
  return 1

def usageText : String := "usage: serve [--config PATH] | query products|attributes [--config PATH]"

def runServe (path : String) : IO UInt32 := do
  let r ← Command.service readFile path
  printLog r.log
  match r.result with
  | .error e => fail e
  | .ok _ => fail (.serve "HTTP server failed: this program has no network listener")

def runQuery (c : Collection) (path : String) : IO UInt32 := do
  let start ← IO.monoMsNow
  let elapsed : IO UInt64 := do return UInt64.ofNat ((← IO.monoMsNow) - start)
  let r ← Command.query readFile readInput elapsed c path
  printLog r.log
  match r.result with
  | .error e => fail e
  | .ok v =>
    IO.println v.text
    return 0

def run (arguments : List String) : IO UInt32 :=
  match Invocation.ofArguments arguments with
  | .ok (.serve path) => runServe path
  | .ok (.query c path) => runQuery c path
  | .error .version => do
    IO.println Service.version
    return 0
  | .error .help => do
    IO.println usageText
    return 0
  | .error u => do
    IO.eprintln (u.name ++ "\n" ++ usageText)
    return UInt32.ofNat u.exitCode

end CommandLine
end ProductQuery

def main (arguments : List String) : IO UInt32 := ProductQuery.CommandLine.run arguments
