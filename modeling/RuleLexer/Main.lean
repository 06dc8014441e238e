import RuleLexer.Command

/-!
# The program

Reads the files that the arguments name and performs the run on what was read.
-/

namespace RuleLexer.Program

def readError : IO.Error → ReadError
  | .noFileOrDirectory _ code text | .inappropriateType _ code text
  | .permissionDenied _ code text => .system text code.toNat
  | e => .system (toString e) 0

def readFile (path : String) : IO (Except ReadError String) := do
  match ← (IO.FS.readBinFile path).toBaseIO with
  | .ok bytes => return decodeText bytes
  | .error e => return .error (readError e)

end RuleLexer.Program

def main (args : List String) : IO UInt32 := do
  let table ← (RuleLexer.Command.paths args).mapM fun path =>
    return (path, ← RuleLexer.Program.readFile path)
  let files : RuleLexer.FileSystem := fun path => (table.lookup path).getD (.error .notFound)
  let outcome := RuleLexer.Command.run files args
  IO.print outcome.stdout
  IO.eprint outcome.stderr
  return outcome.code.toUInt32
