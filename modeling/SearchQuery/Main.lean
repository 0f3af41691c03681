import SearchQuery.Command

/-!
# The program
-/

set_option autoImplicit false
namespace SearchQuery.Program

def reasonOf : IO.Error → String
  | .noFileOrDirectory _ code _ => s!"No such file or directory (os error {code})"
  | .permissionDenied _ code _ => s!"Permission denied (os error {code})"
  | .inappropriateType _ code _ => s!"Is a directory (os error {code})"
  | error => toString error

partial def readRest (stream : IO.FS.Stream) (done : ByteArray) : IO ByteArray := do
  let chunk ← stream.read 65536
  if chunk.isEmpty then return done else readRest stream (done ++ chunk)

def bytesOfSource : Source → IO ByteArray
  | .standardInput => do readRest (← IO.getStdin) ByteArray.empty
  | .file path => IO.FS.readBinFile path

def readSource (source : Source) : IO (Except String (List UInt8)) := do
  match ← (bytesOfSource source).toBaseIO with
  | .ok bytes => return .ok bytes.data.toList
  | .error error => return .error (reasonOf error)

end SearchQuery.Program

def main (arguments : List String) : IO UInt32 := do
  let outcome ← SearchQuery.Command.execute SearchQuery.Program.readSource arguments
  IO.print outcome.output
  IO.eprint outcome.errors
  return outcome.status.toUInt32
