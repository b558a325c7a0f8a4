import ValueTypes.Command

/-! The program: reads the declaration file and prints the answer. -/

namespace ValueTypes

def readFault : IO.Error → ReadFault
  | .noFileOrDirectory .. => .missing
  | .inappropriateType _ code text =>
    if code = 20 then .notDirectory else if code = 21 then .isDirectory else .other text
  | e => .other (toString e)

def readContent (path : String) : IO (Except ReadFault ByteArray) := do
  try return .ok (← IO.FS.readBinFile path)
  catch e => return .error (readFault e)

def inputOf (arguments : List String) : Option String :=
  match Command.parse arguments with
  | .ok (.generate options) => some options.input
  | _ => none

end ValueTypes

open ValueTypes in
def main (arguments : List String) : IO UInt32 := do
  let content ← match inputOf arguments with
    | some path => readContent path
    | none => pure (.error .missing)
  let response := respond arguments fun _ => content
  IO.print response.stdout
  IO.eprint response.stderr
  return response.exit.toUInt32
