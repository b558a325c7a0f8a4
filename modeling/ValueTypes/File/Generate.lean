import ValueTypes.File.Tree
import ValueTypes.Text.Quoted

/-! Generating from a file, and why it may fail. -/

namespace ValueTypes

inductive Failure where
  | unreadable (path : String) (fault : ReadFault)
  | invalid (path : String) (problems : List Problem)

def Failure.message : Failure → String
  | unreadable path fault => "Failed to read " ++ Text.quoted path ++ ": " ++ fault.message
  | invalid path problems =>
    Text.quoted path ++ " is not a valid declaration:" ++
      String.join (problems.map fun problem => "\n  " ++ problem.message)

def decodeText (content : Except ReadFault ByteArray) : Except ReadFault String :=
  match content with
  | .error fault => .error fault
  | .ok bytes =>
    match String.fromUTF8? bytes with
    | some text => .ok text
    | none => .error .notUtf8

def generateAt (path : String) (kind : Dialect) (settings : Settings)
    (content : Except ReadFault ByteArray) : Except Failure (List Objc.File) :=
  match decodeText content with
  | .error fault => .error (.unreadable path fault)
  | .ok source =>
    match generate kind settings source with
    | .error problems => .error (.invalid path problems)
    | .ok files => .ok files

end ValueTypes
