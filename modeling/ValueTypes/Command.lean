import ValueTypes.Command.Arguments
import ValueTypes.File.Generate
import ValueTypes.Objc.Encoding

/-! The answer to a command line. -/

namespace ValueTypes

structure Response where
  exit : Nat
  stdout : String
  stderr : String

def versionLine : String := "adt-generator 0.1.0"

def helpText : String :=
  "Generates Objective-C object models from value object and algebraic type declarations\n\n" ++
  "Usage: adt-generator [OPTIONS] <INPUT>\n\n" ++
  "Arguments:\n" ++
  "  <INPUT>          The declaration file\n\n" ++
  "Options:\n" ++
  "      --kind <KIND>    algebraic-type or value-object; by default a .value file is a value object\n" ++
  "      --include <TAG>  Enable a plugin tag for this run\n" ++
  "      --exclude <TAG>  Disable a plugin tag for this run\n" ++
  "      --pretty         Pretty-print the generated JSON\n" ++
  "  -v, --verbose        Log more; repeat for even more\n" ++
  "  -h, --help           Print help\n" ++
  "  -V, --version        Print version"

def renderFiles (pretty : Bool) (files : List Objc.File) : String :=
  let json := Json.ofList Objc.File.json files
  if pretty then json.pretty 0 else json.compact

def Options.respond (options : Options) (content : Except ReadFault ByteArray) : Response :=
  let kind := options.kind.getD (.ofPath options.input)
  match generateAt options.input kind ⟨options.includes, options.excludes⟩ content with
  | .ok files => ⟨0, renderFiles options.pretty files ++ "\n", ""⟩
  | .error failure => ⟨1, "", failure.message ++ "\n"⟩

def respond (arguments : List String) (read : String → Except ReadFault ByteArray) : Response :=
  match Command.parse arguments with
  | .error e => ⟨2, "", e.message ++ "\n"⟩
  | .ok .version => ⟨0, versionLine ++ "\n", ""⟩
  | .ok .help => ⟨0, helpText ++ "\n", ""⟩
  | .ok (.generate options) => options.respond (read options.input)

end ValueTypes
