import ValueTypes.Text.Hidden

/-! Text in double quotes, with every character that would not show as itself escaped. -/

namespace ValueTypes.Text

def hex (n : Nat) : String := String.ofList (Nat.toDigits 16 n)

def quotedChar (c : Char) : String :=
  match c with
  | '\x00' => "\\0"
  | '\t' => "\\t"
  | '\n' => "\\n"
  | '\r' => "\\r"
  | '"' => "\\\""
  | '\\' => "\\\\"
  | c => if isHidden c then "\\u\x7b" ++ hex c.toNat ++ "\x7d" else c.toString

def quoted (s : String) : String :=
  "\"" ++ String.join (s.toList.map quotedChar) ++ "\""

end ValueTypes.Text
