/-! JSON values whose objects keep the order of their fields, and their two layouts. -/

namespace ValueTypes

inductive Json where
  | null
  | bool (value : Bool)
  | text (value : String)
  | list (items : List Json)
  | object (fields : List (String × Json))

namespace Json

def ofOption {α : Type} (f : α → Json) : Option α → Json
  | none => null
  | some a => f a

def ofList {α : Type} (f : α → Json) (items : List α) : Json := list (items.map f)

def texts (items : List String) : Json := ofList text items

def escapedChar (c : Char) : String :=
  match c with
  | '"' => "\\\""
  | '\\' => "\\\\"
  | '\x08' => "\\b"
  | '\t' => "\\t"
  | '\n' => "\\n"
  | '\x0c' => "\\f"
  | '\r' => "\\r"
  | c =>
    if c.toNat < 0x20 then
      String.ofList ['\\', 'u', '0', '0', (c.toNat / 16).digitChar, (c.toNat % 16).digitChar]
    else c.toString

def quote (s : String) : String :=
  "\"" ++ String.join (s.toList.map escapedChar) ++ "\""

mutual

def compact : Json → String
  | null => "null"
  | bool true => "true"
  | bool false => "false"
  | text s => quote s
  | list items => "[" ++ String.intercalate "," (compactItems items) ++ "]"
  | object fields => "\x7b" ++ String.intercalate "," (compactFields fields) ++ "\x7d"

def compactItems : List Json → List String
  | [] => []
  | item :: items => compact item :: compactItems items

def compactFields : List (String × Json) → List String
  | [] => []
  | (key, value) :: fields => (quote key ++ ":" ++ compact value) :: compactFields fields

end

def indentation (depth : Nat) : String := String.join (List.replicate depth "  ")

def block (opening closing : String) (depth : Nat) (parts : List String) : String :=
  match parts with
  | [] => opening ++ closing
  | parts =>
    let lines := parts.map fun part => "\n" ++ indentation (depth + 1) ++ part
    opening ++ String.intercalate "," lines ++ "\n" ++ indentation depth ++ closing

mutual

def pretty (depth : Nat) : Json → String
  | list items => block "[" "]" depth (prettyItems (depth + 1) items)
  | object fields => block "\x7b" "\x7d" depth (prettyFields (depth + 1) fields)
  | null => "null"
  | bool true => "true"
  | bool false => "false"
  | text s => quote s

def prettyItems (depth : Nat) : List Json → List String
  | [] => []
  | item :: items => pretty depth item :: prettyItems depth items

def prettyFields (depth : Nat) : List (String × Json) → List String
  | [] => []
  | (key, value) :: fields =>
    (quote key ++ ": " ++ pretty depth value) :: prettyFields depth fields

end

end Json
end ValueTypes
