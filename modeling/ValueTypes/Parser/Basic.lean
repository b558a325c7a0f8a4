/-! Parsers over a list of characters. A parser either reads a value and leaves the rest of the text,
or misses: it says what it expected and where. A miss lets the next alternative try; once a parser is
committed it halts instead, and no alternative is tried. -/

namespace ValueTypes

inductive Expected where
  | word (spelling : String)
  | identifier
  | endOfInput
  | directiveValue
  | pointerType
  | payloadType
  | blank
  | progress
  deriving DecidableEq

def Expected.message : Expected → String
  | word spelling => "string matching \x7b" ++ spelling ++ "\x7d"
  | identifier => "identifier"
  | endOfInput => "EOF"
  | directiveValue => "annotation value"
  | pointerType => "pointer type"
  | payloadType => "attributeType naming a valid attribute type"
  | blank => "blank"
  | progress => "progress"

structure Mismatch where
  rest : List Char
  expected : Expected
  deriving DecidableEq

/-- The mismatch further into the text, the first one on a tie. -/
def Mismatch.further (a b : Mismatch) : Mismatch :=
  if b.rest.length < a.rest.length then b else a

inductive Reading (α : Type) where
  | done (value : α) (rest : List Char)
  | miss (why : Mismatch)
  | halt (why : Mismatch)
  deriving DecidableEq

def Reading.map {α β : Type} (f : α → β) : Reading α → Reading β
  | done a rest => done (f a) rest
  | miss why => miss why
  | halt why => halt why

def Parser (α : Type) := List Char → Reading α

namespace Parser

variable {α β : Type}

def succeed (a : α) : Parser α := fun s => .done a s

def andThen (p : Parser α) (f : α → Parser β) : Parser β := fun s =>
  match p s with
  | .done a rest => f a rest
  | .miss why => .miss why
  | .halt why => .halt why

instance : Monad Parser where
  pure := succeed
  bind := andThen

@[simp] theorem pure_apply (a : α) (s : List Char) : (pure a : Parser α) s = .done a s := rfl

theorem bind_apply (p : Parser α) (f : α → Parser β) (s : List Char) :
    (p >>= f) s = match p s with
      | .done a rest => f a rest
      | .miss why => .miss why
      | .halt why => .halt why := rfl

/-- From here on no alternative is tried. -/
def commit (p : Parser α) : Parser α := fun s =>
  match p s with
  | .miss why => .halt why
  | reading => reading

def optional (p : Parser α) : Parser (Option α) := fun s =>
  match p s with
  | .done a rest => .done (some a) rest
  | .miss _ => .done none s
  | .halt why => .halt why

def orElse (p q : Parser α) : Parser α := fun s =>
  match p s with
  | .miss why =>
    match q s with
    | .miss why' => .miss (why.further why')
    | reading => reading
  | reading => reading

/-- Reports any mismatch inside `p` as `expected` where `p` started. -/
def expecting (expected : Expected) (p : Parser α) : Parser α := fun s =>
  match p s with
  | .done a rest => .done a rest
  | .miss _ => .miss ⟨s, expected⟩
  | .halt _ => .halt ⟨s, expected⟩

def ensuring (expected : Expected) (ok : α → Bool) (p : Parser α) : Parser α := fun s =>
  match p s with
  | .done a rest => if ok a then .done a rest else .miss ⟨s, expected⟩
  | reading => reading

def dropWord : List Char → List Char → Option (List Char)
  | [], s => some s
  | _ :: _, [] => none
  | c :: word, d :: s => if c = d then dropWord word s else none

def word (spelling : String) : Parser Unit := fun s =>
  match dropWord spelling.toList s with
  | some rest => .done () rest
  | none => .miss ⟨s, .word spelling⟩

def run (cls : Char → Bool) : Parser (List Char) := fun s =>
  .done (s.takeWhile cls) (s.dropWhile cls)

def skip (cls : Char → Bool) : Parser Unit := fun s => .done () (s.dropWhile cls)

def skipSome (cls : Char → Bool) : Parser Unit
  | [] => .miss ⟨[], .blank⟩
  | c :: s => if cls c then .done () (s.dropWhile cls) else .miss ⟨c :: s, .blank⟩

def endOfInput : Parser Unit
  | [] => .done () []
  | s => .miss ⟨s, .endOfInput⟩

end Parser
end ValueTypes
