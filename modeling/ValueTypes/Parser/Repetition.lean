import ValueTypes.Parser.Basic

/-! Repetition and self-reference. Each round has to leave a shorter text, which is what makes these
parsers end. -/

namespace ValueTypes.Parser

variable {α β : Type}

def many (p : Parser α) : Parser (List α) := fun s =>
  match p s with
  | .miss _ => .done [] s
  | .halt why => .halt why
  | .done a rest =>
    if rest.length < s.length then (many p rest).map (a :: ·) else .miss ⟨s, .progress⟩
termination_by s => s.length

/-- Reads `item` until it misses and then `close`. When neither can be read, the mismatch further
into the text is reported, so that a broken item is not hidden behind the missing end. -/
def manyUntil (item : Parser α) (close : Parser β) : Parser (List α) := fun s =>
  match item s with
  | .done a rest =>
    if rest.length < s.length then (manyUntil item close rest).map (a :: ·)
    else .miss ⟨s, .progress⟩
  | .halt why => .halt why
  | .miss why =>
    match close s with
    | .done _ rest => .done [] rest
    | .miss why' => .miss (why'.further why)
    | .halt why' => .halt why'
termination_by s => s.length

def sepBy1 (sep : Parser Unit) (p : Parser α) : Parser (List α) := do
  let first ← p
  let others ← many (do sep; p)
  return first :: others

def sepBy (sep : Parser Unit) (p : Parser α) : Parser (List α) := do
  let items ← optional (sepBy1 sep p)
  return items.getD []

/-- A rule that may use itself on any shorter text. -/
def nested (rule : Parser α → Parser α) : Parser α := fun s =>
  rule (fun t => if t.length < s.length then nested rule t else .miss ⟨t, .progress⟩) s
termination_by s => s.length

end ValueTypes.Parser
