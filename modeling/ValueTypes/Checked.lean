/-! Results that report every fault and not only the first one. -/

namespace ValueTypes

abbrev Checked (ε α : Type) := Except (List ε) α

namespace Checked

variable {ε α β : Type}

def faults : Checked ε α → List ε
  | .ok _ => []
  | .error es => es

def value? : Checked ε α → Option α
  | .ok a => some a
  | .error _ => none

/-- All the values, unless some fault is reported; then all the faults. -/
def all (results : List (Checked ε α)) : Checked ε (List α) :=
  match results.flatMap faults with
  | [] => .ok (results.filterMap value?)
  | es => .error es

def both : Checked ε α → Checked ε β → Checked ε (α × β)
  | .ok a, .ok b => .ok (a, b)
  | .error es, .ok _ => .error es
  | .ok _, .error es => .error es
  | .error es, .error es' => .error (es ++ es')

end Checked
end ValueTypes
