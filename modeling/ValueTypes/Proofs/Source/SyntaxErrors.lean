import ValueTypes.Proofs.Parser.Position
import ValueTypes.Proofs.Source.Reports

/-! Syntax errors: where in the source they stand, and which expectations they can name. -/

namespace ValueTypes.Source

open ValueTypes.Parser

theorem reports_algebraicType : Reports true [.identifier, .endOfInput, .word "\x7b", .word "\x7d"]
    [.identifier, .directiveValue, .pointerType, .payloadType, .word ")", .word ">", .word "\x7d"]
    algebraicType :=
  (reports_declaration reports_caseBlock).mono (by simp) (by simp)

theorem reports_valueObject : Reports true [.identifier, .endOfInput, .word "\x7b"]
    [.identifier, .directiveValue, .pointerType, .word ")", .word ">", .word "\x7d"] valueObject :=
  (reports_declaration reports_attributeBlock).mono (by simp) (by simp)

/-! ### Where errors stand -/

/-- Errors in both kinds of declarations and in types on their own are placed where reading stopped,
also those that come from a type inside a directive. -/
theorem placesErrors_grammar :
    algebraicType.PlacesErrors ∧ valueObject.PlacesErrors ∧ wholeTypeExpr.PlacesErrors :=
  ⟨reports_algebraicType.placesErrors, reports_valueObject.placesErrors,
    reports_wholeTypeExpr.placesErrors⟩

def brokenStart : String :=
  "# Größe\nShape \x7b %singleAttributeSubtype attributeType=\"Ä\"\n "

def brokenPayload : String := brokenStart ++ "size \x7d"

theorem placesErrors_brokenPayload :
    algebraicType.parse brokenPayload = .error ⟨⟨3, 2⟩, .payloadType⟩ ∧
      algebraicType.GivesUpAt brokenPayload ⟨⟨3, 2⟩, .payloadType⟩ brokenStart.toList
        "size \x7d".toList := by
  have herror : algebraicType.parse brokenPayload = .error ⟨⟨3, 2⟩, .payloadType⟩ :=
    error?_eq_some.mp (by decide +kernel)
  have hcuts : Position.Cuts ⟨3, 2⟩ brokenPayload.toList brokenStart.toList "size \x7d".toList := by
    have hposition : Position.after brokenStart.toList = ⟨3, 2⟩ := by decide +kernel
    rw [brokenPayload, String.toList_append, ← hposition]
    exact Position.cuts_after _ _
  obtain ⟨before, after, hplace, hunique⟩ := placesErrors_grammar.1 _ _ herror
  obtain ⟨hbefore, hafter⟩ := hunique _ _ hcuts
  rw [hbefore, hafter]
  exact ⟨herror, hplace⟩

/-! ### What errors expect -/

def typeMessages : List String :=
  ["identifier", "EOF", "pointer type", "string matching \x7b)\x7d", "string matching \x7b>\x7d"]

def valueObjectMessages : List String :=
  ["identifier", "EOF", "annotation value", "pointer type", "string matching \x7b)\x7d",
    "string matching \x7b>\x7d", "string matching \x7b\x7b\x7d", "string matching \x7b\x7d\x7d"]

def algebraicTypeMessages : List String :=
  ["identifier", "EOF", "annotation value", "pointer type",
    "attributeType naming a valid attribute type", "string matching \x7b)\x7d",
    "string matching \x7b>\x7d", "string matching \x7b\x7b\x7d", "string matching \x7b\x7d\x7d"]

def brokenTypes : List String := ["", "A b", "A<", "A(b", "A<b"]

def brokenValueObjects : List String :=
  ["", "A \x7b\x7d b", "%a b=", "A \x7b B<1 c \x7d", "A includes(", "A \x7b B<c", "A", "A \x7b"]

def brokenAlgebraicTypes : List String :=
  ["", "A \x7b\x7d b", "%a b=", "A \x7b B \x7b C<1 d \x7d \x7d",
    "A \x7b %singleAttributeSubtype attributeType=1\nb \x7d", "A includes(", "A \x7b B \x7b C<d", "A",
    "A \x7b"]

theorem exists_message_iff {α : Type} {p : Parser α} {progress : Bool}
    {missed halted : List Expected} {messages : List String} (sources : List String)
    (h : Reports progress missed halted p) (hmessages : ∀ x ∈ missed ++ halted, x.message ∈ messages)
    (hsources : sources.map (fun source => (p.error? source).map (·.expected.message)) =
      messages.map some) (m : String) :
    (∃ source e, p.parse source = .error e ∧ e.expected.message = m) ↔ m ∈ messages := by
  constructor
  · rintro ⟨source, e, he, rfl⟩
    obtain ⟨why, -, -, hexpected, rfl⟩ := h.of_error he
    exact hmessages _ hexpected
  · intro hm
    have hmem : some m ∈ messages.map some := List.mem_map_of_mem hm
    rw [← hsources] at hmem
    obtain ⟨source, -, herror⟩ := List.mem_map.mp hmem
    obtain ⟨e, he, hexpected⟩ := Option.map_eq_some_iff.mp herror
    exact ⟨source, e, error?_eq_some.mp he, hexpected⟩

/-- Nothing is ever reported but these expectations, and each of them is, for some source: what a
repetition or an option can do without is not among them. -/
theorem exists_message_iff_mem :
    (∀ m, (∃ source e, algebraicType.parse source = .error e ∧ e.expected.message = m) ↔
      m ∈ algebraicTypeMessages) ∧
    (∀ m, (∃ source e, valueObject.parse source = .error e ∧ e.expected.message = m) ↔
      m ∈ valueObjectMessages) ∧
    (∀ m, (∃ source e, TypeExpr.parse source = .error e ∧ e.expected.message = m) ↔
      m ∈ typeMessages) :=
  ⟨exists_message_iff brokenAlgebraicTypes reports_algebraicType (by decide)
      (by decide +kernel),
    exists_message_iff brokenValueObjects reports_valueObject (by decide)
      (by decide +kernel),
    exists_message_iff brokenTypes reports_wholeTypeExpr (by decide) (by decide +kernel)⟩

end ValueTypes.Source
