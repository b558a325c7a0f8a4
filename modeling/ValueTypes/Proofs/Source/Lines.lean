import Mathlib.Data.List.Forall2
import ValueTypes.Proofs.Source.Preamble

/-! The lines of a preamble are collected without loss, in whatever order comments and directives
follow each other. -/

namespace ValueTypes.Source

open ValueTypes.Parser

/-- A comment, or a directive with its properties in quotes. A key may be given more than once. -/
inductive LineText where
  | comment (text : List Char) (htext : '\n' ∉ text)
  | directive (name : String) (hname : IsIdentifier name) (properties : List (String × String))
      (hproperties : ∀ e ∈ properties,
        IsIdentifier e.1 ∧ '"' ∉ e.2.toList ∧ '\n' ∉ e.2.toList)

namespace LineText

def propertyText (e : String × String) : List Char :=
  ' ' :: (e.1.toList ++ '=' :: '"' :: (e.2.toList ++ ['"']))

def text : LineText → List Char
  | comment text _ => '#' :: text
  | directive name _ properties _ => '%' :: (name.toList ++ properties.flatMap propertyText)

def comment? : LineText → Option String
  | comment text _ => some (String.ofList (Text.trim text))
  | directive _ _ _ _ => none

def name? : LineText → Option String
  | comment _ _ => none
  | directive name _ _ _ => some name

def propertiesOf? (name : String) : LineText → Option (List (String × String))
  | comment _ _ => none
  | directive name' _ properties _ => if name' = name then some properties else none

def toLine : LineText → Preamble.Line
  | comment text _ => .comment (String.ofList (Text.trim text))
  | directive name _ properties _ => .directive name (.ofList properties)

end LineText

structure EndedLine where
  line : LineText
  layout : List Char
  hlayout : Within isLayout layout

def EndedLine.text (l : EndedLine) : List Char := l.line.text ++ '\n' :: l.layout

def Properties.LastOf (written : List (String × String)) (properties : Properties) : Prop :=
  ∀ key, properties.get? key =
    (written.filterMap fun e => if e.1 = key then some e.2 else none).getLast?

/-- The preamble holds all the comments and all the directives of the lines, each in order. -/
structure Preamble.Collects (p : Preamble) (lines : List LineText) : Prop where
  comments : p.comments = lines.filterMap LineText.comment?
  names : ∀ name, p.directives.contains name = true ↔ some name ∈ lines.map LineText.name?
  occurrences : ∀ name, List.Forall₂ Properties.LastOf
    (lines.filterMap (LineText.propertiesOf? name)) (p.directives.occurrences name)

/-! ### Collecting -/

theorem ofLines_concat (lines : List Preamble.Line) (line : Preamble.Line) :
    Preamble.ofLines (lines ++ [line]) = (Preamble.ofLines lines).add line := by
  rw [Preamble.ofLines, List.foldl_append]
  rfl

theorem lastOf_ofList (written : List (String × String)) :
    Properties.LastOf written (Dict.ofList written) :=
  fun key => Dict.get?_ofList written key

theorem Preamble.Collects.add {p : Preamble} {lines : List LineText} (h : p.Collects lines)
    (line : LineText) : (p.add line.toLine).Collects (lines ++ [line]) := by
  obtain ⟨hcomments, hnames, hoccurrences⟩ := h
  cases line with
  | comment text htext =>
    refine ⟨?_, ?_, ?_⟩
    · rw [List.filterMap_append, ← hcomments]
      rfl
    · intro name
      rw [List.map_append, List.mem_append, ← hnames]
      simp [LineText.name?, LineText.toLine, Preamble.add]
    · intro name
      have hsame : (p.add (LineText.comment text htext).toLine).directives = p.directives := rfl
      rw [hsame, List.filterMap_append]
      simpa [List.filterMap_cons, LineText.propertiesOf?] using hoccurrences name
  | directive name hname properties hproperties =>
    refine ⟨?_, ?_, ?_⟩
    · rw [List.filterMap_append, ← hcomments]
      simp [LineText.comment?, LineText.toLine, Preamble.add, List.filterMap_cons]
    · intro name'
      have hcontains := Directives.contains_add p.directives name (.ofList properties) name'
      rw [LineText.toLine, Preamble.add, hcontains, hnames, List.map_append, List.mem_append]
      simp [LineText.name?, or_comm]
    · intro name'
      have hadd := Directives.occurrences_add p.directives name (.ofList properties) name'
      rw [LineText.toLine, Preamble.add, hadd, List.filterMap_append]
      apply List.rel_append (hoccurrences name')
      by_cases hsame : name = name'
      · simpa [LineText.propertiesOf?, hsame] using lastOf_ofList properties
      · simp [LineText.propertiesOf?, hsame, Ne.symm hsame]

theorem collects_ofLines (lines : List LineText) :
    (Preamble.ofLines (lines.map LineText.toLine)).Collects lines := by
  induction lines using List.reverseRecOn with
  | nil =>
    refine ⟨rfl, ?_, ?_⟩
    · intro name
      have hnone : (∅ : Directives).get? name = none := rfl
      simp [Preamble.ofLines, Preamble.empty, Dict.contains, hnone]
    · intro name
      exact .nil
  | append_singleton lines line ih =>
    rw [List.map_append, List.map_singleton, ofLines_concat]
    exact ih.add line

theorem Preamble.add_comm (p : Preamble) {a b : LineText} (hne : a.name? ≠ b.name?) :
    (p.add a.toLine).add b.toLine = (p.add b.toLine).add a.toLine := by
  cases a with
  | comment text htext =>
    cases b with
    | comment text' htext' => exact absurd rfl hne
    | directive name hname properties hproperties => rfl
  | directive name hname properties hproperties =>
    cases b with
    | comment text htext => rfl
    | directive name' hname' properties' hproperties' =>
      have hnames : name ≠ name' := fun h => hne (congrArg some h)
      have hswap := Directives.add_comm p.directives hnames (.ofList properties) (.ofList properties')
      exact congrArg (Preamble.mk p.comments) hswap

theorem ofLines_swap {a b : LineText} (hne : a.name? ≠ b.name?) (before after : List LineText) :
    Preamble.ofLines ((before ++ a :: b :: after).map LineText.toLine) =
      Preamble.ofLines ((before ++ b :: a :: after).map LineText.toLine) := by
  simp only [Preamble.ofLines, List.map_append, List.map_cons, List.foldl_append, List.foldl_cons]
  rw [Preamble.add_comm _ hne]

/-! ### Reading -/

theorem directive_text {name : String} {properties : List (String × String)}
    (hname : IsIdentifier name) (hproperties : ∀ e ∈ properties,
      IsIdentifier e.1 ∧ '"' ∉ e.2.toList ∧ '\n' ∉ e.2.toList) (r : List Char) :
    directive ('%' :: (name.toList ++ (properties.flatMap LineText.propertyText ++ '\n' :: r))) =
      .done (name, .ofList properties) ('\n' :: r) := by
  have hwritten : properties.flatMap LineText.propertyText =
      properties.flatMap fun e => (writeProperty e).toList := by
    apply List.flatMap_congr
    intro e he
    have hquote := (hproperties e he).2.1
    simp [toList_writeProperty, LineText.propertyText, hquote]
  have hentries : ∀ e ∈ properties, IsIdentifier e.1 ∧ IsValue e.2 :=
    fun e he => ⟨(hproperties e he).1, .inl (hproperties e he).2⟩
  rw [hwritten]
  exact directive_entries hname properties hentries r

theorem EndedLine.stops_layout (l : EndedLine) (t : List Char) : Stops isLayout (l.text ++ t) := by
  obtain ⟨line, w, hw⟩ := l
  cases line with
  | comment text htext => simp [EndedLine.text, LineText.text, isLayout]
  | directive name hname properties hproperties => simp [EndedLine.text, LineText.text, isLayout]

theorem preambleLine_text (l : EndedLine) {r : List Char} (hr : Stops isLayout r) :
    preambleLine (l.text ++ r) = .done l.line.toLine r := by
  obtain ⟨line, w, hw⟩ := l
  have hlayout : Within isLayout ('\n' :: w) := within_cons.mpr ⟨rfl, hw⟩
  have hskip : skip isLayout ('\n' :: (w ++ r)) = .done () r := skip_append (s := '\n' :: w) hlayout hr
  rw [preambleLine_eq_done]
  refine ⟨'\n' :: (w ++ r), hskip, ?_⟩
  cases line with
  | comment text htext =>
    have hread := comment_line htext (w ++ r)
    exact .inl ⟨_, rfl, by simpa [EndedLine.text, LineText.text] using hread⟩
  | directive name hname properties hproperties =>
    have hread := directive_text hname hproperties (w ++ r)
    have hmiss : Misses comment ('%' :: (name.toList ++
        (properties.flatMap LineText.propertyText ++ '\n' :: (w ++ r)))) :=
      misses_comment_of_head? (by simp)
    refine .inr ⟨name, .ofList properties, rfl, ?_, ?_⟩
    · simpa [EndedLine.text, LineText.text] using hmiss
    · simpa [EndedLine.text, LineText.text] using hread

theorem preamble_flatMap_text (lines : List EndedLine) {r : List Char} (hr : Stops isLayout r)
    (hcomment : r.head? ≠ some '#') (hdirective : r.head? ≠ some '%') :
    preamble (lines.flatMap EndedLine.text ++ r) =
      .done (.ofLines ((lines.map (·.line)).map LineText.toLine)) r := by
  have hrounds : Rounds preambleLine (lines.map (·.line.toLine))
      (lines.flatMap EndedLine.text ++ r) r := by
    apply Rounds.of_values _ _ (Stops isLayout)
    · exact fun l _ t ht => preambleLine_text l ht
    · exact fun l _ t => l.stops_layout t
    · exact fun l _ => by simp [EndedLine.text]
    · exact hr
    · exact misses_preambleLine_of_head? hcomment hdirective
  rw [preamble, bind_of_done (many_eq_done.mpr hrounds), pure_apply, List.map_map]
  rfl

/-- Lines are read to their end and collected. Exchanging two neighbours that are neither two comments
nor two directives of one name changes nothing, whatever layout the lines then end with. -/
theorem exists_preamble_lines (lines : List EndedLine) {r : List Char} (hr : Stops isLayout r)
    (hcomment : r.head? ≠ some '#') (hdirective : r.head? ≠ some '%') :
    ∃ p, preamble (lines.flatMap EndedLine.text ++ r) = .done p r ∧
      p.Collects (lines.map (·.line)) ∧
      ∀ (lines' : List EndedLine) (before after : List LineText) (a b : LineText),
        lines.map (·.line) = before ++ a :: b :: after →
        lines'.map (·.line) = before ++ b :: a :: after → a.name? ≠ b.name? →
        preamble (lines'.flatMap EndedLine.text ++ r) = .done p r := by
  refine ⟨_, preamble_flatMap_text lines hr hcomment hdirective, collects_ofLines _, ?_⟩
  intro lines' before after a b hlines hlines' hne
  rw [preamble_flatMap_text lines' hr hcomment hdirective, hlines, hlines', ofLines_swap hne]

def importLines : List EndedLine :=
  [⟨.comment " first ".toList (by decide), [' ', ' '], by decide⟩,
    ⟨.directive "import" (by decide) [("file", "A.h"), ("file", "B h")] (by decide), [], by decide⟩,
    ⟨.comment "second".toList (by decide), [], by decide⟩,
    ⟨.directive "nullable" (by decide) [] (by decide), ['\n'], by decide⟩]

def importLines' : List EndedLine :=
  [⟨.comment " first ".toList (by decide), [], by decide⟩,
    ⟨.directive "import" (by decide) [("file", "A.h"), ("file", "B h")] (by decide), [], by decide⟩,
    ⟨.directive "nullable" (by decide) [] (by decide), ['\t'], by decide⟩,
    ⟨.comment "second".toList (by decide), [], by decide⟩]

theorem exists_preamble_importLines : ∃ p,
    importLines.flatMap EndedLine.text =
      "# first \n  %import file=\"A.h\" file=\"B h\"\n#second\n%nullable\n\n".toList ∧
    preamble (importLines.flatMap EndedLine.text ++ ['x']) = .done p ['x'] ∧
    p.comments = ["first", "second"] ∧
    (p.directives.occurrences "import").map (·.get? "file") = [some "B h"] ∧
    preamble (importLines'.flatMap EndedLine.text ++ ['x']) = .done p ['x'] := by
  have hr : Stops isLayout ['x'] := by simp [isLayout]
  obtain ⟨p, hread, hcollects, hswap⟩ :=
    exists_preamble_lines importLines hr (by decide) (by decide)
  have hcomments : (importLines.map (·.line)).filterMap LineText.comment? = ["first", "second"] := by
    decide +kernel
  have hoccurrences := hcollects.occurrences "import"
  have hwritten : (importLines.map (·.line)).filterMap (LineText.propertiesOf? "import") =
      [[("file", "A.h"), ("file", "B h")]] := by decide +kernel
  rw [hwritten] at hoccurrences
  obtain ⟨properties, _, hlast, hnil, heq⟩ := List.forall₂_cons_left_iff.mp hoccurrences
  obtain rfl := List.forall₂_nil_left_iff.mp hnil
  have hfile : properties.get? "file" = some "B h" := (hlast "file").trans (by decide)
  refine ⟨p, by decide +kernel, hread, hcollects.comments.trans hcomments, ?_, ?_⟩
  · rw [heq, List.map_singleton, hfile]
  · exact hswap importLines' ((importLines.map (·.line)).take 2) []
      (.comment "second".toList (by decide)) (.directive "nullable" (by decide) [] (by decide)) rfl rfl
      (by decide)

end ValueTypes.Source
