import Mathlib.Data.List.DropRight
import ValueTypes.Proofs.Dict
import ValueTypes.Proofs.Source.Layout
import ValueTypes.Proofs.Source.Words

/-! Comments and directives: what can be read as them, and that they are read back from their
lines. -/

namespace ValueTypes.Source

open ValueTypes.Parser

variable {s r : List Char}

/-! ### Comments -/

def IsComment (text : String) : Prop :=
  '\n' ∉ text.toList ∧ Text.trim text.toList = text.toList

theorem trim_cons {c : Char} (hc : Text.isBlank c) (s : List Char) :
    Text.trim (c :: s) = Text.trim s := by
  simp [Text.trim, Text.trimStart, hc]

theorem trim_trim (s : List Char) : Text.trim (Text.trim s) = Text.trim s := by
  have hstops : Stops Text.isBlank (Text.trim s) := by
    intro c hc
    obtain ⟨t, ht⟩ := List.rdropWhile_prefix Text.isBlank (Text.trimStart s)
    refine stops_dropWhile Text.isBlank s c ?_
    obtain ⟨t', ht'⟩ := List.head?_eq_some_iff.mp hc
    have hsplit : Text.trimStart s = c :: (t' ++ t) := by
      rw [← ht, ← List.cons_append, ← ht']
      rfl
    rw [← Text.trimStart, hsplit]
    simp
  have hstart : Text.trimStart (Text.trim s) = Text.trim s :=
    dropWhile_within_append (within_nil _) hstops
  rw [Text.trim, hstart]
  exact List.rdropWhile_idempotent Text.isBlank (Text.trimStart s)

theorem mem_of_mem_trim {c : Char} (h : c ∈ Text.trim s) : c ∈ s :=
  (List.dropWhile_sublist _).subset (( List.rdropWhile_prefix _ _).subset h)

theorem comment_eq_done {text : String} : comment s = .done text r ↔
    ∃ line, s = '#' :: (line ++ r) ∧ '\n' ∉ line ∧ Stops (· ≠ '\n') r ∧
      text = String.ofList (Text.trim line) := by
  have hwithin : ∀ line : List Char, Within (· ≠ '\n') line ↔ '\n' ∉ line := by
    intro line
    simp [Within, List.forall_mem_ne']
  simp only [comment, bind_eq_done, word_eq_done, run_eq_done, pure_eq_done, hwithin]
  constructor
  · rintro ⟨_, _, rfl, line, _, ⟨rfl, hline, hr⟩, rfl, rfl⟩
    exact ⟨line, rfl, hline, hr, rfl⟩
  · rintro ⟨line, rfl, hline, hr, rfl⟩
    exact ⟨(), line ++ r, rfl, line, r, ⟨rfl, hline, hr⟩, rfl, rfl⟩

theorem isComment_of_comment {text : String} (h : comment s = .done text r) : IsComment text := by
  obtain ⟨line, -, hline, -, rfl⟩ := comment_eq_done.mp h
  refine ⟨fun hmem => hline (mem_of_mem_trim ?_), by simp [trim_trim]⟩
  rwa [String.toList_ofList] at hmem

theorem comment_line {line : List Char} (h : '\n' ∉ line) (r : List Char) :
    comment ('#' :: (line ++ '\n' :: r)) = .done (String.ofList (Text.trim line)) ('\n' :: r) :=
  comment_eq_done.mpr ⟨line, rfl, h, by simp, rfl⟩

theorem comment_append {text : String} (h : IsComment text) (r : List Char) :
    comment ('#' :: ' ' :: (text.toList ++ '\n' :: r)) = .done text ('\n' :: r) := by
  have hline : '\n' ∉ ' ' :: text.toList := by simp [h.1]
  have hread := comment_line hline r
  rwa [trim_cons rfl, h.2, String.ofList_toList] at hread

/-! ### Directives -/

def IsValue (value : String) : Prop :=
  ('"' ∉ value.toList ∧ '\n' ∉ value.toList) ∨
    (value ≠ "" ∧ value.toList.head? ≠ some '"' ∧ ∀ c ∈ value.toList, Text.isBlank c = false)

theorem isValue_of_directiveValue {value : String} (h : directiveValue s = .done value r) :
    IsValue value := by
  simp only [directiveValue, expecting_eq_done, orElse_eq_done, bind_eq_done, word_eq_done,
    commit_eq_done, ensuring_eq_done, run_eq_done, pure_eq_done] at h
  obtain ⟨_, _, rfl, text, _, ⟨rfl, htext, -⟩, _, _, rfl, rfl, rfl⟩ |
    ⟨hmiss, text, _, ⟨⟨rfl, htext, -⟩, hne⟩, rfl, rfl⟩ := h
  · refine .inl ⟨fun hmem => ?_, fun hmem => ?_⟩ <;> rw [String.toList_ofList] at hmem <;>
      simpa using htext _ hmem
  · obtain hword | ⟨_, _, -, hcommit⟩ := misses_bind.mp hmiss
    · refine .inr ⟨by simpa [← String.toList_eq_nil_iff] using hne, fun hhead => ?_,
        by simpa [Within] using htext⟩
      obtain ⟨t, ht⟩ := List.head?_eq_some_iff.mp hhead
      rw [String.toList_ofList] at ht
      exact misses_word.mp hword ⟨t ++ r, by simp [ht]⟩
    · exact absurd hcommit (not_misses_commit _)

abbrev ValueEnds (r : List Char) : Prop := Stops (! Text.isBlank ·) r

theorem directiveValue_bare {value : String} (hne : value ≠ "")
    (hhead : value.toList.head? ≠ some '"') (hblank : ∀ c ∈ value.toList, Text.isBlank c = false)
    (hr : ValueEnds r) : directiveValue (value.toList ++ r) = .done value r := by
  have hmiss : Misses (word "\"") (value.toList ++ r) := by
    rw [misses_word]
    rintro ⟨t, ht⟩
    cases hvalue : value.toList with
    | nil => exact hne (String.toList_eq_nil_iff.mp hvalue)
    | cons c cs =>
      obtain ⟨rfl, -⟩ : '"' = c ∧ t = cs ++ r := by simpa [hvalue] using ht
      exact hhead (by simp [hvalue])
  have hrun : run (! Text.isBlank ·) (value.toList ++ r) = .done value.toList r :=
    run_append (fun c hc => by simp [hblank c hc]) hr
  have hnonempty : (! value.toList.isEmpty) = true := by simpa using hne
  rw [directiveValue, expecting_eq_done]
  refine orElse_of_misses (hmiss.bind _) ?_
  rw [bind_of_done (ensuring_eq_done.mpr ⟨hrun, hnonempty⟩), pure_apply, String.ofList_toList]

theorem directiveValue_quoted {value : String} (hquote : '"' ∉ value.toList)
    (hline : '\n' ∉ value.toList) (r : List Char) :
    directiveValue ('"' :: (value.toList ++ '"' :: r)) = .done value r := by
  have hwithin : Within (fun c => c ≠ '"' && c ≠ '\n') value.toList := by
    intro c hc
    simp only [Bool.and_eq_true, decide_eq_true_eq]
    exact ⟨fun h => hquote (h ▸ hc), fun h => hline (h ▸ hc)⟩
  have hrun := run_append (r := '"' :: r) hwithin (by simp)
  rw [directiveValue, expecting_eq_done]
  refine orElse_of_done ?_
  rw [bind_of_done (word_singleton rfl _), commit_eq_done, bind_of_done hrun,
    bind_of_done (word_singleton rfl r), pure_apply, String.ofList_toList]

theorem directiveValue_append {value : String} (h : IsValue value) (hr : ValueEnds r) :
    directiveValue ((if '"' ∈ value.toList then value else "\"" ++ value ++ "\"").toList ++ r) =
      .done value r := by
  split
  · rename_i hquote
    obtain ⟨hno, -⟩ | ⟨hne, hhead, hblank⟩ := h
    · exact absurd hquote hno
    · exact directiveValue_bare hne hhead hblank hr
  · rename_i hquote
    have hline : '\n' ∉ value.toList := by
      obtain ⟨-, hline⟩ | ⟨-, -, hblank⟩ := h
      · exact hline
      -- A line feed is a blank, so a bare value holds none either.
      · exact fun hmem => absurd (hblank _ hmem) (by decide)
    simpa using directiveValue_quoted hquote hline r

def Properties.Readable (properties : Properties) : Prop :=
  ∀ e ∈ properties.entries, IsIdentifier e.1 ∧ IsValue e.2

def Directives.Readable (directives : Directives) : Prop :=
  ∀ e ∈ directives.entries, IsIdentifier e.1 ∧ e.2 ≠ [] ∧ ∀ p ∈ e.2, Properties.Readable p

theorem directiveProperty_eq_done {property : String × String} :
    directiveProperty s = .done property r ↔
      ∃ t, identifier s = .done property.1 ('=' :: t) ∧ directiveValue t = .done property.2 r := by
  simp only [directiveProperty, bind_eq_done, word_eq_done, commit_eq_done, pure_eq_done]
  constructor
  · rintro ⟨key, _, hkey, _, t, rfl, value, _, hvalue, rfl, rfl⟩
    exact ⟨t, hkey, hvalue⟩
  · rintro ⟨t, hkey, hvalue⟩
    exact ⟨property.1, _, hkey, (), t, rfl, property.2, r, hvalue, rfl, rfl⟩

theorem directive_eq_done {name : String} {properties : Properties} :
    directive s = .done (name, properties) r ↔
      ∃ t entries t', s = '%' :: t ∧ (∃ t₁, identifier t = .done name t₁ ∧
        Rounds (do skipSome isInlineBlank; directiveProperty) entries t₁ t') ∧
        skip isInlineBlank t' = .done () r ∧ properties = .ofList entries := by
  simp only [directive, bind_eq_done, word_eq_done, commit_eq_done, many_eq_done, pure_eq_done]
  constructor
  · rintro ⟨_, t, rfl, name', t₁, hname, entries, t', hrounds, _, _, hskip, heq, rfl⟩
    cases heq
    exact ⟨t, entries, t', rfl, ⟨t₁, hname, hrounds⟩, hskip, rfl⟩
  · rintro ⟨t, entries, t', rfl, ⟨t₁, hname, hrounds⟩, hskip, rfl⟩
    exact ⟨(), t, rfl, name, t₁, hname, entries, t', hrounds, (), r, hskip, rfl, rfl⟩

theorem readable_of_directive {name : String} {properties : Properties}
    (h : directive s = .done (name, properties) r) :
    IsIdentifier name ∧ Properties.Readable properties := by
  obtain ⟨t, entries, t', rfl, ⟨t₁, hname, hrounds⟩, -, rfl⟩ := directive_eq_done.mp h
  have hentries : ∀ e ∈ entries, IsIdentifier e.1 ∧ IsValue e.2 := by
    refine hrounds.forall_mem fun e s t hread => ?_
    obtain ⟨_, _, -, hproperty⟩ := bind_eq_done.mp hread
    obtain ⟨_, hkey, hvalue⟩ := directiveProperty_eq_done.mp hproperty
    exact ⟨(identifier_eq_done.mp hkey).1, isValue_of_directiveValue hvalue⟩
  exact ⟨(identifier_eq_done.mp hname).1, fun e he => hentries e (Dict.mem_of_mem_ofList he)⟩

theorem toList_writeProperty (property : String × String) :
    (writeProperty property).toList = ' ' :: (property.1.toList ++ '=' ::
      (if '"' ∈ property.2.toList then property.2 else "\"" ++ property.2 ++ "\"").toList) := by
  simp [writeProperty]

theorem directiveProperty_append {property : String × String} (hkey : IsIdentifier property.1)
    (hvalue : IsValue property.2) (hr : ValueEnds r) :
    (do skipSome isInlineBlank; directiveProperty) ((writeProperty property).toList ++ r) =
      .done property r := by
  have hblank := skipSome_append within_space (by simp)
    (stops_isInlineBlank (hkey.stops_layout ('=' :: ((if '"' ∈ property.2.toList then property.2
      else "\"" ++ property.2 ++ "\"").toList ++ r))))
  rw [List.singleton_append] at hblank
  rw [toList_writeProperty, List.cons_append, List.append_assoc, List.cons_append,
    bind_of_done hblank, directiveProperty_eq_done]
  exact ⟨_, identifier_append hkey (by simp [isWordChar]), directiveValue_append hvalue hr⟩

theorem toList_writeDirective (name : String) (properties : Properties) (r : List Char) :
    (writeDirective name properties).toList ++ r = '%' :: (name.toList ++
      (properties.toList.flatMap (fun p => (writeProperty p).toList) ++ '\n' :: r)) := by
  simp [writeDirective, String.toList_join, List.flatMap_map]

theorem directive_entries {name : String} (hname : IsIdentifier name)
    (entries : List (String × String)) (hentries : ∀ e ∈ entries, IsIdentifier e.1 ∧ IsValue e.2)
    (r : List Char) :
    directive ('%' :: (name.toList ++
      (entries.flatMap (fun p => (writeProperty p).toList) ++ '\n' :: r))) =
        .done (name, .ofList entries) ('\n' :: r) := by
  have hend : Stops isInlineBlank ('\n' :: r) := by simp [isInlineBlank]
  have hstops : Stops isWordChar (entries.flatMap (fun p => (writeProperty p).toList) ++ '\n' :: r) := by
    cases entries <;> simp [toList_writeProperty, isWordChar]
  have hrounds : Rounds (do skipSome isInlineBlank; directiveProperty) entries
      (entries.flatMap (fun p => (writeProperty p).toList) ++ '\n' :: r) ('\n' :: r) := by
    refine .of_texts _ ValueEnds ?_ ?_ ?_ (by simp [Text.isBlank]) ((misses_skipSome.mpr hend).bind _)
    · exact fun e he t ht => directiveProperty_append (hentries e he).1 (hentries e he).2 ht
    · exact fun e he t => by simp [toList_writeProperty, Text.isBlank]
    · exact fun e he => by simp [toList_writeProperty]
  rw [directive_eq_done]
  exact ⟨_, entries, _, rfl, ⟨_, identifier_append hname hstops, hrounds⟩, skip_of_stops hend, rfl⟩

theorem directive_append {name : String} {properties : Properties} (hname : IsIdentifier name)
    (hproperties : Properties.Readable properties) (r : List Char) :
    directive ((writeDirective name properties).toList ++ r) =
      .done (name, properties) ('\n' :: r) := by
  have hread := directive_entries hname properties.toList hproperties r
  rwa [← toList_writeDirective, Dict.ofList_toList] at hread

/-! ### Lines -/

def Preamble.Line.Readable : Preamble.Line → Prop
  | comment text => IsComment text
  | directive name properties => IsIdentifier name ∧ Properties.Readable properties

def Preamble.Line.write : Preamble.Line → String
  | comment text => writeComment text
  | directive name properties => writeDirective name properties

theorem preambleLine_eq_done {line : Preamble.Line} :
    preambleLine s = .done line r ↔ ∃ t, skip isLayout t = .done () r ∧
      ((∃ text, line = .comment text ∧ comment s = .done text t) ∨
        (∃ name properties, line = .directive name properties ∧ Misses comment s ∧
          directive s = .done (name, properties) t)) := by
  simp only [preambleLine, bind_eq_done, orElse_eq_done, misses_bind, pure_eq_done]
  constructor
  · rintro ⟨_, t, ⟨text, _, hcomment, rfl, rfl⟩ | ⟨hmiss | ⟨_, _, _, h⟩, ⟨name, properties⟩, _,
      hdirective, rfl, rfl⟩, _, _, hskip, rfl, rfl⟩
    · exact ⟨t, hskip, .inl ⟨text, rfl, hcomment⟩⟩
    · exact ⟨t, hskip, .inr ⟨name, properties, rfl, hmiss, hdirective⟩⟩
    · simp [Misses] at h
  · rintro ⟨t, hskip, ⟨text, rfl, hcomment⟩ | ⟨name, properties, rfl, hmiss, hdirective⟩⟩
    · exact ⟨_, t, .inl ⟨text, t, hcomment, rfl, rfl⟩, (), r, hskip, rfl, rfl⟩
    · exact ⟨_, t, .inr ⟨.inl hmiss, (name, properties), t, hdirective, rfl, rfl⟩, (), r, hskip, rfl, rfl⟩

theorem preambleLine_append {line : Preamble.Line} (h : line.Readable) (hr : Stops isLayout r) :
    preambleLine (line.write.toList ++ r) = .done line r := by
  rw [preambleLine_eq_done]
  refine ⟨'\n' :: r, skip_cons rfl hr, ?_⟩
  cases line with
  | comment text =>
    refine .inl ⟨text, rfl, ?_⟩
    have htext : (writeComment text).toList ++ r = '#' :: ' ' :: (text.toList ++ '\n' :: r) := by
      simp [writeComment]
    rw [Preamble.Line.write, htext]
    exact comment_append h r
  | directive name properties =>
    refine .inr ⟨name, properties, rfl, ?_, directive_append h.1 h.2 r⟩
    rw [Preamble.Line.write, toList_writeDirective]
    exact (misses_word.mpr (by simp)).bind _

theorem Preamble.Line.stops_write {cls : Char → Bool} (line : Preamble.Line)
    (hcomment : cls '#' = false) (hdirective : cls '%' = false) (t : List Char) :
    Stops cls (line.write.toList ++ t) := by
  cases line with
  | comment text => simpa [Preamble.Line.write, writeComment] using hcomment
  | directive name properties => simpa [Preamble.Line.write, writeDirective] using hdirective

theorem readable_of_preambleLine {line : Preamble.Line} (h : preambleLine s = .done line r) :
    line.Readable := by
  obtain ⟨t, -, ⟨text, rfl, hcomment⟩ | ⟨name, properties, rfl, -, hdirective⟩⟩ :=
    preambleLine_eq_done.mp h
  · exact isComment_of_comment hcomment
  · exact readable_of_directive hdirective

def isSeparator (c : Char) : Bool := isLayout c || c == ','

theorem stops_isLayout (h : Stops isSeparator s) : Stops isLayout s :=
  h.mono fun c hc => by simp [isSeparator, hc]

structure Content (s : List Char) : Prop where
  separator : Stops isSeparator s
  comment : s.head? ≠ some '#'
  directive : s.head? ≠ some '%'

theorem Content.layout (h : Content s) : Stops isLayout s := stops_isLayout h.separator

theorem content_of_isWordChar {c : Char} (hc : isWordChar c) : Content (c :: s) := by
  have hne : ∀ d, isWordChar d = false → c ≠ d := by
    rintro d hd rfl
    simp [hc] at hd
  refine ⟨?_, by simpa using hne '#' rfl, by simpa using hne '%' rfl⟩
  simpa [isSeparator, isLayout_eq_false_of_isWordChar hc] using hne ',' rfl

theorem IsIdentifier.content {w : String} (h : IsIdentifier w) (r : List Char) :
    Content (w.toList ++ r) := by
  obtain ⟨c, cs, hw, hc, -⟩ := h.exists_cons
  rw [hw]
  exact content_of_isWordChar (isWordChar_of_isWordStart hc)

theorem misses_comment_of_head? (h : s.head? ≠ some '#') : Misses comment s := by
  refine (misses_word.mpr ?_).bind _
  rintro ⟨t, rfl⟩
  exact h rfl

theorem misses_preambleLine_of_head? (hcomment : s.head? ≠ some '#')
    (hdirective : s.head? ≠ some '%') : Misses preambleLine s := by
  have hmiss : Misses directive s := by
    refine (misses_word.mpr ?_).bind _
    rintro ⟨t, rfl⟩
    exact hdirective rfl
  exact (misses_orElse.mpr ⟨(misses_comment_of_head? hcomment).bind _, hmiss.bind _⟩).bind _

theorem misses_comment (h : Content s) : Misses comment s := misses_comment_of_head? h.comment

theorem misses_preambleLine (h : Content s) : Misses preambleLine s :=
  misses_preambleLine_of_head? h.comment h.directive

def preambleLines (comments : List String) (directives : Directives) : List Preamble.Line :=
  comments.map .comment ++ directives.toList.flatMap fun e => e.2.map (.directive e.1)

theorem toList_writePreamble (comments : List String) (directives : Directives) :
    (writePreamble comments directives).toList =
      (preambleLines comments directives).flatMap (·.write.toList) := by
  simp only [writePreamble, preambleLines, String.toList_append, String.toList_join,
    List.flatMap_append, List.flatMap_map, List.flatMap_assoc, Preamble.Line.write]

theorem stops_writePreamble {cls : Char → Bool} {comments : List String} {directives : Directives}
    (hcomment : cls '#' = false) (hdirective : cls '%' = false) (hr : Stops cls r) :
    Stops cls ((writePreamble comments directives).toList ++ r) := by
  rw [toList_writePreamble]
  cases preambleLines comments directives with
  | nil => exact hr
  | cons line lines =>
    rw [List.flatMap_cons, List.append_assoc]
    exact line.stops_write hcomment hdirective _

/-! ### Preambles -/

structure Preamble.Readable (p : Preamble) : Prop where
  comments : ∀ text ∈ p.comments, IsComment text
  directives : Directives.Readable p.directives

theorem foldl_add_comments (comments : List String) (p : Preamble) :
    (comments.map Preamble.Line.comment).foldl Preamble.add p =
      ⟨p.comments ++ comments, p.directives⟩ := by
  induction comments generalizing p with
  | nil => simp
  | cons text comments ih => simp [ih, Preamble.add]

theorem foldl_add_directive (name : String) (occurrences : List Properties) (p : Preamble) :
    (occurrences.map (Preamble.Line.directive name)).foldl Preamble.add p =
      ⟨p.comments, occurrences.foldl (·.add name ·) p.directives⟩ := by
  induction occurrences generalizing p with
  | nil => rfl
  | cons properties occurrences ih => simp [ih, Preamble.add]

theorem foldl_add_directives (entries : List (String × List Properties)) (p : Preamble)
    (hne : ∀ e ∈ entries, e.2 ≠ [])
    (hsorted : (p.directives.entries ++ entries).Pairwise fun a b => a.1 < b.1) :
    ∃ ds : Directives, ds.entries = p.directives.entries ++ entries ∧
      (entries.flatMap fun e => e.2.map (Preamble.Line.directive e.1)).foldl Preamble.add p =
        ⟨p.comments, ds⟩ := by
  induction entries generalizing p with
  | nil => exact ⟨p.directives, by simp, rfl⟩
  | cons e es ih =>
    obtain ⟨name, occurrences⟩ := e
    obtain ⟨hoccurrences, hes⟩ := List.forall_mem_cons.mp hne
    obtain ⟨first, others, rfl⟩ := List.exists_cons_of_ne_nil hoccurrences
    have hlt : ∀ a ∈ p.directives.entries, a.1 < name := fun a ha =>
      (List.pairwise_append.mp hsorted).2.2 a ha _ List.mem_cons_self
    have hfirst := Directives.add_entries_of_lt first hlt
    have hentries := Directives.foldl_add_entries others hlt hfirst
    rw [List.singleton_append] at hentries
    obtain ⟨ds, hds, hfold⟩ := ih
      ⟨p.comments, others.foldl (·.add name ·) (p.directives.add name first)⟩ hes
      (by simpa [hentries] using hsorted)
    refine ⟨ds, by simpa [hentries] using hds, ?_⟩
    rw [List.flatMap_cons, List.foldl_append, foldl_add_directive, List.foldl_cons]
    exact hfold

theorem ofLines_preambleLines {comments : List String} {directives : Directives}
    (h : Directives.Readable directives) :
    Preamble.ofLines (preambleLines comments directives) = ⟨comments, directives⟩ := by
  obtain ⟨ds, hds, hfold⟩ := foldl_add_directives directives.entries ⟨comments, ∅⟩
    (fun e he => (h e he).2.1) directives.sorted
  have heq : ds = directives := Dict.ext_entries hds
  rw [Preamble.ofLines, preambleLines, List.foldl_append, foldl_add_comments]
  exact heq ▸ hfold

theorem preamble_of_content (hr : Content r) : preamble r = .done .empty r := by
  rw [preamble, bind_of_done (many_eq_done.mpr (.stop (misses_preambleLine hr)))]
  rfl

theorem preamble_append {comments : List String} {directives : Directives}
    (h : Preamble.Readable ⟨comments, directives⟩) (hr : Content r) :
    preamble ((writePreamble comments directives).toList ++ r) = .done ⟨comments, directives⟩ r := by
  have hlines : ∀ line ∈ preambleLines comments directives, line.Readable := by
    intro line hline
    simp only [preambleLines, List.mem_append, List.mem_map, List.mem_flatMap] at hline
    obtain ⟨text, htext, rfl⟩ | ⟨e, he, properties, hproperties, rfl⟩ := hline
    · exact h.comments text htext
    · exact ⟨(h.directives e he).1, (h.directives e he).2.2 properties hproperties⟩
  have hrounds : Rounds preambleLine (preambleLines comments directives)
      ((preambleLines comments directives).flatMap (·.write.toList) ++ r) r := by
    refine .of_texts _ (Stops isLayout) ?_ ?_ ?_ hr.layout (misses_preambleLine hr)
    · exact fun line hline t ht => preambleLine_append (hlines line hline) ht
    · exact fun line _ t => line.stops_write rfl rfl t
    · intro line _
      cases line <;> simp [Preamble.Line.write, writeComment, writeDirective]
  rw [toList_writePreamble, preamble, bind_of_done (many_eq_done.mpr hrounds), pure_apply,
    ofLines_preambleLines h.directives]

theorem Directives.Readable.add {directives : Directives} (h : Directives.Readable directives)
    {name : String} {properties : Properties} (hname : IsIdentifier name)
    (hproperties : Properties.Readable properties) :
    Directives.Readable (directives.add name properties) := by
  intro e he
  obtain rfl | he := Dict.mem_insertEntry he
  · refine ⟨hname, by simp, fun p hp => ?_⟩
    obtain hp | hp := List.mem_append.mp hp
    · cases hget : directives.get? name with
      | none => simp [Directives.occurrences, hget] at hp
      | some earlier =>
        rw [Directives.occurrences, hget] at hp
        exact (h _ (Dict.mem_of_get? hget)).2.2 p hp
    · exact List.mem_singleton.mp hp ▸ hproperties
  · exact h e he

theorem Preamble.Readable.add {p : Preamble} (h : p.Readable) {line : Preamble.Line}
    (hline : line.Readable) : (p.add line).Readable := by
  cases line with
  | comment text =>
    refine ⟨fun t ht => ?_, h.directives⟩
    obtain ht | ht := List.mem_append.mp ht
    · exact h.comments t ht
    · exact List.mem_singleton.mp ht ▸ hline
  | directive name properties => exact ⟨h.comments, h.directives.add hline.1 hline.2⟩

theorem readable_ofLines {lines : List Preamble.Line} (h : ∀ line ∈ lines, line.Readable) :
    (Preamble.ofLines lines).Readable := by
  have hfold : ∀ (lines : List Preamble.Line) (p : Preamble), (∀ line ∈ lines, line.Readable) →
      p.Readable → (lines.foldl Preamble.add p).Readable := by
    intro lines
    induction lines with
    | nil => exact fun p _ hp => hp
    | cons line lines ih =>
      intro p hlines hp
      obtain ⟨hline, hlines⟩ := List.forall_mem_cons.mp hlines
      exact ih _ hlines (hp.add hline)
  exact hfold lines .empty h ⟨by simp [Preamble.empty], fun e he => (List.not_mem_nil he).elim⟩

theorem preamble_eq_done {p : Preamble} :
    preamble s = .done p r ↔ ∃ lines, Rounds preambleLine lines s r ∧ p = .ofLines lines := by
  simp only [preamble, bind_eq_done, many_eq_done, pure_eq_done]
  grind

theorem readable_of_preamble {p : Preamble} (h : preamble s = .done p r) : p.Readable := by
  obtain ⟨lines, hrounds, rfl⟩ := preamble_eq_done.mp h
  exact readable_ofLines (hrounds.forall_mem fun line s t => readable_of_preambleLine)

theorem stops_layout_of_preamble {p : Preamble} (h : preamble s = .done p r)
    (hs : Stops isLayout s) : Stops isLayout r := by
  obtain ⟨lines, hrounds, rfl⟩ := preamble_eq_done.mp h
  refine hrounds.invariant (fun line s t hread _ => ?_) hs
  obtain ⟨u, hskip, -⟩ := preambleLine_eq_done.mp hread
  obtain ⟨v, -, -, ht⟩ := skip_eq_done.mp hskip
  exact ht

end ValueTypes.Source
