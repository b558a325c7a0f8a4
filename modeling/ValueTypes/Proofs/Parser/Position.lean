import ValueTypes.Proofs.Parser.Reports

/-! Lines and columns. A position is that of one place in a text and of no other, and a parser that
points at ends of its text reports such positions. -/

namespace ValueTypes

open ValueTypes.Parser

variable {text before after last : List Char} {pos : Position}

def IsLastLine (before last : List Char) : Prop :=
  '\n' ∉ last ∧ (before = last ∨ ∃ lines, before = lines ++ '\n' :: last)

/-- The position is the one between `before` and `after`, which make up the text. -/
structure Position.Cuts (pos : Position) (text before after : List Char) : Prop where
  parts : text = before ++ after
  line : pos.line = 1 + before.count '\n'
  column : ∃ last, IsLastLine before last ∧ pos.column = 1 + last.length

theorem within_of_newline_notMem (h : '\n' ∉ last) : Within (· ≠ '\n') last.reverse := by
  intro c hc
  have hne : c ≠ '\n' := fun heq => h (heq ▸ List.mem_reverse.mp hc)
  simpa using hne

theorem isLastLine_iff : IsLastLine before last ↔
    before.reverse.takeWhile (· ≠ '\n') = last.reverse := by
  constructor
  · rintro ⟨hlast, hbefore⟩
    have hwithin := within_of_newline_notMem hlast
    rcases hbefore with rfl | ⟨lines, rfl⟩
    · simpa using takeWhile_within_append hwithin (stops_nil _)
    · rw [List.reverse_append, List.reverse_cons, List.append_assoc]
      exact takeWhile_within_append hwithin (by simp)
  · intro h
    have hsplit := List.takeWhile_append_dropWhile (p := (· ≠ '\n')) (l := before.reverse)
    have hstops := stops_dropWhile (· ≠ '\n') before.reverse
    refine ⟨fun hmem => ?_, ?_⟩
    · have hwithin := within_takeWhile (· ≠ '\n') before.reverse
      rw [h] at hwithin
      simpa using hwithin '\n' (List.mem_reverse.mpr hmem)
    · rw [h] at hsplit
      -- Read backwards, the rest is empty or starts with the line end in front of `last`.
      cases hrest : before.reverse.dropWhile (· ≠ '\n') with
      | nil =>
        rw [hrest, List.append_nil] at hsplit
        exact .inl (List.reverse_inj.mp hsplit).symm
      | cons c cs =>
        rw [hrest] at hsplit hstops
        have hc : c = '\n' := by simpa using hstops
        refine .inr ⟨cs.reverse, ?_⟩
        rw [← List.reverse_reverse before, ← hsplit, hc]
        simp

theorem Position.cuts_after (before after : List Char) :
    (Position.after before).Cuts (before ++ after) before after where
  parts := rfl
  line := Nat.add_comm ..
  column := by
    refine ⟨(before.reverse.takeWhile (· ≠ '\n')).reverse, isLastLine_iff.mpr (by simp), ?_⟩
    rw [List.length_reverse]
    exact Nat.add_comm ..

theorem IsLastLine.append {more : List Char} (h : IsLastLine before last) (hmore : '\n' ∉ more) :
    IsLastLine (before ++ more) (last ++ more) := by
  obtain ⟨hlast, hbefore⟩ := h
  refine ⟨by simp [hlast, hmore], ?_⟩
  rcases hbefore with rfl | ⟨lines, rfl⟩
  · exact .inl rfl
  · exact .inr ⟨lines, by simp⟩

theorem IsLastLine.unique {last' : List Char} (h : IsLastLine before last)
    (h' : IsLastLine before last') : last = last' := by
  rw [isLastLine_iff] at h h'
  exact List.reverse_inj.mp (h.symm.trans h')

theorem Position.Cuts.eq_nil {more after' : List Char} (h : pos.Cuts text before after)
    (h' : pos.Cuts text (before ++ more) after') : more = [] := by
  have hcount : more.count '\n' = 0 := by
    have hline := h.line.symm.trans h'.line
    rw [List.count_append] at hline
    omega
  obtain ⟨last, hlast, hcolumn⟩ := h.column
  obtain ⟨last', hlast', hcolumn'⟩ := h'.column
  have heq := (hlast.append (List.count_eq_zero.mp hcount)).unique hlast'
  rw [← heq, List.length_append] at hcolumn'
  exact List.length_eq_zero_iff.mp (by omega)

theorem Position.Cuts.unique {before' after' : List Char} (h : pos.Cuts text before after)
    (h' : pos.Cuts text before' after') : before' = before ∧ after' = after := by
  -- Of two places in one text, one is further on.
  have hbefore : before' = before := by
    rcases List.append_eq_append_iff.mp (h.parts.symm.trans h'.parts) with ⟨more, rfl, -⟩ | ⟨more, rfl, -⟩
    · rw [h.eq_nil h', List.append_nil]
    · rw [h'.eq_nil h, List.append_nil]
  subst hbefore
  exact ⟨rfl, List.append_cancel_left (h'.parts.symm.trans h.parts)⟩

/-! ### Errors -/

theorem Mismatch.within_append (before after : List Char) (expected : Expected) :
    (⟨after, expected⟩ : Mismatch).within (before ++ after) = ⟨.after before, expected⟩ := by
  simp [Mismatch.within]

namespace Parser

variable {α : Type} {p : Parser α} {progress : Bool} {missed halted : List Expected}
  {source : String} {e : SyntaxError}

def error? (p : Parser α) (source : String) : Option SyntaxError :=
  match p.parse source with
  | .ok _ => none
  | .error e => some e

theorem error?_eq_some : p.error? source = some e ↔ p.parse source = .error e := by
  unfold error?
  cases p.parse source <;> simp

theorem Reports.of_error (h : Reports progress missed halted p) (he : p.parse source = .error e) :
    ∃ why, (p source.toList = .miss why ∨ p source.toList = .halt why) ∧ why.rest <:+ source.toList ∧
      why.expected ∈ missed ++ halted ∧ e = why.within source.toList := by
  unfold Parser.parse at he
  cases hread : p source.toList with
  | done a r =>
    rw [hread] at he
    cases he
  | miss why =>
    obtain ⟨hrest, hmem⟩ := h.miss hread
    rw [hread] at he
    exact ⟨why, .inl rfl, hrest, List.mem_append_left _ hmem, (Except.error.inj he).symm⟩
  | halt why =>
    obtain ⟨hrest, hmem⟩ := h.halt hread
    rw [hread] at he
    exact ⟨why, .inr rfl, hrest, List.mem_append_right _ hmem, (Except.error.inj he).symm⟩

/-- The parser gave up in front of `after`: the position of the error is that place, and the bytes in
front of it are whole characters of the source. -/
structure GivesUpAt (p : Parser α) (source : String) (e : SyntaxError) (before after : List Char) :
    Prop where
  reading : p source.toList = .miss ⟨after, e.expected⟩ ∨ p source.toList = .halt ⟨after, e.expected⟩
  cuts : e.position.Cuts source.toList before after
  boundary : String.Pos.Raw.IsValid source
    ⟨source.utf8ByteSize - (String.ofList after).utf8ByteSize⟩

theorem isValid_boundary (h : source.toList = before ++ after) : String.Pos.Raw.IsValid source
    ⟨source.utf8ByteSize - (String.ofList after).utf8ByteSize⟩ := by
  have hsource : source = String.ofList before ++ String.ofList after := by
    rw [← String.ofList_append, ← h, String.ofList_toList]
  rw [String.Pos.Raw.isValid_iff_exists_append]
  refine ⟨String.ofList before, String.ofList after, hsource, ?_⟩
  rw [hsource, String.utf8ByteSize_append, Nat.add_sub_cancel]
  rfl

def PlacesErrors (p : Parser α) : Prop :=
  ∀ source e, p.parse source = .error e → ∃ before after, p.GivesUpAt source e before after ∧
    ∀ before' after', e.position.Cuts source.toList before' after' → before' = before ∧ after' = after

theorem Reports.placesErrors (h : Reports progress missed halted p) : p.PlacesErrors := by
  intro source e he
  obtain ⟨⟨after, expected⟩, hreading, ⟨before, hparts⟩, -, rfl⟩ := h.of_error he
  have hcuts : (Position.after before).Cuts source.toList before after :=
    hparts ▸ Position.cuts_after before after
  have hwithin : (⟨after, expected⟩ : Mismatch).within source.toList = ⟨.after before, expected⟩ := by
    rw [← hparts, Mismatch.within_append]
  rw [hwithin]
  exact ⟨before, after, ⟨hreading, hcuts, isValid_boundary hparts.symm⟩,
    fun _ _ h' => hcuts.unique h'⟩

end Parser

end ValueTypes
