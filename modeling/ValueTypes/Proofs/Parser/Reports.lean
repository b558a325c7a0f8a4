import ValueTypes.Proofs.Parser.Rounds

/-! What a parser can report. Whatever it leaves or points at is an end of the text that it was given,
and for each combinator the expectations that it can miss or halt with are listed. -/

namespace ValueTypes

/-- The reading of `s` leaves an end of `s`, a shorter one if `progress` is asked for, or points at
an end of `s` and expects there something that is listed. -/
def Reading.Fits {α : Type} (progress : Bool) (missed halted : List Expected) (s : List Char) :
    Reading α → Prop
  | done _ rest => rest <:+ s ∧ (progress → rest.length < s.length)
  | miss why => why.rest <:+ s ∧ why.expected ∈ missed
  | halt why => why.rest <:+ s ∧ why.expected ∈ halted

namespace Parser

variable {α β : Type} {progress progress' : Bool} {missed missed' halted halted' : List Expected}
  {s t r : List Char}

def Reports (progress : Bool) (missed halted : List Expected) (p : Parser α) : Prop :=
  ∀ s, (p s).Fits progress missed halted s

theorem Reports.done {p : Parser α} {a : α} (h : Reports progress missed halted p)
    (hread : p s = .done a r) : r <:+ s ∧ (progress → r.length < s.length) := by
  have hs := h s
  rwa [hread] at hs

theorem Reports.miss {p : Parser α} {why : Mismatch} (h : Reports progress missed halted p)
    (hread : p s = .miss why) : why.rest <:+ s ∧ why.expected ∈ missed := by
  have hs := h s
  rwa [hread] at hs

theorem Reports.halt {p : Parser α} {why : Mismatch} (h : Reports progress missed halted p)
    (hread : p s = .halt why) : why.rest <:+ s ∧ why.expected ∈ halted := by
  have hs := h s
  rwa [hread] at hs

theorem fits_mono {x : Reading α} (h : x.Fits progress missed halted s) (hmissed : missed ⊆ missed')
    (hhalted : halted ⊆ halted') : x.Fits progress missed' halted' s := by
  cases x with
  | done a r => exact h
  | miss why => exact ⟨h.1, hmissed h.2⟩
  | halt why => exact ⟨h.1, hhalted h.2⟩

theorem Reports.mono {p : Parser α} (h : Reports progress missed halted p)
    (hmissed : missed ⊆ missed') (hhalted : halted ⊆ halted') : Reports progress missed' halted' p :=
  fun s => fits_mono (h s) hmissed hhalted

theorem fits_of_suffix {x : Reading α} (h : x.Fits progress missed halted t) (ht : t <:+ s)
    (hprogress : progress' → progress = false → t.length < s.length) :
    x.Fits progress' missed halted s := by
  cases x with
  | done a r =>
    refine ⟨h.1.trans ht, fun hp => ?_⟩
    have hrest := h.1.length_le
    have hstart := ht.length_le
    cases hread : progress with
    | false => exact hrest.trans_lt (hprogress hp hread)
    | true => exact (h.2 hread).trans_le hstart
  | miss why => exact ⟨h.1.trans ht, h.2⟩
  | halt why => exact ⟨h.1.trans ht, h.2⟩

theorem fits_map {f : α → β} {x : Reading α} (h : x.Fits progress missed halted s) :
    (x.map f).Fits progress missed halted s := by
  cases x with
  | done a r => exact h
  | miss why => exact h
  | halt why => exact h

/-! ### Sequences -/

theorem reports_pure (a : α) : Reports false [] [] (pure a : Parser α) :=
  fun s => ⟨List.suffix_refl s, by simp⟩

theorem Reports.fits_bind {p : Parser α} {f : α → Parser β} (hp : Reports progress missed halted p)
    (ht : t <:+ s) (hf : ∀ a r, r <:+ t → (progress → r.length < t.length) →
      (f a r).Fits progress' missed halted s) :
    ((p >>= f) t).Fits progress' missed halted s := by
  rw [bind_apply]
  cases hread : p t with
  | done a r =>
    obtain ⟨hr, hlt⟩ := hp.done hread
    exact hf a r hr hlt
  | miss why =>
    obtain ⟨hrest, hmem⟩ := hp.miss hread
    exact ⟨hrest.trans ht, hmem⟩
  | halt why =>
    obtain ⟨hrest, hmem⟩ := hp.halt hread
    exact ⟨hrest.trans ht, hmem⟩

theorem Reports.bind {p : Parser α} {f : α → Parser β} (hp : Reports progress missed halted p)
    (hf : ∀ a, Reports progress' missed' halted' (f a)) :
    Reports (progress || progress') (missed ++ missed') (halted ++ halted') (p >>= f) := by
  have hp' := hp.mono (List.subset_append_left missed missed') (List.subset_append_left halted halted')
  have hf' := fun a =>
    (hf a).mono (List.subset_append_right missed missed') (List.subset_append_right halted halted')
  intro s
  refine hp'.fits_bind (List.suffix_refl s) fun a r hr hlt => ?_
  exact fits_of_suffix (hf' a r) hr fun hor hno => hlt (by simpa [hno] using hor)

/-! ### Choice -/

theorem Reports.commit {p : Parser α} (h : Reports progress missed halted p) :
    Reports progress [] (missed ++ halted) (commit p) := by
  intro s
  unfold Parser.commit
  cases hread : p s with
  | done a r => exact h.done hread
  | miss why => exact (h.miss hread).imp_right (List.mem_append_left _)
  | halt why => exact (h.halt hread).imp_right (List.mem_append_right _)

theorem Reports.optional {p : Parser α} (h : Reports progress missed halted p) :
    Reports false [] halted (optional p) := by
  intro s
  unfold Parser.optional
  cases hread : p s with
  | done a r => exact ⟨(h.done hread).1, by simp⟩
  | miss why => exact ⟨List.suffix_refl s, by simp⟩
  | halt why => exact h.halt hread

theorem further_mem_append {a b : Mismatch} (ha : a.rest <:+ s ∧ a.expected ∈ missed)
    (hb : b.rest <:+ s ∧ b.expected ∈ missed') :
    (a.further b).rest <:+ s ∧ (a.further b).expected ∈ missed ++ missed' := by
  unfold Mismatch.further
  split
  · exact hb.imp_right (List.mem_append_right _)
  · exact ha.imp_right (List.mem_append_left _)

theorem Reports.orElse {p q : Parser α} (hp : Reports progress missed halted p)
    (hq : Reports progress' missed' halted' q) :
    Reports (progress && progress') (missed ++ missed') (halted ++ halted') (orElse p q) := by
  intro s
  unfold Parser.orElse
  cases hread : p s with
  | done a r => exact (hp.done hread).imp_right fun hlt hand => hlt (Bool.and_eq_true_iff.mp hand).1
  | halt why => exact (hp.halt hread).imp_right (List.mem_append_left _)
  | miss why =>
    cases hread' : q s with
    | done a r => exact (hq.done hread').imp_right fun hlt hand => hlt (Bool.and_eq_true_iff.mp hand).2
    | miss why' => exact further_mem_append (hp.miss hread) (hq.miss hread')
    | halt why' => exact (hq.halt hread').imp_right (List.mem_append_right _)

theorem Reports.expecting {p : Parser α} (e : Expected) (h : Reports progress missed halted p) :
    Reports progress [e] [e] (expecting e p) := by
  intro s
  unfold Parser.expecting
  cases hread : p s with
  | done a r => exact h.done hread
  | miss why => exact ⟨List.suffix_refl s, by simp⟩
  | halt why => exact ⟨List.suffix_refl s, by simp⟩

theorem Reports.ensuring {p : Parser α} (e : Expected) (ok : α → Bool)
    (h : Reports progress missed halted p) :
    Reports progress (e :: missed) halted (ensuring e ok p) := by
  intro s
  unfold Parser.ensuring
  cases hread : p s with
  | done a r =>
    change (if ok a then Reading.done a r else .miss ⟨s, e⟩).Fits progress (e :: missed) halted s
    split
    · exact h.done hread
    · exact ⟨List.suffix_refl s, List.mem_cons_self⟩
  | miss why => exact (h.miss hread).imp_right (List.mem_cons_of_mem e)
  | halt why => exact h.halt hread

/-! ### Characters -/

theorem reports_word (w : String) (hw : w ≠ "") : Reports true [.word w] [] (word w) := by
  intro s
  unfold word
  cases hdrop : dropWord w.toList s with
  | none => exact ⟨List.suffix_refl s, by simp⟩
  | some r =>
    obtain rfl := dropWord_eq_some.mp hdrop
    have hpos : 0 < w.toList.length := List.length_pos_iff.mpr (by simpa using hw)
    refine ⟨List.suffix_append _ _, fun _ => ?_⟩
    rw [List.length_append]
    omega

theorem reports_run (cls : Char → Bool) : Reports false [] [] (run cls) :=
  fun s => ⟨List.dropWhile_suffix cls, by simp⟩

theorem reports_skip (cls : Char → Bool) : Reports false [] [] (skip cls) :=
  fun s => ⟨List.dropWhile_suffix cls, by simp⟩

theorem fits_dropWhile {a : α} (cls : Char → Bool) (c : Char) (s : List Char) :
    (Reading.done a (s.dropWhile cls)).Fits progress missed halted (c :: s) := by
  have hdrop : s.dropWhile cls <:+ s := List.dropWhile_suffix cls
  exact ⟨hdrop.trans (List.suffix_cons c s), fun _ => Nat.lt_succ_of_le hdrop.length_le⟩

theorem reports_skipSome (cls : Char → Bool) : Reports true [.blank] [] (skipSome cls) := by
  intro s
  cases s with
  | nil => simp [skipSome, Reading.Fits]
  | cons c s =>
    cases hc : cls c with
    | false => simp [skipSome, hc, Reading.Fits]
    | true =>
      rw [skipSome, if_pos hc]
      exact fits_dropWhile cls c s

theorem reports_endOfInput : Reports false [.endOfInput] [] endOfInput := by
  intro s
  cases s with
  | nil => simp [endOfInput, Reading.Fits]
  | cons c s => simp [endOfInput, Reading.Fits]

/-! ### Repetition -/

theorem Reports.many {p : Parser α} (h : Reports true missed halted p) :
    Reports false [] halted (many p) := by
  intro s
  fun_induction Parser.many p s with
  | case1 s why hread => exact ⟨List.suffix_refl s, by simp⟩
  | case2 s why hread => exact h.halt hread
  | case3 s a t hread hlt ih => exact fits_map (fits_of_suffix ih (h.done hread).1 (by simp))
  | case4 s a t hread hnlt => exact absurd ((h.done hread).2 rfl) hnlt

theorem Reports.manyUntil {item : Parser α} {close : Parser β} (hitem : Reports true missed halted item)
    (hclose : Reports progress missed' halted' close) :
    Reports progress (missed' ++ missed) (halted ++ halted') (manyUntil item close) := by
  intro s
  fun_induction Parser.manyUntil item close s with
  | case1 s a t hread hlt ih => exact fits_map (fits_of_suffix ih (hitem.done hread).1 fun _ _ => hlt)
  | case2 s a t hread hnlt => exact absurd ((hitem.done hread).2 rfl) hnlt
  | case3 s why hread => exact (hitem.halt hread).imp_right (List.mem_append_left _)
  | case4 s why hread b r hend => exact hclose.done hend
  | case5 s why hread why' hend => exact further_mem_append (hclose.miss hend) (hitem.miss hread)
  | case6 s why hread why' hend => exact (hclose.halt hend).imp_right (List.mem_append_right _)

theorem Reports.sepBy1 {sep : Parser Unit} {p : Parser α} (hsep : Reports progress missed' halted' sep)
    (hp : Reports true missed halted p) :
    Reports true missed (halted ++ halted') (sepBy1 sep p) := by
  -- A round always reads its item, so progress is not asked of the separator.
  have hround : Reports true (missed' ++ missed) (halted' ++ halted) (do sep; p) := by
    have hbind := hsep.bind fun _ => hp
    rwa [Bool.or_true] at hbind
  refine (hp.bind fun _ => hround.many.bind fun _ => reports_pure _).mono (by simp) ?_
  intro e he
  simp only [List.mem_append, List.not_mem_nil, or_false] at he ⊢
  exact he.elim .inl Or.symm

theorem Reports.sepBy {sep : Parser Unit} {p : Parser α} (hsep : Reports progress missed' halted' sep)
    (hp : Reports true missed halted p) :
    Reports false [] (halted ++ halted') (sepBy sep p) :=
  ((hsep.sepBy1 hp).optional.bind fun _ => reports_pure _).mono (by simp) (by simp)

/-- What a rule reports it reports at any depth, if it does not pass on that a text inside is not
shorter. -/
theorem Reports.nested {rule : Parser α → Parser α}
    (hrule : ∀ p, Reports progress (.progress :: missed) halted p →
      Reports progress missed halted (rule p)) :
    Reports progress missed halted (nested rule) := by
  -- By induction on the length of the text, since inside it the rule only meets shorter ones.
  have hdepth : ∀ n, ∀ s : List Char, s.length = n →
      (Parser.nested rule s).Fits progress missed halted s := by
    intro n
    induction n using Nat.strong_induction_on with
    | _ n ih =>
      intro s hs
      rw [nested_eq]
      refine hrule _ (fun t => ?_) s
      by_cases ht : t.length < s.length
      · rw [if_pos ht]
        exact fits_mono (ih t.length (hs ▸ ht) t rfl) (List.subset_cons_self _ _) (List.Subset.refl _)
      · rw [if_neg ht]
        exact ⟨List.suffix_refl t, List.mem_cons_self⟩
  exact fun s => hdepth s.length s rfl

end Parser

end ValueTypes
