import ValueTypes.Proofs.Parser.Reports

/-! The greedy reading of a repetition up to its end. The item is read as long as it can be, each time
with a character at least; where it misses, the end has to follow. -/

namespace ValueTypes

/-- Of two mismatches in one text, the one that has less of it ahead; the first one on a tie. -/
inductive Mismatch.Furthest (first second : Mismatch) : Mismatch → Prop where
  | first (h : first.rest <:+ second.rest) : Furthest first second first
  | second (h : second.rest <:+ first.rest) (hne : second.rest ≠ first.rest) :
      Furthest first second second

theorem Mismatch.furthest_iff {a b why : Mismatch} {s : List Char} (ha : a.rest <:+ s)
    (hb : b.rest <:+ s) : Furthest a b why ↔ why = a.further b := by
  unfold Mismatch.further
  split
  · rename_i hlt
    have hnot : ¬ a.rest <:+ b.rest := fun h => absurd h.length_le (by omega)
    constructor
    · intro h
      cases h with
      | first h => exact absurd h hnot
      | second h hne => rfl
    · rintro rfl
      refine .second (List.suffix_of_suffix_length_le hb ha hlt.le) fun heq => ?_
      exact hnot (heq ▸ List.suffix_refl _)
  · rename_i hle
    have hab : a.rest <:+ b.rest := List.suffix_of_suffix_length_le ha hb (by omega)
    constructor
    · intro h
      cases h with
      | first h => rfl
      | second h hne => exact absurd (h.eq_of_length_le (by omega)) hne
    · rintro rfl
      exact .first hab

namespace Parser

variable {α β : Type} {item : Parser α} {close : Parser β} {a : α} {as : List α} {s t : List Char}

structure Trailing (p : Parser α) : Prop where
  done : ∀ {s a r}, p s = .done a r → r <:+ s
  miss : ∀ {s why}, p s = .miss why → why.rest <:+ s

theorem Reports.trailing {progress : Bool} {missed halted : List Expected} {p : Parser α}
    (h : Reports progress missed halted p) : Trailing p where
  done hread := (h.done hread).1
  miss hread := (h.miss hread).1

/-! ### Rounds -/

structure Round (item : Parser α) (s : List Char) (a : α) (t : List Char) : Prop where
  read : item s = .done a t
  consumed : ∃ c cs, s = c :: (cs ++ t)

inductive Repeats (item : Parser α) : List α → List Char → List Char → Prop where
  | none {s : List Char} : Repeats item [] s s
  | round {a : α} {as : List α} {s t r : List Char} (h : Round item s a t)
      (hrest : Repeats item as t r) : Repeats item (a :: as) s r

theorem Round.length_lt (h : Round item s a t) : t.length < s.length := by
  obtain ⟨c, cs, rfl⟩ := h.consumed
  rw [List.length_cons, List.length_append]
  omega

theorem Trailing.round (h : Trailing item) (hread : item s = .done a t) (hne : t ≠ s) :
    Round item s a t := by
  refine ⟨hread, ?_⟩
  obtain ⟨consumed, rfl⟩ := h.done hread
  cases consumed with
  | nil => exact absurd rfl hne
  | cons c cs => exact ⟨c, cs, rfl⟩

theorem Trailing.wellFounded (h : Trailing item) :
    WellFounded fun t s => ∃ a, item s = .done a t ∧ t ≠ s := by
  refine Subrelation.wf ?_ (measure List.length).wf
  rintro t s ⟨a, hread, hne⟩
  exact (h.round hread hne).length_lt

theorem Repeats.length_le (h : Repeats item as s t) : as.length + t.length ≤ s.length := by
  induction h with
  | none => simp
  | round h hrest ih =>
    have hlt := h.length_lt
    rw [List.length_cons]
    omega

theorem Repeats.rounds (h : Repeats item as s t) (hmiss : Misses item t) : Rounds item as s t := by
  induction h with
  | none => exact .stop hmiss
  | round h hrest ih => exact .next h.read h.length_lt (ih hmiss)

theorem manyUntil_of_round (h : Round item s a t) :
    manyUntil item close s = (manyUntil item close t).map (a :: ·) := by
  rw [manyUntil, h.read]
  exact if_pos h.length_lt

theorem manyUntil_of_repeats (h : Repeats item as s t) :
    manyUntil item close s = (manyUntil item close t).map (as ++ ·) := by
  induction h with
  | none => cases manyUntil item close _ <;> rfl
  | round h hrest ih =>
    rw [manyUntil_of_round h, ih]
    cases manyUntil item close _ <;> rfl

/-! ### Ends of the repetition -/

/-- How a repetition of the item up to `close` reads `s`: with items and an end behind them, or with
the failure at the text where the rounds come to an end. -/
inductive Greedy (item : Parser α) (close : Parser β) (s : List Char) :
    Reading (List α) → Prop where
  | closed {as : List α} {b : β} {t r : List Char} (hrounds : Repeats item as s t)
      (hitem : Misses item t) (hclose : close t = .done b r) : Greedy item close s (.done as r)
  | itemHalts {as : List α} {t : List Char} {why : Mismatch} (hrounds : Repeats item as s t)
      (hitem : item t = .halt why) : Greedy item close s (.halt why)
  | closeHalts {as : List α} {t : List Char} {why : Mismatch} (hrounds : Repeats item as s t)
      (hitem : Misses item t) (hclose : close t = .halt why) : Greedy item close s (.halt why)
  | bothMiss {as : List α} {t : List Char} {inner last why : Mismatch}
      (hrounds : Repeats item as s t) (hitem : item t = .miss inner) (hclose : close t = .miss last)
      (hwhy : Mismatch.Furthest last inner why) : Greedy item close s (.miss why)
  /-- An item that consumes nothing would be read forever, so it is refused. -/
  | idle {as : List α} {a : α} {t : List Char} (hrounds : Repeats item as s t)
      (hitem : item t = .done a t) : Greedy item close s (.miss ⟨t, .progress⟩)

theorem Greedy.round {x : Reading (List α)} (h : Greedy item close t x) (hround : Round item s a t) :
    Greedy item close s (x.map (a :: ·)) := by
  cases h with
  | closed hrounds hitem hclose => exact .closed (.round hround hrounds) hitem hclose
  | itemHalts hrounds hitem => exact .itemHalts (.round hround hrounds) hitem
  | closeHalts hrounds hitem hclose => exact .closeHalts (.round hround hrounds) hitem hclose
  | bothMiss hrounds hitem hclose hwhy => exact .bothMiss (.round hround hrounds) hitem hclose hwhy
  | idle hrounds hitem => exact .idle (.round hround hrounds) hitem

theorem greedy_manyUntil (hitem : Trailing item) (hclose : Trailing close) (s : List Char) :
    Greedy item close s (manyUntil item close s) := by
  fun_induction manyUntil item close s with
  | case1 s a t hread hlt ih =>
    have hne : t ≠ s := fun heq => absurd (congrArg List.length heq) hlt.ne
    exact ih.round (hitem.round hread hne)
  | case2 s a t hread hnlt =>
    -- What is left is an end of the text and not a shorter one, so it is the text itself.
    obtain rfl := (hitem.done hread).eq_of_length_le (by omega)
    exact .idle .none hread
  | case3 s why hread => exact .itemHalts .none hread
  | case4 s why hread b r hend => exact .closed .none ⟨why, hread⟩ hend
  | case5 s why hread why' hend =>
    have hfurthest := (Mismatch.furthest_iff (hclose.miss hend) (hitem.miss hread)).mpr rfl
    exact .bothMiss .none hread hend hfurthest
  | case6 s why hread why' hend => exact .closeHalts .none ⟨why, hread⟩ hend

theorem Greedy.eq_manyUntil (hitem : Trailing item) (hclose : Trailing close)
    {x : Reading (List α)} (h : Greedy item close s x) : manyUntil item close s = x := by
  cases h with
  | closed hrounds hmiss hend => exact manyUntil_eq_done.mpr ⟨_, _, hrounds.rounds hmiss, hend⟩
  | itemHalts hrounds hhalt => rw [manyUntil_of_repeats hrounds, manyUntil_of_halt hhalt, Reading.map]
  | closeHalts hrounds hmiss hend =>
    obtain ⟨why, hmiss⟩ := hmiss
    rw [manyUntil_of_repeats hrounds, manyUntil, hmiss]
    simp [hend, Reading.map]
  | bothMiss hrounds hmiss hend hwhy =>
    rw [Mismatch.furthest_iff (hclose.miss hend) (hitem.miss hmiss)] at hwhy
    rw [manyUntil_of_repeats hrounds, manyUntil, hmiss]
    simp [hend, hwhy, Reading.map]
  | idle hrounds hread =>
    rw [manyUntil_of_repeats hrounds, manyUntil, hread]
    simp [Reading.map]

/-- The rounds of a repetition come to an end, after one for each character at most, and the
repetition reads what the greedy reading is, and nothing else. -/
theorem manyUntil_eq_iff_greedy (hitem : Trailing item) (hclose : Trailing close) :
    (WellFounded fun t s => ∃ a, item s = .done a t ∧ t ≠ s) ∧
    ∀ s, (∀ as t, Repeats item as s t → as.length + t.length ≤ s.length) ∧
      ∀ x, manyUntil item close s = x ↔ Greedy item close s x := by
  refine ⟨hitem.wellFounded, fun s => ⟨fun as t => Repeats.length_le, fun x => ?_⟩⟩
  constructor
  · rintro rfl
    exact greedy_manyUntil hitem hclose s
  · exact Greedy.eq_manyUntil hitem hclose

def assignment : Parser Unit := do
  word "x"
  word "="
  commit (word "1")

def fullStop : Parser Unit := do
  word ";"
  commit (word "!")

theorem manyUntil_eq_iff_greedy_assignment :
    Trailing assignment ∧ Trailing fullStop ∧
    (WellFounded fun t s => ∃ u, assignment s = .done u t ∧ t ≠ s) ∧
    Greedy assignment fullStop "x=1x=1;!y".toList (.done [(), ()] "y".toList) ∧
    Greedy assignment fullStop "x=1x=y".toList (.halt ⟨"y".toList, .word "1"⟩) ∧
    Greedy assignment fullStop "x=1;y".toList (.halt ⟨"y".toList, .word "!"⟩) ∧
    Greedy assignment fullStop "x=1xy".toList (.miss ⟨"y".toList, .word "="⟩) ∧
    Greedy assignment fullStop "x=1y".toList (.miss ⟨"y".toList, .word ";"⟩) := by
  have hitem : Trailing assignment :=
    ((reports_word "x" (by decide)).bind fun _ => (reports_word "=" (by decide)).bind fun _ =>
      (reports_word "1" (by decide)).commit).trailing
  have hclose : Trailing fullStop :=
    ((reports_word ";" (by decide)).bind fun _ => (reports_word "!" (by decide)).commit).trailing
  obtain ⟨hends, hgreedy⟩ := manyUntil_eq_iff_greedy hitem hclose
  refine ⟨hitem, hclose, hends, ?_, ?_, ?_, ?_, ?_⟩
  · exact ((hgreedy _).2 _).mp (by decide +kernel)
  · exact ((hgreedy _).2 _).mp (by decide +kernel)
  · exact ((hgreedy _).2 _).mp (by decide +kernel)
  · exact ((hgreedy _).2 _).mp (by decide +kernel)
  · exact ((hgreedy _).2 _).mp (by decide +kernel)

end Parser
end ValueTypes
