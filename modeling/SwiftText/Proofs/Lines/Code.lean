import SwiftText.Lines

/-!
# Lines of code

Lines of code end at LF, at CR and at CR LF, so a text may have more of them than it has lines in
the sense of `Lines.split`. Whether all of them start in the same way is a matter of what comes
after the breaks.

* `codeLines`: the lines of code of a text.
* `AfterBreak`: what comes after a break.
* `forall_mem_codeLines_iff`: all lines start in the same way if and only if the text does and all
  that comes after breaks does.
* `afterBreak_following_iff`: in joined lines, a break is the one after a line, or a CR that stands
  alone within one.
* `forall_mem_codeLines_join_iff`: so joined lines all start in the same way exactly if each of them
  does, and so does what comes after each such CR.
-/

namespace SwiftText.Lines

/-- The lines of code of a text: LF, CR and CR LF end a line. -/
def codeLines : List Char → List (List Char)
  | [] => [[]]
  | '\r' :: '\n' :: rest => [] :: codeLines rest
  | c :: rest =>
    if c = '\n' ∨ c = '\r' then [] :: codeLines rest else consFirst c (codeLines rest)

/-- What comes after a break of a text. A CR right before an LF is no break of its own. -/
def AfterBreak (s r : List Char) : Prop :=
  ∃ q, s = q ++ '\n' :: r ∨ s = q ++ '\r' :: r ∧ r.head? ≠ some '\n'

/-- A text without line breaks. -/
def Unbroken (s : List Char) : Prop := '\n' ∉ s ∧ '\r' ∉ s

theorem Unbroken.of_cons {c : Char} {s : List Char} (h : Unbroken (c :: s)) : Unbroken s :=
  ⟨fun hn => h.1 (List.mem_cons_of_mem c hn), fun hr => h.2 (List.mem_cons_of_mem c hr)⟩

variable {m s t r : List Char}

theorem afterBreak_cons_iff {c : Char} :
    AfterBreak (c :: s) r ↔
      (r = s ∧ (c = '\n' ∨ c = '\r' ∧ s.head? ≠ some '\n')) ∨ AfterBreak s r := by
  constructor
  · rintro ⟨q, h⟩
    cases q with
    | nil =>
      simp only [List.nil_append, List.cons.injEq] at h
      rcases h with ⟨rfl, rfl⟩ | ⟨⟨rfl, rfl⟩, hr⟩
      · exact Or.inl ⟨rfl, Or.inl rfl⟩
      · exact Or.inl ⟨rfl, Or.inr ⟨rfl, hr⟩⟩
    | cons d q =>
      simp only [List.cons_append, List.cons.injEq] at h
      exact Or.inr ⟨q, h.imp (fun h => h.2) fun h => ⟨h.1.2, h.2⟩⟩
  · rintro (⟨rfl, rfl | ⟨rfl, hr⟩⟩ | ⟨q, h⟩)
    · exact ⟨[], Or.inl rfl⟩
    · exact ⟨[], Or.inr ⟨rfl, hr⟩⟩
    · exact ⟨c :: q, h.imp (fun h => by rw [h]; rfl) fun h => ⟨by rw [h.1]; rfl, h.2⟩⟩

/-! ## Lines that start in the same way -/

theorem isPrefix_cons_iff_of_break {c : Char} (hm : Unbroken m) (hc : c = '\n' ∨ c = '\r')
    (s : List Char) : m <+: c :: s ↔ m <+: [] := by
  cases m with
  | nil => exact iff_of_true List.nil_prefix List.nil_prefix
  | cons d m =>
    have hd : d ≠ c := by
      rintro rfl
      rcases hc with rfl | rfl
      · exact hm.1 List.mem_cons_self
      · exact hm.2 List.mem_cons_self
    simp [List.cons_prefix_cons, hd]

/-- The first line starts as the text does, and the others as what comes after breaks does. -/
theorem codeLines_cases (s : List Char) :
    ∃ first others, codeLines s = first :: others ∧ ∀ m, Unbroken m → (m <+: first ↔ m <+: s) ∧
      ((∀ l ∈ others, m <+: l) ↔ ∀ r, AfterBreak s r → m <+: r) := by
  fun_induction codeLines s with
  | case1 => exact ⟨[], [], rfl, fun m hm => ⟨Iff.rfl, by simp [AfterBreak]⟩⟩
  | case2 rest ih =>
    obtain ⟨first, others, heq, ih⟩ := ih
    refine ⟨[], _, rfl, fun m hm => ?_⟩
    obtain ⟨hfirst, hothers⟩ := ih m hm
    refine ⟨(isPrefix_cons_iff_of_break hm (Or.inr rfl) _).symm, ?_⟩
    simp [heq, afterBreak_cons_iff, hfirst, hothers, or_imp, forall_and]
  | case3 c rest hpair hc ih =>
    obtain ⟨first, others, heq, ih⟩ := ih
    have hbreak : c = '\n' ∨ c = '\r' ∧ rest.head? ≠ some '\n' := by
      refine hc.imp id fun hr => ⟨hr, fun hhead => ?_⟩
      obtain ⟨rest', hrest⟩ := List.head?_eq_some_iff.1 hhead
      exact hpair rest' hr hrest
    refine ⟨[], _, rfl, fun m hm => ?_⟩
    obtain ⟨hfirst, hothers⟩ := ih m hm
    refine ⟨(isPrefix_cons_iff_of_break hm hc rest).symm, ?_⟩
    simp [heq, afterBreak_cons_iff, hfirst, hothers, hbreak, or_imp, forall_and]
  | case4 c rest hpair hc ih =>
    obtain ⟨first, others, heq, ih⟩ := ih
    refine ⟨c :: first, others, by rw [heq, consFirst], fun m hm => ⟨?_, ?_⟩⟩
    · cases m with
      | nil => exact iff_of_true List.nil_prefix List.nil_prefix
      | cons d m => rw [List.cons_prefix_cons, List.cons_prefix_cons, (ih m hm.of_cons).1]
    · rw [(ih m hm).2]
      simp [afterBreak_cons_iff, not_or.1 hc]

/-- **All lines start in the same way if and only if all that comes after breaks does**, with the
text itself as what comes after the break before it. -/
theorem forall_mem_codeLines_iff (hm : Unbroken m) (s : List Char) :
    (∀ l ∈ codeLines s, m <+: l) ↔ ∀ r, AfterBreak ('\n' :: s) r → m <+: r := by
  obtain ⟨first, others, heq, h⟩ := codeLines_cases s
  rw [heq, List.forall_mem_cons, (h m hm).1, (h m hm).2]
  simp [afterBreak_cons_iff, or_imp, forall_and]

/-! ## Breaks in joined lines -/

/-- What follows a line when more lines are joined to it. -/
def following (ls : List (List Char)) : List Char := ls.flatMap ('\n' :: ·)

theorem join_cons (l : List Char) (ls : List (List Char)) : join (l :: ls) = l ++ following ls := by
  induction ls generalizing l with
  | nil => simp [join, following, List.intercalate]
  | cons k ls ih =>
    have h := ih k
    simp only [join, following, List.intercalate, List.intersperse] at h ⊢
    simp [h]

theorem codeLines_ne_nil (s : List Char) : codeLines s ≠ [] := by
  obtain ⟨first, others, heq, -⟩ := codeLines_cases s
  rw [heq]
  exact List.cons_ne_nil _ _

/-- An empty line in front of others leaves only its LF. -/
theorem join_nil_cons {ls : List (List Char)} (h : ls ≠ []) : join ([] :: ls) = '\n' :: join ls := by
  obtain ⟨l, ls, rfl⟩ := List.exists_cons_of_ne_nil h
  rw [join_cons, join_cons, following, List.flatMap_cons]
  rfl

theorem join_consFirst {c : Char} {ls : List (List Char)} (h : ls ≠ []) :
    join (consFirst c ls) = c :: join ls := by
  obtain ⟨l, ls, rfl⟩ := List.exists_cons_of_ne_nil h
  rw [consFirst, join_cons, join_cons, List.cons_append]

/-- In a line with something after it, a break is a CR of the line that stands alone, or comes
later. -/
theorem afterBreak_append_iff {l : List Char} (hl : '\n' ∉ l) (t : List Char) :
    AfterBreak (l ++ t) r ↔
      (∃ q rest, l = q ++ '\r' :: rest ∧ r = rest ++ t ∧ (rest ++ t).head? ≠ some '\n') ∨
        AfterBreak t r := by
  induction l with
  | nil => simp
  | cons c l ih =>
    simp only [List.mem_cons, not_or] at hl
    obtain ⟨hc, hl⟩ := hl
    rw [List.cons_append, afterBreak_cons_iff, ih hl, ← or_assoc]
    refine or_congr_left ⟨?_, ?_⟩
    · rintro (⟨rfl, rfl | ⟨rfl, hr⟩⟩ | ⟨q, rest, rfl, h⟩)
      · exact absurd rfl hc
      · exact ⟨[], l, rfl, rfl, hr⟩
      · exact ⟨c :: q, rest, rfl, h⟩
    · rintro ⟨q, rest, h, hr⟩
      cases q with
      | nil =>
        simp only [List.nil_append, List.cons.injEq] at h
        obtain ⟨rfl, rfl⟩ := h
        exact Or.inl ⟨hr.1, Or.inr ⟨rfl, hr.2⟩⟩
      | cons d q =>
        simp only [List.cons_append, List.cons.injEq] at h
        exact Or.inr ⟨q, rest, h.2, hr⟩

/-- **In joined lines, what comes after a break is a line with all that follows, or the rest of a
line after a CR that stands alone.** -/
theorem afterBreak_following_iff {ls : List (List Char)} (h : ∀ l ∈ ls, '\n' ∉ l) :
    AfterBreak (following ls) r ↔ ∃ l v, l :: v <:+ ls ∧ (r = l ++ following v ∨
      ∃ q rest, l = q ++ '\r' :: rest ∧ r = rest ++ following v ∧
        (rest ++ following v).head? ≠ some '\n') := by
  induction ls with
  | nil => simp [following, AfterBreak]
  | cons k ls ih =>
    obtain ⟨hk, hls⟩ := List.forall_mem_cons.1 h
    have hcons : following (k :: ls) = '\n' :: (k ++ following ls) := rfl
    rw [hcons, afterBreak_cons_iff, afterBreak_append_iff hk, ih hls, ← or_assoc]
    simp only [List.suffix_cons_iff, List.cons.injEq, or_and_right, exists_or, and_assoc,
      exists_and_left, exists_eq_left, true_or, and_true]

/-! ## Joined lines that start in the same way -/

theorem isPrefix_append_cons_iff {c : Char} (hc : c ∉ m) : m <+: s ++ c :: t ↔ m <+: s := by
  refine ⟨fun h => ?_, fun h => h.trans (List.prefix_append s _)⟩
  have hs : s ++ [c] <+: s ++ c :: t := by simp
  rcases List.prefix_or_prefix_of_prefix h hs with h | h
  · rcases List.prefix_concat_iff.1 h with rfl | h
    · exact absurd (by simp) hc
    · exact h
  · exact absurd (h.subset (by simp)) hc

theorem isPrefix_append_following_iff (hm : '\n' ∉ m) (v : List (List Char)) :
    m <+: s ++ following v ↔ m <+: s := by
  cases v with
  | nil => rw [following, List.flatMap_nil, List.append_nil]
  | cons k v => exact isPrefix_append_cons_iff hm

theorem head?_append_following_iff (hs : '\n' ∉ s) (v : List (List Char)) :
    (s ++ following v).head? = some '\n' ↔ s = [] ∧ v ≠ [] := by
  cases s with
  | nil => cases v <;> simp [following]
  | cons c s =>
    simp only [List.mem_cons, not_or] at hs
    simp [Ne.symm hs.1]

/-- **Joined lines all start in the same way as code exactly if each of them does and so does what
comes after each CR in them**, one at the end of a line that is followed by another excepted. -/
theorem forall_mem_codeLines_join_iff {ls : List (List Char)} (hm : Unbroken m) (hne : ls ≠ [])
    (h : ∀ l ∈ ls, '\n' ∉ l) :
    (∀ l ∈ codeLines (join ls), m <+: l) ↔ ∀ l v, l :: v <:+ ls → m <+: l ∧
      ∀ q rest, l = q ++ '\r' :: rest → (rest = [] ∧ v ≠ []) ∨ m <+: rest := by
  obtain ⟨k, ls, rfl⟩ := List.exists_cons_of_ne_nil hne
  have hjoin : '\n' :: join (k :: ls) = following (k :: ls) := by rw [join_cons]; rfl
  rw [forall_mem_codeLines_iff hm, hjoin]
  constructor
  · intro hall l v hl
    have hl' : '\n' ∉ l := h l (hl.subset List.mem_cons_self)
    constructor
    · rw [← isPrefix_append_following_iff hm.1 v]
      exact hall _ ((afterBreak_following_iff h).2 ⟨l, v, hl, Or.inl rfl⟩)
    · rintro q rest rfl
      have hrest : '\n' ∉ rest := fun hn => hl' (by simp [hn])
      refine Classical.or_iff_not_imp_left.2 fun hlast => ?_
      rw [← isPrefix_append_following_iff hm.1 v]
      refine hall _ ((afterBreak_following_iff h).2 ⟨_, v, hl, Or.inr ⟨q, rest, rfl, rfl, ?_⟩⟩)
      rwa [Ne, head?_append_following_iff hrest]
  · intro hall r hr
    obtain ⟨l, v, hl, rfl | ⟨q, rest, rfl, rfl, hhead⟩⟩ := (afterBreak_following_iff h).1 hr
    · rw [isPrefix_append_following_iff hm.1]
      exact (hall l v hl).1
    · have hrest : '\n' ∉ rest := fun hn => h _ (hl.subset List.mem_cons_self) (by simp [hn])
      rw [Ne, head?_append_following_iff hrest] at hhead
      rw [isPrefix_append_following_iff hm.1]
      exact ((hall _ v hl).2 q rest rfl).resolve_left hhead

end SwiftText.Lines
