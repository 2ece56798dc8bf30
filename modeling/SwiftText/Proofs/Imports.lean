import Mathlib.Data.List.Count
import SwiftText.Imports
import SwiftText.Proofs.Lines.Break
import SwiftText.Proofs.Value.Distinct

/-!
# Reading imports back

The import statements of a list of texts can be read back: the LF at the end is dropped, the rest is
cut at its LFs, and each line loses the `import ` that it starts with. What comes back is the list
with the first of each of its texts, in order. The empty list has an empty rest, and a list with only
the empty text has not, since its line still has the `import `: so the two are told apart.

* `distinct_texts`: of equal texts the first one stays.
* `lines?_join`: statements are found again in their lines.
* `lines?_render`, `modules?_render`: the lines of the statements, and what is read from them.
* `eraseDups_append_of_subset`: texts that were there before add nothing.
* `ofItems_of_isKey`: the statements of items that can be looked up.
* `ofValue_texts`: the import statements of a list of texts.
-/

namespace SwiftText.Imports

variable {xs : List String}

/-! ## The first of several equal ones -/

section Repeats

variable {α : Type} [BEq α] [LawfulBEq α] {as bs : List α}

/-- To choose from a list and then leave out repeats is to leave them out first. The induction is on
the length, since the tail of a list has lost the repeats of its head before its own are left out. -/
theorem eraseDups_filter (p : α → Bool) : ∀ as : List α,
    (as.filter p).eraseDups = as.eraseDups.filter p
  | [] => rfl
  | a :: as => by
    have ih := eraseDups_filter p (as.filter fun b => !b == a)
    cases ha : p a with
    | true =>
      rw [List.filter_cons_of_pos ha, List.eraseDups_cons, List.eraseDups_cons,
        List.filter_cons_of_pos ha, ← ih, List.filter_comm]
    | false =>
      -- the repeats of an element that is not chosen are not chosen either
      have hgone : (as.filter fun b => !b == a).filter p = as.filter p := by
        rw [List.filter_filter]
        refine List.filter_congr fun b _ => ?_
        by_cases hb : b = a
        · simp [hb, ha]
        · simp [hb]
      rw [List.filter_cons_of_neg (by simp [ha]), List.eraseDups_cons,
        List.filter_cons_of_neg (by simp [ha]), ← ih, hgone]
termination_by as => as.length
decreasing_by exact Nat.lt_succ_of_le (List.length_filter_le _ _)

theorem eraseDups_cons_eq_filter (a : α) (as : List α) :
    (a :: as).eraseDups = a :: as.eraseDups.filter fun b => !b == a := by
  rw [List.eraseDups_cons, eraseDups_filter]

theorem nodup_eraseDups (as : List α) : as.eraseDups.Nodup := by
  induction as with
  | nil => exact List.nodup_nil
  | cons a as ih =>
    rw [eraseDups_cons_eq_filter, List.nodup_cons]
    exact ⟨by simp, ih.filter _⟩

theorem eraseDups_append_of_subset (h : ∀ b ∈ bs, b ∈ as) :
    (as ++ bs).eraseDups = as.eraseDups := by
  have hnone : bs.removeAll as = [] := by
    simpa [List.removeAll, List.filter_eq_nil_iff] using h
  rw [List.eraseDups_append, hnone, List.eraseDups_nil, List.append_nil]

end Repeats

/-- **Of equal texts the first one stays.** -/
theorem distinct_texts (xs : List String) :
    Value.distinct (xs.map .text) = xs.eraseDups.map .text := by
  induction xs with
  | nil => rfl
  | cons x xs ih =>
    rw [List.map_cons, Value.distinct, ih, eraseDups_cons_eq_filter, List.map_cons,
      List.filter_map]
    congr 2
    refine List.filter_congr fun y _ => ?_
    rw [Function.comp_apply, Value.same, Bool.beq_comm]

/-! ## Reading -/

/-- The statement that imports a module. -/
def statement (x : String) : List Char := "import ".toList ++ x.toList

/-- The lines of a text that ends with an LF. With nothing before that LF there is no line, not an
empty one. -/
def lines? (s : List Char) : Option (List (List Char)) :=
  if s.getLast? = some '\n' then
    some (if s.dropLast = [] then [] else s.dropLast.splitOn '\n')
  else none

/-- The module that a line imports. -/
def module? (l : List Char) : Option String := (l.dropPrefix? "import ".toList).map String.ofList

/-- The modules that the lines of a text import. -/
def modules? (s : List Char) : Option (List String) := do
  let ls ← lines? s
  ls.mapM module?

theorem module?_statement (x : String) : module? (statement x) = some x := by
  have hprefix : (statement x).dropPrefix? "import ".toList = some x.toList :=
    List.dropPrefix?_append_of_beq _ (beq_self_eq_true _)
  rw [module?, hprefix, Option.map_some, String.ofList_toList]

theorem statement_injective : Function.Injective statement := by
  intro x y hxy
  have hmodule := congrArg module? hxy
  rwa [module?_statement, module?_statement, Option.some_inj] at hmodule

theorem newline_not_mem_statement {x : String} (h : '\n' ∉ x.toList) : '\n' ∉ statement x := by
  unfold statement
  simpa using h

theorem statement_ne_nil (x : String) : statement x ≠ [] := by
  unfold statement
  simp

/-! ## Reading the statements -/

/-- **Texts are rendered as their statements**, one line each. -/
theorem render_texts (xs : List String) :
    render (xs.map .text) = Lines.join (xs.map statement) ++ ['\n'] := by
  rw [render, List.map_map]
  rfl

/-- **Statements are found again in their lines.** Only without any statement nothing is left before
the LF at the end. -/
theorem lines?_join {ls : List (List Char)} (hne : ∀ l ∈ ls, l ≠ []) (h : ∀ l ∈ ls, '\n' ∉ l) :
    lines? (Lines.join ls ++ ['\n']) = some ls := by
  rw [lines?, if_pos List.getLast?_concat, List.dropLast_concat]
  cases ls with
  | nil => rfl
  | cons l ls =>
    have hsplit : (Lines.join (l :: ls)).splitOn '\n' = l :: ls :=
      Lines.splitOn_join (List.cons_ne_nil _ _) h
    have hjoin : Lines.join (l :: ls) ≠ [] := by
      intro hnil
      rw [hnil, List.splitOn_nil, List.cons.injEq] at hsplit
      exact hne l List.mem_cons_self hsplit.1.symm
    rw [if_neg hjoin, hsplit]

/-- **The statements are one line for each text.** -/
theorem lines?_render (h : ∀ x ∈ xs, '\n' ∉ x.toList) :
    lines? (render (xs.map .text)) = some (xs.map statement) := by
  rw [render_texts]
  refine lines?_join ?_ ?_
  · exact List.forall_mem_map.2 fun x _ => statement_ne_nil x
  · exact List.forall_mem_map.2 fun x hx => newline_not_mem_statement (h x hx)

theorem mapM_module?_statement (xs : List String) :
    (xs.map statement).mapM module? = some xs := by
  induction xs with
  | nil => rfl
  | cons x xs ih => rw [List.map_cons, List.mapM_cons, module?_statement, ih]; rfl

/-- **From the statements the texts are read back.** -/
theorem modules?_render (h : ∀ x ∈ xs, '\n' ∉ x.toList) :
    modules? (render (xs.map .text)) = some xs := by
  rw [modules?, lines?_render h]
  exact mapM_module?_statement xs

/-- **A text has one line if it is in the list**, and none if it is not. -/
theorem count_statement (xs : List String) (x : String) :
    (xs.eraseDups.map statement).count (statement x) = if x ∈ xs then 1 else 0 := by
  rw [List.count_map_of_injective _ _ statement_injective]
  simp only [(nodup_eraseDups xs).count, List.mem_eraseDups]

/-! ## The statements of a list -/

theorem ofValue_list_eq_map (vs : List Value) : ofValue (.list vs) = (ofItems vs).map .text := by
  change (do return Value.text (← ofItems vs)) = _
  cases ofItems vs <;> rfl

theorem isWritable_of_isKey {v : Value} (hkey : v.isKey = true)
    (hdigits : ∀ n : Int, v = .int n → Decimal.isTooLong n = false) : v.isWritable = true := by
  cases v with
  | int n => simp [Value.isWritable, hdigits n rfl]
  | null | bool | text => simp [Value.isWritable]
  | list | record => cases hkey

/-- Items that can be looked up have statements, those of the first of each class of equal ones,
unless an integer among them has too many digits. -/
theorem ofItems_of_isKey {vs : List Value} (hkeys : ∀ v ∈ vs, v.isKey = true)
    (hdigits : ∀ n : Int, .int n ∈ vs → Decimal.isTooLong n = false) :
    ofItems vs = .ok (String.ofList (render (Value.distinct vs))) := by
  have hfind : vs.find? (!·.isKey) = none := by simpa [List.find?_eq_none] using hkeys
  have hwritable : ∀ v ∈ Value.distinct vs, v.isWritable = true := fun v hv => by
    have hmem := Value.mem_of_mem_distinct hv
    exact isWritable_of_isKey (hkeys v hmem) fun n hn => hdigits n (hn ▸ hmem)
  rw [ofItems, hfind]
  exact if_pos (List.all_eq_true.2 hwritable)

theorem ofItems_texts (xs : List String) :
    ofItems (xs.map .text) = .ok (String.ofList (render (xs.eraseDups.map .text))) := by
  rw [← distinct_texts]
  exact ofItems_of_isKey (List.forall_mem_map.2 fun _ _ => rfl) (by simp)

theorem ofValue_list_texts (xs : List String) :
    ofValue (.list (xs.map .text)) =
      .ok (.text (String.ofList (render (xs.eraseDups.map .text)))) := by
  rw [ofValue_list_eq_map, ofItems_texts]
  rfl

/-- **The import statements of a list of texts.** Texts without LF give one that ends with an LF and
from which the list is read back with the first of each of its texts, in order; so a text stands in
one of the lines if it is in the list, and in none if it is not. Whatever the texts, those that come
again add nothing. -/
theorem ofValue_texts (xs : List String) :
    ((∀ x ∈ xs, '\n' ∉ x.toList) →
      ∃ s, ofValue (.list (xs.map .text)) = .ok (.text s) ∧ s.toList.getLast? = some '\n' ∧
        modules? s.toList = some xs.eraseDups ∧
        ∃ ls, lines? s.toList = some ls ∧
          ∀ x : String, ls.count ("import ".toList ++ x.toList) = if x ∈ xs then 1 else 0) ∧
    ∀ ys : List String, (∀ y ∈ ys, y ∈ xs) →
      ofValue (.list ((xs ++ ys).map .text)) = ofValue (.list (xs.map .text)) := by
  constructor
  · intro h
    have hdistinct : ∀ x ∈ xs.eraseDups, '\n' ∉ x.toList := fun x hx =>
      h x (List.mem_eraseDups.1 hx)
    refine ⟨_, ofValue_list_texts xs, ?_⟩
    rw [String.toList_ofList]
    refine ⟨?_, modules?_render hdistinct, _, lines?_render hdistinct, count_statement xs⟩
    rw [render_texts, List.getLast?_concat]
  · intro ys hys
    rw [ofValue_list_texts, ofValue_list_texts, eraseDups_append_of_subset hys]

/-- The empty text has a line and the empty list has none, and a text that is itself like a statement
is read back whole. -/
theorem ofValue_texts_repeated :
    let xs := ["B", "", "import A", "B", ""]
    (∀ x ∈ xs, '\n' ∉ x.toList) ∧ (∀ y ∈ ["", "B"], y ∈ xs) ∧
      (∃ s, ofValue (.list (xs.map .text)) = .ok (.text s) ∧
        modules? s.toList = some ["B", "", "import A"] ∧
        ofValue (.list ((xs ++ ["", "B"]).map .text)) = .ok (.text s)) ∧
      ∃ s, ofValue (.list []) = .ok (.text s) ∧ modules? s.toList = some [] := by
  intro xs
  have hxs : ∀ x ∈ xs, '\n' ∉ x.toList := by decide
  have hys : ∀ y ∈ ["", "B"], y ∈ xs := by decide
  obtain ⟨hread, hmore⟩ := ofValue_texts xs
  obtain ⟨s, hs, -, hmodules, -⟩ := hread hxs
  obtain ⟨s₀, hs₀, -, hmodules₀, -⟩ := (ofValue_texts []).1 (by simp)
  refine ⟨hxs, hys, ⟨s, hs, hmodules.trans (by decide), (hmore ["", "B"] hys).trans hs⟩, s₀, hs₀, ?_⟩
  exact hmodules₀

end SwiftText.Imports
