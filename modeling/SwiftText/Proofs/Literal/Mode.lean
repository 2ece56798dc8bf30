import SwiftText.Proofs.Literal.Fence
import SwiftText.Proofs.Literal.Part
import SwiftText.Proofs.Literal.Reader

/-!
# The two modes of string literals

Custom delimiters change the literal of a datum exactly if one of its strings has a quotation mark or
a backslash. That nothing else is touched is one half. The other half is that what comes after
such a string never makes up for the change: up to the first one the two literals are the same, and
there the one goes on with a number sign and the other with a quotation mark.

* `Forks`: two texts that part at a number sign and a quotation mark. They part as well with
  anything in front of both and anything after each.
* `Tracks`: two texts that fork exactly if one of some data is a marked string; they can be put
  together piece by piece (`Tracks.append`, and `TracksAll.tracks_bracketed` between brackets).
* `tracks_text`: the two literals of a datum track its leaves.
* `render_true_eq_render_false_iff`: when the two modes agree.
-/

namespace SwiftText

/-- Whether a datum is a string with a quotation mark or a backslash. -/
def Datum.isMarked : Datum → Bool
  | .text s => s.toList.any Literal.isMark
  | _ => false

namespace Literal

open Reader (others bracketed_cons others_cons hasLiteral_of_render)

/-! ## Forks -/

/-- After a common beginning, the first text goes on with a number sign and the second one with a
quotation mark. -/
def Forks (a b : List Char) : Prop := ∃ p u w, a = p ++ '#' :: u ∧ b = p ++ '"' :: w

theorem Forks.ne {a b : List Char} (h : Forks a b) : a ≠ b := by
  obtain ⟨p, u, w, rfl, rfl⟩ := h
  intro heq
  have := List.append_cancel_left heq
  simp at this

theorem Forks.append {a b : List Char} (h : Forks a b) (c d : List Char) :
    Forks (a ++ c) (b ++ d) := by
  obtain ⟨p, u, w, rfl, rfl⟩ := h
  exact ⟨p, u ++ c, w ++ d, by simp, by simp⟩

theorem Forks.prepend {a b : List Char} (h : Forks a b) (c : List Char) :
    Forks (c ++ a) (c ++ b) := by
  obtain ⟨p, u, w, rfl, rfl⟩ := h
  exact ⟨c ++ p, u, w, by simp, by simp⟩

/-! ## Texts that track data -/

/-- Two texts that fork if a marked string is among some data, and are the same if there is none. -/
inductive Tracks (data : List Datum) (a b : List Char) : Prop
  | forked (hm : data.any Datum.isMarked = true) (h : Forks a b)
  | same (hm : data.any Datum.isMarked = false) (h : a = b)

theorem Tracks.eq_iff {data : List Datum} {a b : List Char} (h : Tracks data a b) :
    a = b ↔ data.any Datum.isMarked = false := by
  cases h with
  | forked hm h => simp [h.ne, hm]
  | same hm h => simp [h, hm]

/-- What is written in both modes tracks nothing. -/
theorem tracks_nil (a : List Char) : Tracks [] a a := .same rfl rfl

theorem Tracks.append {data data' : List Datum} {a b c d : List Char} (h : Tracks data a b)
    (h' : Tracks data' c d) : Tracks (data ++ data') (a ++ c) (b ++ d) := by
  cases h with
  | forked hm h => exact .forked (by rw [List.any_append, hm, Bool.true_or]) (h.append c d)
  | same hm h =>
    subst h
    cases h' with
    | forked hm' h' => exact .forked (by rw [List.any_append, hm', Bool.or_true]) (h'.prepend a)
    | same hm' h' => exact .same (by rw [List.any_append, hm, hm', Bool.or_false]) (by rw [h'])

/-- The parts of a container that track data, one part after the other. -/
inductive TracksAll : List Datum → List (List Char) → List (List Char) → Prop
  | nil : TracksAll [] [] []
  | cons {data data' : List Datum} {a b : List Char} {as bs : List (List Char)}
      (h : Tracks data a b) (h' : TracksAll data' as bs) :
      TracksAll (data ++ data') (a :: as) (b :: bs)

theorem TracksAll.tracks_others {data : List Datum} {as bs : List (List Char)}
    (h : TracksAll data as bs) : Tracks data (others as) (others bs) := by
  induction h with
  | nil => exact tracks_nil _
  | cons h _ ih =>
    rw [others_cons, others_cons]
    exact (tracks_nil [',', ' ']).append (h.append ih)

theorem TracksAll.tracks_bracketed {data : List Datum} {as bs : List (List Char)}
    (h : TracksAll data as bs) : Tracks data (bracketed as) (bracketed bs) := by
  cases h with
  | nil => exact tracks_nil _
  | cons h h' =>
    rw [bracketed_cons, bracketed_cons]
    exact (tracks_nil ['[']).append (h.append h'.tracks_others)

/-! ## The literals of the two modes -/

theorem tracks_quoted (s : String) :
    Tracks [.text s] (quoted true s.toList) (quoted false s.toList) := by
  have hmarked : [Datum.text s].any Datum.isMarked = s.toList.any isMark := Bool.or_false _
  cases hm : s.toList.any isMark with
  | true =>
    have htrue : quoted true s.toList = quotedWith (longestPounds s.toList + 1) s.toList := by
      simp only [quoted, poundCount, hm, Bool.and_self, if_true]
    refine .forked (hmarked.trans hm) ?_
    rw [htrue]
    exact ⟨[], _, _, rfl, rfl⟩
  | false =>
    refine .same (hmarked.trans hm) ?_
    simp only [quoted, poundCount, hm, Bool.and_false, Bool.false_eq_true, if_false]

/-- The type name of a tag is no marked string. -/
theorem quoted_typeName (t : Tag) :
    quoted true t.typeName.toList = quoted false t.typeName.toList := by
  cases t with
  | rename => decide
  | other => decide

mutual

/-- **The two literals of a datum fork exactly if one of its leaves is a marked string.** -/
theorem tracks_text (v : Datum) : Tracks v.leaves (text true v) (text false v) := by
  cases v with
  | text s => exact tracks_quoted s
  | tag t => exact .same rfl (quoted_typeName t)
  | list items => exact (tracksAll_items items).tracks_bracketed
  | tuple items => exact (tracksAll_items items).tracks_bracketed
  | dict entries =>
    cases entries with
    | nil => exact tracks_nil _
    | cons e rest =>
      rw [text_dict_cons, text_dict_cons]
      exact (tracksAll_entries (e :: rest)).tracks_bracketed
  | null | bool | int | double | foreign => exact .same rfl rfl

theorem tracksAll_items (items : List Datum) :
    TracksAll (Datum.itemLeaves items) (itemTexts true items) (itemTexts false items) := by
  cases items with
  | nil => exact .nil
  | cons v rest => exact .cons (tracks_text v) (tracksAll_items rest)

theorem tracksAll_entries (entries : List (Datum × Datum)) :
    TracksAll (Datum.entryLeaves entries) (entryTexts true entries) (entryTexts false entries) := by
  cases entries with
  | nil => exact .nil
  | cons e rest =>
    obtain ⟨k, v⟩ := e
    have hentry := (tracks_text k).append ((tracks_nil [':', ' ']).append (tracks_text v))
    rw [Datum.entryLeaves, ← List.append_assoc]
    exact .cons hentry (tracksAll_entries rest)

end

/-! ## When the modes agree -/

theorem any_isMarked_leaves_iff (v : Datum) :
    v.leaves.any Datum.isMarked = false ↔
      ∀ s, (Datum.text s).IsPart v → '"' ∉ s.toList ∧ '\\' ∉ s.toList := by
  have hmark : ∀ s : String, (Datum.text s).isMarked = false ↔ '"' ∉ s.toList ∧ '\\' ∉ s.toList :=
    fun s => by rw [← not_or, ← any_isMark_iff, Bool.not_eq_true]; rfl
  rw [List.any_eq_false]
  constructor
  · intro h s hs
    exact (hmark s).1 (by simpa using h _ (Datum.mem_leaves_iff.2 ⟨rfl, hs⟩))
  · intro h x hx
    cases x with
    | text s => simpa using (hmark s).2 (h s (Datum.mem_leaves_iff.1 hx).2)
    | null | bool | int | double | tag | list | tuple | dict | foreign => exact Bool.false_ne_true

/-- **The two modes agree exactly if no string anywhere in the datum has a quotation mark or a
backslash**, provided that the datum has a literal. -/
theorem render_true_eq_render_false_iff {custom : Bool} {v : Datum} {t : List Char}
    (h : render custom v = .ok t) :
    render true v = render false v ↔
      ∀ s, (Datum.text s).IsPart v → '"' ∉ s.toList ∧ '\\' ∉ s.toList := by
  have hv : v.HasLiteral := (hasLiteral_of_render h).1
  rw [render_eq, render_eq, hv.firstFault?, ← any_isMarked_leaves_iff, ← (tracks_text v).eq_iff]
  simp only [settle, Except.ok.injEq]

/-- The only mark is in a component of a key. -/
theorem render_true_eq_render_false_iff_key :
    let v := Datum.dict [(.tuple [.int (-1), .text "C:\\"], .list [.text "#", .null])]
    render false v = .ok "[[-1, \"C:\\\\\"]: [\"#\", nil]]".toList ∧
      (render true v = render false v ↔
        ∀ s, (Datum.text s).IsPart v → '"' ∉ s.toList ∧ '\\' ∉ s.toList) := by
  intro v
  have h : render false v = .ok "[[-1, \"C:\\\\\"]: [\"#\", nil]]".toList := by rfl
  exact ⟨h, render_true_eq_render_false_iff h⟩

end Literal

end SwiftText
