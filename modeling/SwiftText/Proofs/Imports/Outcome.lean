import SwiftText.Proofs.Imports
import SwiftText.Proofs.Literal.Number

/-!
# The outcome of importing values

Whatever stands in a list of imports, one of two things happens. With a list or a record in it there
is no text at all, only the fault of the first of these. Otherwise there is a statement for each
class of equal items, with the text of the first item of the class. Two classes may have the same
text, such as the integer 1 and the text of its digit.

* `Value.Compound`: the values that cannot be looked up, and the names of their types.
* `ofValue_list_compound`: the first of them decides.
* `ofValue_list_of_isKey`: the statements if there is none of them.
* `lines?_statements`: each statement is one line.
* `ofValue_items`: the outcome for a list of values.
-/

namespace SwiftText

namespace Value

/-- The values that cannot be looked up, with the names of their types. -/
inductive Compound : Value → String → Prop
  | list (items : List Value) : Compound (.list items) "list"
  | record (fields : List (String × Value)) : Compound (.record fields) "dict"

theorem isKey_eq_false_iff {v : Value} : v.isKey = false ↔ ∃ type, v.Compound type := by
  constructor
  · intro h
    cases v with
    | null | bool | int | text => cases h
    | list items => exact ⟨_, .list items⟩
    | record fields => exact ⟨_, .record fields⟩
  · rintro ⟨type, items | fields⟩ <;> rfl

theorem isKey_iff {v : Value} : v.isKey = true ↔ ∀ type, ¬v.Compound type := by
  rw [← not_exists, ← isKey_eq_false_iff, Bool.not_eq_false]

theorem Compound.typeName {v : Value} {type : String} (h : v.Compound type) :
    v.typeName = type := by
  cases h <;> rfl

end Value

namespace Imports

variable {vs : List Value}

/-! ## A value that cannot be looked up -/

/-- **The first value that cannot be looked up decides**, whatever comes after it. -/
theorem ofValue_list_compound {before after : List Value} {v : Value} {type : String}
    (hbefore : ∀ w ∈ before, w.isKey = true) (hv : v.Compound type) :
    ofValue (.list (before ++ v :: after)) = .error (.notKey type) := by
  have hkey : v.isKey = false := Value.isKey_eq_false_iff.2 ⟨type, hv⟩
  have hfind : (before ++ v :: after).find? (!·.isKey) = some v :=
    List.find?_eq_some_iff_append.2 ⟨by simp [hkey], before, after, rfl, by simpa using hbefore⟩
  rw [ofValue_list_eq_map, ofItems, hfind, ← hv.typeName]
  rfl

/-- A list in which something cannot be looked up has a first value of that kind. -/
theorem exists_first_compound (h : ¬∀ v ∈ vs, v.isKey = true) :
    ∃ before v after type, vs = before ++ v :: after ∧ (∀ w ∈ before, w.isKey = true) ∧
      v.Compound type := by
  cases hfind : vs.find? (!·.isKey) with
  | none => exact absurd (by simpa using hfind) h
  | some v =>
    obtain ⟨hv, before, after, hvs, hbefore⟩ := List.find?_eq_some_iff_append.1 hfind
    obtain ⟨type, htype⟩ := Value.isKey_eq_false_iff.1 (by simpa using hv)
    exact ⟨before, v, after, type, hvs, by simpa using hbefore, htype⟩

/-! ## Values that can all be looked up -/

/-- **The statements are those of the first items of the classes.** -/
theorem ofValue_list_of_isKey (hkeys : ∀ v ∈ vs, v.isKey = true)
    (hdigits : ∀ n : Int, .int n ∈ vs → Decimal.isTooLong n = false) :
    ofValue (.list vs) = .ok (.text (String.ofList
      (Lines.join ((Value.firsts vs).map fun i => line (vs.get i)) ++ ['\n']))) := by
  rw [ofValue_list_eq_map, ofItems_of_isKey hkeys hdigits, render, Value.distinct_eq_map_firsts,
    List.map_map]
  rfl

/-- **There is a fault if something cannot be looked up**, and for no other reason when no integer
has too many digits. -/
theorem exists_ofValue_list_eq_error_iff
    (hdigits : ∀ n : Int, .int n ∈ vs → Decimal.isTooLong n = false) :
    (∃ f, ofValue (.list vs) = .error f) ↔ ∃ v ∈ vs, ∃ type, v.Compound type := by
  by_cases hkeys : ∀ v ∈ vs, v.isKey = true
  · refine iff_of_false ?_ ?_
    · rintro ⟨f, hf⟩
      rw [ofValue_list_of_isKey hkeys hdigits] at hf
      cases hf
    · rintro ⟨v, hv, type, htype⟩
      exact Value.isKey_iff.1 (hkeys v hv) type htype
  · obtain ⟨before, v, after, type, rfl, hbefore, hv⟩ := exists_first_compound hkeys
    exact iff_of_true ⟨_, ofValue_list_compound hbefore hv⟩ ⟨v, by simp, type, hv⟩

/-! ## Lines -/

theorem newline_not_mem_ofInt (n : Int) : '\n' ∉ Decimal.ofInt n := by
  have hdigits : '\n' ∉ Decimal.ofNat n.natAbs := fun h =>
    absurd (Literal.isDigit_of_mem_ofNat h) (by decide)
  unfold Decimal.ofInt
  split
  · exact List.not_mem_cons_of_ne_of_not_mem (by decide) hdigits
  · exact hdigits

theorem newline_not_mem_display {v : Value} (hkey : v.isKey = true)
    (htext : ∀ x, v = .text x → '\n' ∉ x.toList) : '\n' ∉ v.display.toList := by
  cases v with
  | null => simp [Value.display, Value.displayInner]
  | bool b => cases b <;> simp [Value.display, Value.displayInner]
  | int n => simpa [Value.display, Value.displayInner] using newline_not_mem_ofInt n
  | text s => exact htext s rfl
  | list | record => cases hkey

theorem line_ne_nil (v : Value) : line v ≠ [] := by
  unfold line
  simp

theorem newline_not_mem_line {v : Value} (hkey : v.isKey = true)
    (htext : ∀ x, v = .text x → '\n' ∉ x.toList) : '\n' ∉ line v := by
  have hdisplay := newline_not_mem_display hkey htext
  unfold line
  simpa using hdisplay

/-- **Each statement is one line** if no text has an LF. -/
theorem lines?_statements (hkeys : ∀ v ∈ vs, v.isKey = true)
    (htexts : ∀ x : String, .text x ∈ vs → '\n' ∉ x.toList) (is : List (Fin vs.length)) :
    lines? (Lines.join (is.map fun i => line (vs.get i)) ++ ['\n']) =
      some (is.map fun i => line (vs.get i)) := by
  refine lines?_join (fun l hl => ?_) (fun l hl => ?_)
  · obtain ⟨i, -, rfl⟩ := List.mem_map.1 hl
    exact line_ne_nil _
  · obtain ⟨i, -, rfl⟩ := List.mem_map.1 hl
    have hmem : vs.get i ∈ vs := List.get_mem vs i
    exact newline_not_mem_line (hkeys _ hmem) fun x hx => htexts x (hx ▸ hmem)

/-! ## The outcome -/

/-- **The import statements of a list of values** whose integers have at most 4300 digits. There is
a fault exactly if there is a list or a record among them: a type error that names the type of the
first one, whatever comes before and after it. Otherwise there is one statement for each class of
equal items, in the order in which the classes come up, with the text of the first item of the class.
Equal are the same values, and truth values and integers that count as the same integer. If no text
has an LF, each statement is one line. -/
theorem ofValue_items (vs : List Value)
    (hdigits : ∀ n : Int, .int n ∈ vs → (Decimal.ofNat n.natAbs).length ≤ Decimal.digitLimit) :
    ((∃ f, ofValue (.list vs) = .error f) ↔ ∃ v ∈ vs, ∃ type, v.Compound type) ∧
      (∀ before v after type, vs = before ++ v :: after →
        (∀ w ∈ before, ∀ type, ¬w.Compound type) → v.Compound type →
        ofValue (.list vs) = .error (.notKey type)) ∧
      (∀ type, (Fault.notKey type).errorClass = "TypeError" ∧
        (Fault.notKey type).message? = some ("unhashable type: '" ++ type ++ "'")) ∧
      ((∀ v ∈ vs, ∀ type, ¬v.Compound type) →
        (∀ v ∈ vs, ∀ w,
          v.same w = true ↔ v = w ∨ ∃ n, v.toInt? = some n ∧ w.toInt? = some n) ∧
        ∃ is ls s, Value.Representatives vs is ∧
          ls = is.map (fun i => "import ".toList ++ (vs.get i).display.toList) ∧
          ofValue (.list vs) = .ok (.text s) ∧ s.toList = Lines.join ls ++ ['\n'] ∧
          ((∀ x : String, .text x ∈ vs → '\n' ∉ x.toList) → lines? s.toList = some ls)) := by
  have hshort : ∀ n : Int, .int n ∈ vs → Decimal.isTooLong n = false := fun n hn =>
    decide_eq_false (Nat.not_lt.2 (hdigits n hn))
  refine ⟨exists_ofValue_list_eq_error_iff hshort, ?_, fun _ => ⟨rfl, rfl⟩, fun hnone => ?_⟩
  · rintro before v after type rfl hbefore hv
    exact ofValue_list_compound (fun w hw => Value.isKey_iff.2 (hbefore w hw)) hv
  · have hkeys : ∀ v ∈ vs, v.isKey = true := fun v hv => Value.isKey_iff.2 (hnone v hv)
    refine ⟨fun v hv w => Value.same_iff_of_isKey (hkeys v hv), Value.firsts vs, _, _,
      Value.representatives_firsts fun v hv => Value.wellFormed_of_isKey (hkeys v hv), rfl,
      ofValue_list_of_isKey hkeys hshort, ?_⟩
    rw [String.toList_ofList]
    exact ⟨rfl, fun htexts => lines?_statements hkeys htexts _⟩

/-- An integer after the text of its digit and before the truth value that equals it, and what comes
of the same items with a record and a list after them. -/
theorem ofValue_items_mixed :
    let vs := [Value.text "1", .int 1, .bool true, .bool false, .int 0, .null]
    let ws := vs ++ .record [] :: [.int (-1), .list []]
    (∀ n : Int, .int n ∈ ws → (Decimal.ofNat n.natAbs).length ≤ Decimal.digitLimit) ∧
      (∀ v ∈ vs, ∀ type, ¬v.Compound type) ∧ (Value.record []).Compound "dict" ∧
      (∀ x : String, .text x ∈ vs → '\n' ∉ x.toList) ∧
      ofValue (.list ws) = .error (.notKey "dict") ∧
      ∃ s, ofValue (.list vs) = .ok (.text s) ∧
        lines? s.toList =
          some (["import 1", "import 1", "import False", "import None"].map String.toList) := by
  intro vs ws
  have hdigits : ∀ n : Int, .int n ∈ ws → (Decimal.ofNat n.natAbs).length ≤ Decimal.digitLimit := by
    intro n hn
    have hn' : n = 1 ∨ n = 0 ∨ n = -1 := by simpa [ws, vs] using hn
    rcases hn' with rfl | rfl | rfl <;> decide
  have hkeys : ∀ v ∈ vs, v.isKey = true := by decide
  have hnone : ∀ v ∈ vs, ∀ type, ¬v.Compound type := fun v hv => Value.isKey_iff.1 (hkeys v hv)
  have htexts : ∀ x : String, .text x ∈ vs → '\n' ∉ x.toList := by
    intro x hx
    obtain rfl : x = "1" := by simpa [vs] using hx
    decide
  obtain ⟨-, hfault, -⟩ := ofValue_items ws hdigits
  obtain ⟨-, -, -, htext⟩ :=
    ofValue_items vs fun n hn => hdigits n (List.mem_append_left _ hn)
  obtain ⟨-, is, ls, s, his, hls, hs, -, hlines⟩ := htext hnone
  have hfirsts : is = [0, 1, 3, 5] :=
    (his.eq_firsts fun v hv => Value.wellFormed_of_isKey (hkeys v hv)).trans (by decide)
  have hdict : ofValue (.list ws) = .error (.notKey "dict") :=
    hfault vs (.record []) _ "dict" rfl hnone (.record [])
  rw [hfirsts] at hls
  refine ⟨hdigits, hnone, .record [], htexts, hdict, s, hs, (hlines htexts).trans ?_⟩
  rw [hls]
  decide

end Imports

end SwiftText
