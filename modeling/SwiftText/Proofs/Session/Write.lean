import SwiftText.Proofs.Session.Journal

/-!
# What runs write to declarations

A declaration that exists changes by what is written to it, and by nothing else: not by what is
written to others, nor when its name is bound to another one.

* `Declaration.writeAll`: a declaration after several things are written to it.
* `Journal.written`, `Journal.writtenTo`: what a step and a run write to a declaration.
* `Journal.content?_declarations_record`, `Journal.content?_declarations_run`: what becomes of it.
-/

namespace SwiftText

open Registry

/-- A declaration after several things are written to it, in order. -/
def Declaration.writeAll (d : Declaration) (ws : List Write) : Declaration :=
  ws.foldl (fun d w => write w d) d

namespace Journal

/-- What a step writes, and to the declaration of which name. -/
def write? (J : Journal) : Step → Option (String × Declaration.Write)
  | .rename declaration name => some (declaration, .name name)
  | .enclose declaration target => (J.target? target).map fun t => (declaration, .link .enclosing t)
  | .designate declaration target =>
    (J.target? target).map fun t => (declaration, .link .moduleClass t)
  | .annotate declaration added => some (declaration, .annotated added)
  | .unannotate declaration index => some (declaration, .deletion index)
  | _ => none

/-- What a step writes to the declaration with a handle. -/
def written (J : Journal) (c : Nat) (x : Step) : List Declaration.Write :=
  match J.write? x with
  | none => []
  | some (declaration, w) => if J.declarations.bound? declaration = some c then [w] else []

/-- What steps write to the declaration with a handle, in order. -/
def writtenTo (c : Nat) : Journal → List Step → List Declaration.Write
  | _, [] => []
  | J, x :: steps => J.written c x ++ writtenTo c (J.record x) steps

variable {J : Journal} {c : Nat} {d : Declaration}

theorem writtenTo_append (J : Journal) (c : Nat) (now later : List Step) :
    J.writtenTo c (now ++ later) =
      J.writtenTo c now ++ (now.foldl record J).writtenTo c later := by
  induction now generalizing J with
  | nil => rfl
  | cons x now ih =>
    rw [List.cons_append, writtenTo, writtenTo, ih, List.append_assoc, List.foldl_cons]

theorem exists_write?_of_mem_written {x : Step} {w : Declaration.Write} (h : w ∈ J.written c x) :
    ∃ declaration, J.write? x = some (declaration, w) ∧
      J.declarations.bound? declaration = some c := by
  rw [written] at h
  split at h
  · cases h
  · next declaration w' hx =>
    split at h
    · next hname =>
      obtain rfl := List.mem_singleton.1 h
      exact ⟨declaration, hx, hname⟩
    · cases h

theorem record_of_write? {x : Step} {declaration : String} {w : Declaration.Write}
    (h : J.write? x = some (declaration, w)) : J.record x = J.write declaration w := by
  cases x with
  | rename _ _ => cases h; rfl
  | annotate _ _ => cases h; rfl
  | unannotate _ _ => cases h; rfl
  | enclose _ target =>
    obtain ⟨t, ht, hw⟩ := Option.map_eq_some_iff.1 h
    cases hw
    rw [record, link, ht]
  | designate _ target =>
    obtain ⟨t, ht, hw⟩ := Option.map_eq_some_iff.1 h
    cases hw
    rw [record, link, ht]
  | _ => cases h

theorem content?_write_of_ne {declaration : String}
    (h : J.declarations.bound? declaration ≠ some c) (w : Declaration.Write) :
    (J.write declaration w).declarations.content? Declaration.write c =
      J.declarations.content? Declaration.write c := by
  rw [write]
  cases hname : J.declarations.bound? declaration with
  | none => rfl
  | some i =>
    have hne : c ≠ i := by
      rintro rfl
      exact h hname
    exact Log.content?_written_of_ne w hne

/-- A step that writes nothing to declarations leaves those that exist as they are. -/
theorem content?_record_of_write?_eq_none {x : Step} (h : J.write? x = none)
    (hd : J.declarations.content? Declaration.write c = some d) :
    (J.record x).declarations.content? Declaration.write c = some d := by
  cases x with
  | declare id sort name annotations enclosing moduleClass =>
    have hne : c ≠ J.declarations.size := Nat.ne_of_lt (Log.lt_size_of_content? hd)
    rw [record]
    split
    · exact (Log.content?_made_of_ne _ _ hne).trans hd
    · exact hd
  | enclose _ target =>
    rw [record, link, Option.map_eq_none_iff.1 h]
    exact hd
  | designate _ target =>
    rw [record, link, Option.map_eq_none_iff.1 h]
    exact hd
  | configure id entries =>
    rw [record]
    split <;> exact hd
  | assign id key value =>
    rw [record]
    split <;> exact hd
  | makeResolver id options =>
    cases options with
    | none => exact hd
    | some name =>
      rw [record]
      split <;> exact hd
  | rename _ _ => cases h
  | annotate _ _ => cases h
  | unannotate _ _ => cases h
  | _ => exact hd

/-- A step changes a declaration by what it writes to it, and by nothing else. -/
theorem content?_declarations_record
    (hd : J.declarations.content? Declaration.write c = some d) (x : Step) :
    (J.record x).declarations.content? Declaration.write c =
      some (d.writeAll (J.written c x)) := by
  rw [written]
  cases hx : J.write? x with
  | none => exact content?_record_of_write?_eq_none hx hd
  | some r =>
    obtain ⟨declaration, w⟩ := r
    rw [record_of_write? hx]
    dsimp only
    by_cases hname : J.declarations.bound? declaration = some c
    · rw [if_pos hname, write, hname]
      exact (Log.content?_written_self ..).trans (by rw [hd]; rfl)
    · rw [if_neg hname]
      exact (content?_write_of_ne hname w).trans hd

/-- **A run changes a declaration that exists by what it writes to it**, and by nothing else. -/
theorem content?_declarations_run
    (hd : J.declarations.content? Declaration.write c = some d) (steps : List Step) :
    (steps.foldl record J).declarations.content? Declaration.write c =
      some (d.writeAll (J.writtenTo c steps)) := by
  induction steps generalizing J d with
  | nil => exact hd
  | cons x steps ih =>
    rw [writtenTo, Declaration.writeAll, List.foldl_append]
    exact ih (content?_declarations_record hd x)

end Journal

end SwiftText
