import SwiftText.Proofs.Declaration.Edit
import SwiftText.Proofs.Session.Write

/-!
# Edits over runs

The first annotation of a kind is found throughout a run, whatever is added after it or deleted
around it, until it is deleted itself (`firstOfKind?_after`). So no annotation that comes later takes
over a renaming, or cancels it.
-/

namespace SwiftText

open Registry

namespace Session

variable {s : Session} {declaration : String} {c : Nat} {d : Declaration}

theorem snd_step_findTagged (hfind : s.declarations.find declaration = .ok (c, d))
    (typeName : Value) {a : Annotation} (h : d.firstTagged? (Tag.ofTypeName typeName) = some a) :
    (s.step (.findTagged declaration typeName)).2 = .ok a.toValue := by
  simp only [step, attempt, hfind, bind, Except.bind, h]
  rfl

theorem snd_step_explicitName (hfind : s.declarations.find declaration = .ok (c, d)) :
    (s.step (.explicitName declaration)).2 = .ok (optionalText d.explicitName?) := by
  simp only [step, attempt, hfind, bind, Except.bind]
  rfl

end Session

open Annotation in
/-- **Annotations over runs.** The first annotation of a kind is found at every moment of a run that
does not delete it, by whatever index and among whatever other steps; it stands where the deletions
before it have left it. A renaming annotation that is found first gives the same name, or none, all
the while. -/
theorem firstOfKind?_after (before now later : List Step) (c : Nat) (d : Declaration) (k : Value)
    (a : Annotation) :
    let J := Journal.ofSteps before
    let p := d.annotations.findIdx (hasKind k)
    let rename : Value := .text Tag.rename.typeName
    (Session.after {} before).declarations.get? c = some d → d.firstOfKind? k = some a →
    d.movedBy? p (J.writtenTo c (now ++ later)) ≠ none →
    let s := Session.after {} (before ++ now)
    ∃ e q, s.declarations.get? c = some e ∧ d.movedBy? p (J.writtenTo c now) = some q ∧
      e.annotations[q]? = some a ∧ e.firstOfKind? k = some a ∧
      (k = rename → e.explicitName? = d.explicitName?) ∧
      ∀ declaration, s.declarations.handle? declaration = some c →
        (∀ typeName, k = .text (Tag.ofTypeName typeName).typeName →
          (s.step (.findTagged declaration typeName)).2 = .ok a.toValue) ∧
        (k = rename → (s.step (.explicitName declaration)).2 =
          .ok (Session.optionalText d.explicitName?)) := by
  intro J p rename hd ha hkept s
  rw [Journal.after_eq_session, Journal.declarations_session, Log.get?_replay] at hd
  have hs : s = (now.foldl Journal.record J).session := by
    rw [← Journal.ofSteps_append]
    exact Journal.after_eq_session _
  -- the annotation is not deleted up to now, since it is not deleted later either
  obtain ⟨q, hq⟩ : ∃ q, d.movedBy? p (J.writtenTo c now) = some q := by
    rw [Journal.writtenTo_append, Declaration.movedBy?_append] at hkept
    refine Option.ne_none_iff_exists'.1 fun hnone => hkept ?_
    rw [hnone, Option.bind_none]
  have hleads := (Declaration.leads_iff.2 ⟨ha, rfl⟩).writeAll hq
  obtain ⟨hfound, -⟩ := Declaration.leads_iff.1 hleads
  set e := d.writeAll (J.writtenTo c now)
  have he : s.declarations.get? c = some e := by
    rw [hs, Journal.declarations_session, Log.get?_replay]
    exact Journal.content?_declarations_run hd now
  have hexplicit : k = rename → e.explicitName? = d.explicitName? := by
    rintro rfl
    rw [e.explicitName?_eq_firstOfKind?_bind, d.explicitName?_eq_firstOfKind?_bind, hfound, ha]
  refine ⟨e, q, he, hq, hleads.getElem?, hfound, hexplicit, fun declaration hname => ?_⟩
  have hfind : s.declarations.find declaration = .ok (c, e) := by
    simp only [Registry.find, hname, he]
  constructor
  · rintro typeName rfl
    exact Session.snd_step_findTagged hfind typeName ((e.firstOfKind?_typeName _).symm.trans hfound)
  · intro hk
    rw [Session.snd_step_explicitName hfind, hexplicit hk]

/-- A renaming annotation keeps its declaration's name while the one before it is deleted from the
front and one after it from the end, while a deletion fails, and while another name is added. -/
theorem firstOfKind?_after_deletions :
    let rename : Annotation := .tagged .rename (.text "First")
    let d : Declaration :=
      { sort := .typeAlias, name := .text "alias",
        annotations := [.tagged .other (.text "Ignored"), rename, .tagged .other .null] }
    let before : List Step := [.declare "t" .typeAlias (.text "alias") d.annotations none none]
    let now : List Step :=
      [.annotate "t" (.tagged .rename (.text "Second")), .unannotate "t" 0, .unannotate "t" (-2),
        .unannotate "t" 7]
    let s := Session.after {} (before ++ now)
    (s.step (.findTagged "t" (.text "swift.Name"))).2 = .ok rename.toValue ∧
      (s.step (.explicitName "t")).2 = .ok (.text "First") := by
  intro rename d before now s
  obtain ⟨e, q, -, -, -, -, -, hreplies⟩ :=
    firstOfKind?_after before now [] 0 d (.text "swift.Name") rename rfl rfl (by decide)
  obtain ⟨hfound, hname⟩ := hreplies "t" rfl
  exact ⟨hfound _ rfl, (hname rfl).trans rfl⟩

end SwiftText
