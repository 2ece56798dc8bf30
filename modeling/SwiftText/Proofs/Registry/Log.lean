import SwiftText.Registry

/-!
# Logs of registries

What has happened to a registry, as a log: objects were made, each under a name or under none, and
things were written to them. The log tells what a name is bound to and what an object holds, without
the states in between.

* `Log.bound?`: the object last made under a name.
* `Log.made?`, `Log.writes`: what an object was made as, and what has been written to it.
* `Log.content?`: what it holds now.
* `Log.replay`: the registry that a log leads to. What is found there is what the log tells
  (`handle?_replay`, `get?_replay`).
-/

namespace SwiftText.Registry

/-! ## Changes that come to the same -/

/-- Only what a change makes of the object that it is applied to matters. -/
theorem modify_congr {α : Type} {r : Registry α} {i : Nat} {x : α} {f g : α → α}
    (hx : r.get? i = some x) (h : f x = g x) : r.modify i f = r.modify i g := by
  have hobjects : r.objects.modify i f = r.objects.modify i g := by
    refine List.ext_getElem? fun j => ?_
    rw [List.getElem?_modify, List.getElem?_modify]
    by_cases hij : i = j
    · rw [get?, hij] at hx
      simp [hx, hij, h]
    · simp [hij]
  rw [modify, modify, hobjects]

theorem modify_eq_self {α : Type} {r : Registry α} {i : Nat} {x : α} {f : α → α}
    (hx : r.get? i = some x) (h : f x = x) : r.modify i f = r := by
  rw [modify_congr (g := id) hx h, modify, List.modify_id]

/-! ## Logs -/

/-- What has happened to a registry of objects `α`, to which `β` can be written. -/
inductive Log (α β : Type) where
  | empty
  /-- Then an object was made, under a name or under none. -/
  | made (log : Log α β) (name : Option String) (x : α)
  /-- Then something was written to an object. -/
  | written (log : Log α β) (i : Nat) (w : β)

namespace Log

variable {α β : Type} {act : β → α → α} {log : Log α β} {i j : Nat}

/-- The number of objects, which are counted in the order of their making. -/
def size : Log α β → Nat
  | empty => 0
  | made log _ _ => log.size + 1
  | written log _ _ => log.size

/-- The object last made under a name. -/
def bound? : Log α β → String → Option Nat
  | empty, _ => none
  | made log other _, name => if other = some name then some log.size else log.bound? name
  | written log _ _, name => log.bound? name

/-- What an object was made as. -/
def made? : Log α β → Nat → Option α
  | empty, _ => none
  | made log _ x, i => if i = log.size then some x else log.made? i
  | written log _ _, i => log.made? i

/-- What has been written to an object, the latest first. -/
def writes : Log α β → Nat → List β
  | empty, _ => []
  | made log _ _, i => if i = log.size then [] else log.writes i
  | written log j w, i => if i = j then w :: log.writes i else log.writes i

/-- What an object holds: what it was made as, changed by what has been written to it, in order. -/
def content? (act : β → α → α) (log : Log α β) (i : Nat) : Option α :=
  (log.made? i).map fun x => (log.writes i).foldr act x

/-- The registry that a log leads to. -/
def replay (act : β → α → α) : Log α β → Registry α
  | empty => {}
  | made log none x => (log.replay act).add x
  | made log (some name) x => (log.replay act).create name x
  | written log i w => (log.replay act).modify i (act w)

/-! ## Objects that exist -/

theorem made?_isSome_iff : (log.made? i).isSome = true ↔ i < log.size := by
  induction log with
  | empty => simp [made?, size]
  | made log name x ih =>
    rw [made?, size]
    split
    · next h => simp [h]
    · rw [ih]
      omega
  | written log j w ih => exact ih

theorem exists_made?_of_lt (h : i < log.size) : ∃ x, log.made? i = some x :=
  Option.isSome_iff_exists.1 (made?_isSome_iff.2 h)

theorem lt_size_of_made? {x : α} (h : log.made? i = some x) : i < log.size :=
  made?_isSome_iff.1 (by rw [h]; rfl)

/-- A name is bound to an object that exists. -/
theorem lt_size_of_bound? {name : String} (h : log.bound? name = some i) : i < log.size := by
  induction log with
  | empty => cases h
  | made log other x ih =>
    rw [bound?] at h
    rw [size]
    split at h
    · obtain rfl := Option.some.inj h
      omega
    · exact Nat.lt_succ_of_lt (ih h)
  | written log j w ih => exact ih h

/-! ## One more entry -/

theorem made?_made_size (log : Log α β) (name : Option String) (x : α) :
    (log.made name x).made? log.size = some x := by
  rw [made?, if_pos rfl]

theorem made?_made_of_ne (name : Option String) (x : α) (h : i ≠ log.size) :
    (log.made name x).made? i = log.made? i := by
  rw [made?, if_neg h]

theorem writes_made_size (log : Log α β) (name : Option String) (x : α) :
    (log.made name x).writes log.size = [] := by
  rw [writes, if_pos rfl]

theorem writes_made_of_ne (name : Option String) (x : α) (h : i ≠ log.size) :
    (log.made name x).writes i = log.writes i := by
  rw [writes, if_neg h]

theorem writes_written_self (log : Log α β) (i : Nat) (w : β) :
    (log.written i w).writes i = w :: log.writes i := by
  rw [writes, if_pos rfl]

theorem writes_written_of_ne (w : β) (h : i ≠ j) : (log.written j w).writes i = log.writes i := by
  rw [writes, if_neg h]

theorem bound?_made_self (log : Log α β) (name : String) (x : α) :
    (log.made (some name) x).bound? name = some log.size := by
  rw [bound?, if_pos rfl]

theorem bound?_made_of_ne {name : String} {other : Option String} (x : α) (h : other ≠ some name) :
    (log.made other x).bound? name = log.bound? name := by
  rw [bound?, if_neg h]

/-- An object that is made later takes no name for one that exists. -/
theorem bound?_made_ne {name : String} (other : Option String) (x : α) (hi : i < log.size)
    (h : log.bound? name ≠ some i) : (log.made other x).bound? name ≠ some i := by
  rw [bound?]
  split
  · exact fun hsize => Nat.ne_of_gt hi (Option.some.inj hsize)
  · exact h

theorem content?_made_of_ne (name : Option String) (x : α) (h : i ≠ log.size) :
    (log.made name x).content? act i = log.content? act i := by
  rw [content?, made?_made_of_ne name x h, writes_made_of_ne name x h, content?]

theorem content?_written_self (log : Log α β) (i : Nat) (w : β) :
    (log.written i w).content? act i = (log.content? act i).map (act w) := by
  rw [content?, writes_written_self, made?, content?, Option.map_map]
  rfl

theorem content?_written_of_ne (w : β) (h : i ≠ j) :
    (log.written j w).content? act i = log.content? act i := by
  rw [content?, writes_written_of_ne w h, made?, content?]

theorem lt_size_of_content? {x : α} (h : log.content? act i = some x) : i < log.size := by
  obtain ⟨y, hy, -⟩ := Option.map_eq_some_iff.1 h
  exact lt_size_of_made? hy

theorem exists_content?_of_lt (act : β → α → α) (h : i < log.size) :
    ∃ x, log.content? act i = some x := by
  obtain ⟨x, hx⟩ := exists_made?_of_lt h
  exact ⟨_, by rw [content?, hx, Option.map_some]⟩

/-! ## The registry that a log leads to -/

theorem fresh_replay (act : β → α → α) (log : Log α β) : (log.replay act).fresh = log.size := by
  induction log with
  | empty => rfl
  | made log name x ih =>
    cases name with
    | none => simpa [replay, fresh, add, size] using ih
    | some name => simpa [replay, fresh, create, add, size] using ih
  | written log i w ih => simpa [replay, fresh, modify, size] using ih

/-- **A name is bound to the object last made under it.** -/
theorem handle?_replay (act : β → α → α) (log : Log α β) (name : String) :
    (log.replay act).handle? name = log.bound? name := by
  induction log with
  | empty => rfl
  | made log other x ih =>
    cases other with
    | none =>
      rw [bound?_made_of_ne x (by simp)]
      exact ih
    | some other =>
      by_cases h : other = name
      · rw [h, replay, handle?_create_self, fresh_replay, bound?_made_self]
      · have hne : some other ≠ some name := by simpa using h
        rw [replay, handle?_create_of_ne _ x (Ne.symm h), ih, bound?_made_of_ne x hne]
  | written log i w ih => exact ih

theorem get?_add_replay (log : Log α β) (x : α) (i : Nat) :
    ((log.replay act).add x).get? i = if i = log.size then some x else (log.replay act).get? i := by
  split
  · next h => rw [h, ← fresh_replay act log, get?_add_fresh]
  · next h =>
    rcases Nat.lt_or_gt_of_ne h with hlt | hgt
    · exact get?_add_of_lt _ x (by rwa [fresh_replay])
    · rw [← fresh_replay act log, fresh] at hgt
      have hadd : ((log.replay act).add x).objects.length ≤ i := by
        rw [add, List.length_append, List.length_singleton]
        omega
      rw [get?, get?, List.getElem?_eq_none hadd, List.getElem?_eq_none (by omega)]

/-- **An object holds what it was made as, changed by what has been written to it.** -/
theorem get?_replay (act : β → α → α) (log : Log α β) (i : Nat) :
    (log.replay act).get? i = log.content? act i := by
  induction log with
  | empty => rfl
  | made log name x ih =>
    have hadd : ((log.made name x).replay act).get? i = ((log.replay act).add x).get? i := by
      cases name <;> rfl
    rw [hadd, get?_add_replay, ih]
    split
    · next h => rw [h, content?, made?_made_size, writes_made_size, Option.map_some, List.foldr_nil]
    · next h => rw [content?_made_of_ne name x h]
  | written log j w ih =>
    rw [replay]
    by_cases h : i = j
    · rw [h, get?_modify_self, content?_written_self, ← h, ih]
    · rw [get?_modify_of_ne _ _ (Ne.symm h), content?_written_of_ne w h, ih]

end Log

end SwiftText.Registry
