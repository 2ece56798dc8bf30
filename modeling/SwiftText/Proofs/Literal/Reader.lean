import SwiftText.Proofs.Literal.Number
import SwiftText.Proofs.Literal.Outcome
import SwiftText.Proofs.Literal.Quoted

/-!
# Literals read back

A reader for the literals of data, and the proof that it gives back what was written.

* `Reading` is what a literal says, and `Datum.reading` what the literal of a datum should say: a
  tuple is read as an array, a tag as its type name, and a double as its token. Nothing else is
  identified.
* `Reader.read?` reads one literal from the start of a text: names and numbers up to the first
  character that belongs to neither, strings by the lexer for string literals, and what stands
  between brackets item by item.
* `read?_text`: the reader takes exactly the literal of a datum off the start of a text that goes on
  after a value, and returns the reading of the datum.
* `read?_render`: so every datum whose leaves have literals is written, and read back; and two data
  with the same literal have the same reading.
-/

namespace SwiftText

/-! ## Readings -/

namespace Literal

/-- What a literal says. A double is kept as its token. -/
inductive Reading where
  | null
  | bool (b : Bool)
  | int (n : Int)
  | double (token : List Char)
  | text (s : List Char)
  | list (items : List Reading)
  | dict (entries : List (Reading × Reading))

end Literal

namespace Datum

open Literal (Reading)

variable (token : Decimal.Double → List Char)

mutual

/-- What the literal of a datum says, when `token` gives the tokens of doubles. -/
def reading : Datum → Reading
  | .null => .null
  | .bool b => .bool b
  | .int n => .int n
  | .double x => .double (token x)
  | .text s => .text s.toList
  | .tag t => .text t.typeName.toList
  | .list items => .list (itemReadings items)
  | .tuple items => .list (itemReadings items)
  | .dict entries => .dict (entryReadings entries)
  | .foreign _ => .null

/-- What the literals of the items of an array say. -/
def itemReadings : List Datum → List Reading
  | [] => []
  | v :: rest => reading v :: itemReadings rest

/-- What the literals of the entries of a dictionary say. -/
def entryReadings : List (Datum × Datum) → List (Reading × Reading)
  | [] => []
  | (k, v) :: rest => (reading k, reading v) :: entryReadings rest

end

end Datum

namespace Literal

/-! ## The reader -/

namespace Reader

/-- The characters of names and numbers. -/
def isAtomChar (c : Char) : Bool := c.isAlphanum || c == '-' || c == '+' || c == '.'

/-- Reads decimal digits, at least one. -/
def digits? (s : List Char) : Option Nat :=
  if s ≠ [] ∧ s.all (Radix.isDigitOf 10) = true then some (Radix.ofDigits 10 s) else none

/-- Reads an integer. -/
def integer? : List Char → Option Int
  | '-' :: s => (digits? s).map fun (n : Nat) => -(n : Int)
  | s => (digits? s).map fun (n : Nat) => (n : Int)

/-- Reads a name or a number. -/
def atom? (s : List Char) : Option Reading :=
  if s = "nil".toList then some .null
  else if s = "true".toList then some (.bool true)
  else if s = "false".toList then some (.bool false)
  else if s ∈ doubleNames ∨ (s.all isNumberChar && s.any isPointOrExponent) = true then
    some (.double s)
  else (integer? s).map .int

mutual

/-- Reads a value, in at most as many nested steps as there is fuel. -/
def value? : Nat → List Char → Option (Reading × List Char)
  | 0, _ => none
  | _ + 1, [] => none
  | fuel + 1, c :: s =>
    if c = '[' then
      match s with
      | ']' :: r => some (.list [], r)
      | ':' :: ']' :: r => some (.dict [], r)
      | _ => do
        let (v, r) ← value? fuel s
        match r with
        | ':' :: ' ' :: r =>
          let (w, r) ← value? fuel r
          let (entries, r) ← entries? fuel r
          return (.dict ((v, w) :: entries), r)
        | _ =>
          let (items, r) ← items? fuel r
          return (.list (v :: items), r)
    else if c = '"' ∨ c = '#' then (Lexer.string? (c :: s)).map fun (t, r) => (.text t, r)
    else (atom? ((c :: s).takeWhile isAtomChar)).map (·, (c :: s).dropWhile isAtomChar)

/-- Reads the other items of an array and its closing bracket. -/
def items? : Nat → List Char → Option (List Reading × List Char)
  | 0, _ => none
  | fuel + 1, s =>
    match s with
    | ']' :: r => some ([], r)
    | ',' :: ' ' :: r => do
      let (v, r) ← value? fuel r
      let (items, r) ← items? fuel r
      return (v :: items, r)
    | _ => none

/-- Reads the other entries of a dictionary and its closing bracket. -/
def entries? : Nat → List Char → Option (List (Reading × Reading) × List Char)
  | 0, _ => none
  | fuel + 1, s =>
    match s with
    | ']' :: r => some ([], r)
    | ',' :: ' ' :: r => do
      let (k, r) ← value? fuel r
      match r with
      | ':' :: ' ' :: r =>
        let (v, r) ← value? fuel r
        let (entries, r) ← entries? fuel r
        return ((k, v) :: entries, r)
      | _ => none
    | _ => none

end

/-- Reads a literal: what it says, and what follows it. Each step takes a character, so the length of
the text is fuel enough. -/
def read? (s : List Char) : Option (Reading × List Char) := value? (s.length + 1) s

/-! ## Names and numbers -/

theorem isAtomChar_of_isNumberChar {c : Char} (h : isNumberChar c = true) : isAtomChar c = true := by
  simp only [isNumberChar, Bool.or_eq_true, beq_iff_eq] at h
  rcases h with (((h | rfl) | rfl) | rfl) | rfl
  · simp [isAtomChar, Char.isAlphanum, h]
  all_goals decide

theorem digits?_ofNat (n : Nat) : digits? (Decimal.ofNat n) = some n := by
  have hall : (Decimal.ofNat n).all (Radix.isDigitOf 10) = true :=
    List.all_eq_true.2 (Radix.isDigitOf_of_mem_toDigits (by decide) (by decide) n)
  have hvalue : Radix.ofDigits 10 (Decimal.ofNat n) = n :=
    Radix.ofDigits_toDigits (by decide) (by decide) n
  rw [digits?, if_pos ⟨Nat.toDigits_ne_nil, hall⟩, hvalue]

theorem integer?_ofInt (n : Int) : integer? (Decimal.ofInt n) = some n := by
  unfold Decimal.ofInt
  split
  · rw [integer?, digits?_ofNat, Option.map_some]
    congr 1
    omega
  · unfold integer?
    split
    · next s hs =>
      have hminus : '-' ∈ Decimal.ofNat n.natAbs := by rw [hs]; exact List.mem_cons_self
      exact absurd (isDigit_of_mem_ofNat hminus) (by decide)
    · rw [digits?_ofNat, Option.map_some]
      congr 1
      omega

theorem isNumberChar_of_mem_ofInt {n : Int} {c : Char} (h : c ∈ Decimal.ofInt n) :
    isNumberChar c = true ∧ isPointOrExponent c = false := by
  have hdigit : ∀ d ∈ Decimal.ofNat n.natAbs, isNumberChar d = true ∧ isPointOrExponent d = false :=
    fun d hd => by
      have hd := isDigit_of_mem_ofNat hd
      refine ⟨isNumberChar_of_isDigit hd, ?_⟩
      simp only [isPointOrExponent, Bool.or_eq_false_iff, beq_eq_false_iff_ne]
      constructor <;> rintro rfl <;> exact absurd hd (by decide)
  unfold Decimal.ofInt at h
  split at h
  · rcases List.mem_cons.1 h with rfl | h
    · decide
    · exact hdigit c h
  · exact hdigit c h

/-- What consists of characters of numbers is no name. -/
theorem atom?_of_isNumberChar {s : List Char} (h : ∀ c ∈ s, isNumberChar c = true) :
    atom? s = if s.any isPointOrExponent then some (.double s) else (integer? s).map .int := by
  have hne : ∀ name : List Char, name.all isNumberChar = false → s ≠ name := by
    rintro name hname rfl
    rw [List.all_eq_true.2 h] at hname
    cases hname
  have hdouble : ∀ name ∈ doubleNames, name.all isNumberChar = false := by decide
  have hnames : s ∉ doubleNames := fun hs => hne s (hdouble s hs) rfl
  rw [atom?, if_neg (hne _ (by decide)), if_neg (hne _ (by decide)), if_neg (hne _ (by decide))]
  simp [hnames, List.all_eq_true.2 h]

theorem atom?_ofInt (n : Int) : atom? (Decimal.ofInt n) = some (.int n) := by
  have hany : (Decimal.ofInt n).any isPointOrExponent = false := by
    rw [List.any_eq_false]
    intro c hc
    rw [(isNumberChar_of_mem_ofInt hc).2]
    decide
  rw [atom?_of_isNumberChar fun c hc => (isNumberChar_of_mem_ofInt hc).1, hany, integer?_ofInt]
  rfl

theorem atom?_of_isToken {x : Decimal.Double} {s : List Char} (h : x.IsToken s) :
    atom? s = some (.double s) := by
  rcases isToken_cases h with h | h
  · have hname : ∀ name ∈ doubleNames, atom? name = some (.double name) := by
      simp only [doubleNames, List.forall_mem_cons]
      exact ⟨rfl, rfl, rfl, by simp⟩
    exact hname _ h
  · rw [atom?_of_isNumberChar h.1, h.2]
    rfl

theorem isAtomChar_of_isToken {x : Decimal.Double} {s : List Char} (h : x.IsToken s) :
    ∀ c ∈ s, isAtomChar c = true := by
  rcases isToken_cases h with hs | hs
  · have hname : ∀ name ∈ doubleNames, name.all isAtomChar = true := by decide
    exact List.all_eq_true.1 (hname _ hs)
  · exact fun c hc => isAtomChar_of_isNumberChar (hs.1 c hc)

/-! ## Values that are no containers -/

/-- What may follow a value: the end of the text, or the punctuation of a container. -/
def Follows (rest : List Char) : Prop := ∀ c ∈ rest.head?, c = ',' ∨ c = ':' ∨ c = ']'

theorem Follows.takeWhile {rest : List Char} (h : Follows rest) :
    rest.takeWhile isAtomChar = [] ∧ rest.dropWhile isAtomChar = rest := by
  cases rest with
  | nil => exact ⟨rfl, rfl⟩
  | cons c rest =>
    have hc : isAtomChar c = false := by
      rcases h c rfl with rfl | rfl | rfl <;> decide
    simp [hc]

theorem Follows.head?_ne_quote {rest : List Char} (h : Follows rest) : rest.head? ≠ some '"' :=
  fun hq => by rcases h _ hq with hc | hc | hc <;> cases hc

theorem value?_of_ne {c : Char} (h : c ≠ '[') (fuel : Nat) (s : List Char) :
    value? (fuel + 1) (c :: s) =
      if c = '"' ∨ c = '#' then (Lexer.string? (c :: s)).map fun (t, r) => (.text t, r)
      else (atom? ((c :: s).takeWhile isAtomChar)).map (·, (c :: s).dropWhile isAtomChar) := by
  rw [value?.eq_def]
  exact if_neg h

theorem value?_atom {s : List Char} {r : Reading} (hs : ∀ c ∈ s, isAtomChar c = true)
    (hr : atom? s = some r) (fuel : Nat) {rest : List Char} (hrest : Follows rest) :
    value? (fuel + 1) (s ++ rest) = some (r, rest) := by
  cases s with
  | nil => cases hr
  | cons c s =>
    have hc := hs c List.mem_cons_self
    have hopen : c ≠ '[' := by rintro rfl; exact absurd hc (by decide)
    have hquote : ¬(c = '"' ∨ c = '#') := by
      rintro (rfl | rfl) <;> exact absurd hc (by decide)
    rw [List.cons_append, value?_of_ne hopen, if_neg hquote, ← List.cons_append,
      List.takeWhile_append_of_pos hs, List.dropWhile_append_of_pos hs, hrest.takeWhile.1,
      hrest.takeWhile.2, List.append_nil, hr]
    rfl

theorem value?_quoted (custom : Bool) (s : List Char) (fuel : Nat) {rest : List Char}
    (hrest : Follows rest) : value? (fuel + 1) (quoted custom s ++ rest) = some (.text s, rest) := by
  have hread := string?_quotedWith (suffices_poundCount custom s) hrest.head?_ne_quote
  have hhead : ∃ c u, quoted custom s = c :: u ∧ (c = '"' ∨ c = '#') := by
    unfold quoted quotedWith
    cases poundCount custom s with
    | zero => exact ⟨_, _, rfl, Or.inl rfl⟩
    | succ n => exact ⟨_, _, rfl, Or.inr rfl⟩
  obtain ⟨c, u, hu, hc⟩ := hhead
  have hopen : c ≠ '[' := by rcases hc with rfl | rfl <;> decide
  rw [← quoted, hu, List.cons_append] at hread
  rw [hu, List.cons_append, value?_of_ne hopen, if_pos hc, hread]
  rfl

/-! ## Containers -/

/-- What stands after the first part between brackets. -/
def others (parts : List (List Char)) : List Char :=
  parts.flatMap (fun part => ',' :: ' ' :: part) ++ [']']

theorem bracketed_cons (part : List Char) (parts : List (List Char)) :
    bracketed (part :: parts) = '[' :: (part ++ others parts) := by
  have hjoin : commaSeparated (part :: parts) =
      part ++ parts.flatMap (fun part => ',' :: ' ' :: part) := by
    induction parts generalizing part with
    | nil => simp [commaSeparated]
    | cons q parts ih =>
      have hcons : commaSeparated (part :: q :: parts) =
          part ++ (',' :: ' ' :: commaSeparated (q :: parts)) := by
        simp [commaSeparated, List.intercalate]
      rw [hcons, ih q, List.flatMap_cons]
      rfl
  simp [bracketed, hjoin, others]

theorem others_cons (part : List Char) (parts : List (List Char)) :
    others (part :: parts) = ',' :: ' ' :: (part ++ others parts) := by
  simp [others]

theorem follows_others (parts : List (List Char)) (rest : List Char) :
    Follows (others parts ++ rest) := by
  cases parts with
  | nil => simp [Follows, others]
  | cons part parts => simp [Follows, others]

theorem follows_colon (s : List Char) : Follows (':' :: ' ' :: s) := by
  simp [Follows]

/-- A value does not start with a closing bracket or a colon. -/
theorem value?_punctuation (fuel : Nat) {c : Char} (hc : c = ']' ∨ c = ':') (s : List Char) :
    value? fuel (c :: s) = none := by
  cases fuel with
  | zero => rfl
  | succ fuel =>
    have hatom : isAtomChar c = false := by rcases hc with rfl | rfl <;> decide
    have hopen : c ≠ '[' := by rcases hc with rfl | rfl <;> decide
    have hquote : ¬(c = '"' ∨ c = '#') := by rcases hc with rfl | rfl <;> decide
    rw [value?_of_ne hopen, if_neg hquote, List.takeWhile_cons, hatom]
    rfl

theorem value?_array {fuel : Nat} {s r : List Char} {v : Reading} {items : List Reading}
    {parts : List (List Char)} {rest : List Char}
    (hv : value? fuel s = some (v, others parts ++ rest))
    (hitems : items? fuel (others parts ++ rest) = some (items, r)) :
    value? (fuel + 1) ('[' :: s) = some (.list (v :: items), r) := by
  rw [value?.eq_def]
  change (if '[' = '[' then _ else _) = _
  rw [if_pos rfl]
  split
  · next r' => rw [value?_punctuation fuel (Or.inl rfl)] at hv; cases hv
  · next r' => rw [value?_punctuation fuel (Or.inr rfl)] at hv; cases hv
  · rw [hv]
    simp only [Option.bind_eq_bind, Option.bind_some]
    split
    · next h => rw [h] at hitems; cases parts <;> simp [others] at h
    · next h => rw [hitems]; rfl

theorem value?_dict {fuel : Nat} {s r r' r'' : List Char} {k v : Reading}
    {entries : List (Reading × Reading)}
    (hk : value? fuel s = some (k, ':' :: ' ' :: r))
    (hv : value? fuel r = some (v, r'))
    (hentries : entries? fuel r' = some (entries, r'')) :
    value? (fuel + 1) ('[' :: s) = some (.dict ((k, v) :: entries), r'') := by
  rw [value?.eq_def]
  change (if '[' = '[' then _ else _) = _
  rw [if_pos rfl]
  split
  · next r' => rw [value?_punctuation fuel (Or.inl rfl)] at hk; cases hk
  · next r' => rw [value?_punctuation fuel (Or.inr rfl)] at hk; cases hk
  · rw [hk]
    simp only [Option.bind_eq_bind, Option.bind_some]
    rw [hv, Option.bind_some, hentries]
    rfl

mutual

/-- The reader takes exactly the literal of a datum off a text that goes on after a value. -/
theorem value?_text (custom : Bool) (v : Datum) (hv : v.HasLiteral) {fuel : Nat}
    (hf : (text custom v).length < fuel) {rest : List Char} (hrest : Follows rest) :
    value? fuel (text custom v ++ rest) = some (v.reading double, rest) := by
  obtain ⟨n, rfl⟩ : ∃ n, fuel = n + 1 := ⟨fuel - 1, by omega⟩
  cases v with
  | null => exact value?_atom (s := "nil".toList) (List.all_eq_true.1 rfl) rfl n hrest
  | bool b =>
    cases b with
    | false => exact value?_atom (s := "false".toList) (List.all_eq_true.1 rfl) rfl n hrest
    | true => exact value?_atom (s := "true".toList) (List.all_eq_true.1 rfl) rfl n hrest
  | int i =>
    exact value?_atom (fun c hc => isAtomChar_of_isNumberChar (isNumberChar_of_mem_ofInt hc).1)
      (atom?_ofInt i) n hrest
  | double x =>
    have htoken := isToken_double x
    exact value?_atom (isAtomChar_of_isToken htoken) (atom?_of_isToken htoken) n hrest
  | text s => exact value?_quoted custom s.toList n hrest
  | tag t => exact value?_quoted custom t.typeName.toList n hrest
  | list items => exact value?_items custom items hv hf rest
  | tuple items => exact value?_items custom items hv hf rest
  | dict entries => exact value?_entries custom entries hv hf rest
  | foreign typeName => exact absurd (hv _ List.mem_cons_self) (by simp [Datum.fault?])

theorem value?_items (custom : Bool) (items : List Datum)
    (hv : ∀ x ∈ Datum.itemLeaves items, x.fault? = none) {n : Nat}
    (hf : (bracketed (itemTexts custom items)).length < n + 1) (rest : List Char) :
    value? (n + 1) (bracketed (itemTexts custom items) ++ rest) =
      some (.list (Datum.itemReadings double items), rest) := by
  cases items with
  | nil => rfl
  | cons v items =>
    rw [Datum.itemLeaves, List.forall_mem_append] at hv
    rw [itemTexts, bracketed_cons] at hf ⊢
    simp only [List.length_cons, List.length_append] at hf
    have hfirst := value?_text custom v hv.1 (by omega : _ < n)
      (follows_others (itemTexts custom items) rest)
    rw [List.cons_append, List.append_assoc]
    exact value?_array hfirst (items?_others custom items hv.2 (by omega) rest)

theorem items?_others (custom : Bool) (items : List Datum)
    (hv : ∀ x ∈ Datum.itemLeaves items, x.fault? = none) {fuel : Nat}
    (hf : (others (itemTexts custom items)).length < fuel) (rest : List Char) :
    items? fuel (others (itemTexts custom items) ++ rest) =
      some (Datum.itemReadings double items, rest) := by
  obtain ⟨n, rfl⟩ : ∃ n, fuel = n + 1 := ⟨fuel - 1, by omega⟩
  cases items with
  | nil => rfl
  | cons v items =>
    rw [Datum.itemLeaves, List.forall_mem_append] at hv
    rw [itemTexts, others_cons] at hf ⊢
    simp only [List.length_cons, List.length_append] at hf
    have hfirst := value?_text custom v hv.1 (by omega : _ < n)
      (follows_others (itemTexts custom items) rest)
    rw [List.cons_append, List.cons_append, List.append_assoc, items?, hfirst]
    simp only [Option.bind_eq_bind, Option.bind_some]
    rw [items?_others custom items hv.2 (by omega) rest]
    rfl

theorem value?_entries (custom : Bool) (entries : List (Datum × Datum))
    (hv : ∀ x ∈ Datum.entryLeaves entries, x.fault? = none) {n : Nat}
    (hf : (text custom (.dict entries)).length < n + 1) (rest : List Char) :
    value? (n + 1) (text custom (.dict entries) ++ rest) =
      some (.dict (Datum.entryReadings double entries), rest) := by
  cases entries with
  | nil => rfl
  | cons e entries =>
    obtain ⟨k, v⟩ := e
    rw [Datum.entryLeaves, List.forall_mem_append, List.forall_mem_append] at hv
    rw [text_dict_cons, entryTexts, bracketed_cons] at hf ⊢
    simp only [List.length_cons, List.length_append] at hf
    have hkey := value?_text custom k hv.1 (by omega : _ < n)
      (follows_colon (text custom v ++ (others (entryTexts custom entries) ++ rest)))
    have hvalue := value?_text custom v hv.2.1 (by omega : _ < n)
      (follows_others (entryTexts custom entries) rest)
    simp only [List.cons_append, List.append_assoc]
    exact value?_dict hkey hvalue (entries?_others custom entries hv.2.2 (by omega) rest)

theorem entries?_others (custom : Bool) (entries : List (Datum × Datum))
    (hv : ∀ x ∈ Datum.entryLeaves entries, x.fault? = none) {fuel : Nat}
    (hf : (others (entryTexts custom entries)).length < fuel) (rest : List Char) :
    entries? fuel (others (entryTexts custom entries) ++ rest) =
      some (Datum.entryReadings double entries, rest) := by
  obtain ⟨n, rfl⟩ : ∃ n, fuel = n + 1 := ⟨fuel - 1, by omega⟩
  cases entries with
  | nil => rfl
  | cons e entries =>
    obtain ⟨k, v⟩ := e
    rw [Datum.entryLeaves, List.forall_mem_append, List.forall_mem_append] at hv
    rw [entryTexts, others_cons] at hf ⊢
    simp only [List.length_cons, List.length_append] at hf
    have hkey := value?_text custom k hv.1 (by omega : _ < n)
      (follows_colon (text custom v ++ (others (entryTexts custom entries) ++ rest)))
    have hvalue := value?_text custom v hv.2.1 (by omega : _ < n)
      (follows_others (entryTexts custom entries) rest)
    simp only [List.cons_append, List.append_assoc]
    rw [entries?, hkey]
    simp only [Option.bind_eq_bind, Option.bind_some]
    rw [hvalue, Option.bind_some, entries?_others custom entries hv.2.2 (by omega) rest]
    rfl

end

/-! ## Whole literals -/

theorem read?_text (custom : Bool) {v : Datum} (hv : v.HasLiteral) {rest : List Char}
    (hrest : Follows rest) : read? (text custom v ++ rest) = some (v.reading double, rest) :=
  value?_text custom v hv (by rw [List.length_append]; omega) hrest

theorem hasLiteral_of_render {custom : Bool} {v : Datum} {t : List Char}
    (h : render custom v = .ok t) : v.HasLiteral ∧ text custom v = t := by
  rw [render_eq] at h
  cases hf : v.firstFault? with
  | some f => rw [hf] at h; cases h
  | none =>
    rw [hf] at h
    cases h
    exact ⟨List.findSome?_eq_none_iff.1 hf, rfl⟩

/-- **Literals are unambiguous.** Every double has a token, such that a datum whose leaves all have
literals is written, the reader takes exactly its literal off a text that goes on after a value and
returns its reading, and whatever else is written the same, in whichever mode, has the same
reading. -/
theorem read?_render :
    ∃ token : Decimal.Double → List Char, (∀ x : Decimal.Double, x.IsToken (token x)) ∧
      ∀ (custom : Bool) (v : Datum), v.HasLiteral → ∃ t, render custom v = .ok t ∧
        (∀ rest, Follows rest → read? (t ++ rest) = some (v.reading token, rest)) ∧
        ∀ (custom' : Bool) (w : Datum), render custom' w = .ok t →
          w.reading token = v.reading token := by
  refine ⟨double, isToken_double, fun custom v hv => ⟨text custom v, ?_, ?_, ?_⟩⟩
  · rw [render_eq, hv.firstFault?]
    rfl
  · exact fun rest hrest => read?_text custom hv hrest
  · intro custom' w hw
    obtain ⟨hw, ht⟩ := hasLiteral_of_render hw
    have hend : Follows [] := fun c hc => by cases hc
    have hread := read?_text custom' hw hend
    rw [ht, read?_text custom hv hend] at hread
    exact (Prod.mk.inj (Option.some.inj hread)).1.symm

/-- An entry whose key is a pair, beside containers without items, a finite double and an infinite
one. -/
theorem read?_render_pairKey :
    let v := Datum.dict [(.tuple [.text "\"#, ", .bool true], .list []),
      (.tag .rename, .list [.dict [], .double ⟨0xBFF8000000000000⟩, .int (-1)]),
      (.double ⟨0xFFF0000000000000⟩, .null)]
    v.HasLiteral ∧ ∃ token : Decimal.Double → List Char, (∀ x : Decimal.Double, x.IsToken (token x)) ∧
      ∃ t, render true v = .ok t ∧
        (∀ rest, Follows rest → read? (t ++ rest) = some (v.reading token, rest)) ∧
        ∀ (custom' : Bool) (w : Datum), render custom' w = .ok t →
          w.reading token = v.reading token := by
  intro v
  have hv : v.HasLiteral := by decide
  obtain ⟨token, htoken, h⟩ := read?_render
  exact ⟨hv, token, htoken, h true v hv⟩

end Reader

end Literal

end SwiftText
