import SwiftText.Proofs.Banner.Stencil

/-!
# Banners with the name of the module

A template of texts and placeholders is rendered as its texts with the name of the module in place of
each placeholder. The line breaks of the template are unified beforehand and the LF at its end is
dropped, but the name comes in only when the template has been read: so nothing in it is taken for a
tag, and its own breaks stay as they are.

* `Engine.Renders`: what a template engine makes of the source of a template.
* `Engine.DefaultSyntax`: what is known of an engine that has the default lexical rules, as far as
  templates of texts and placeholders go.
* `render_stencil`: the banner of any template of texts and placeholders.
* `sampleEngine`: an engine for such templates and no others, which has these rules.
-/

namespace SwiftText

open Banner

/-! ## Template engines -/

namespace Engine

variable (engine : Engine)

/-- In an environment with these settings, the source of a template is read, and the template is
rendered with these values as this text. -/
def Renders (settings : Settings) (source : List Char) (values : List (String × Value))
    (out : List Char) : Prop :=
  (engine.fromString settings (.text (String.ofList source)) >>= (engine.render · values)) =
    .ok (String.ofList out)

/-- The default lexical rules of a template engine: breaks are unified, one LF at the end of a
template is dropped unless line breaks there are kept, text without tags is kept, and a placeholder
prints what its variable stands for, as it is unless it is to be escaped. -/
structure DefaultSyntax : Prop where
  /-- A template is read as if its line breaks were unified. -/
  breaks {settings : Settings} {source out : List Char} {values : List (String × Value)}
    (h : engine.Renders settings (Lines.unified source) values out) :
    engine.Renders settings source values out
  /-- One LF at the end is dropped, unless line breaks there are kept. -/
  finalBreak {autoescape : Bool} {source out : List Char} {values : List (String × Value)}
    (hreturn : '\r' ∉ source) (h : engine.Renders ⟨autoescape, true⟩ source values out) :
    engine.Renders ⟨autoescape, false⟩ (source ++ ['\n']) values out
  /-- Without an LF at the end, it makes no difference whether line breaks there are kept. -/
  noFinalBreak {autoescape : Bool} {source out : List Char} {values : List (String × Value)}
    (hreturn : '\r' ∉ source) (hbreak : source.getLast? ≠ some '\n')
    (h : engine.Renders ⟨autoescape, true⟩ source values out) :
    engine.Renders ⟨autoescape, false⟩ source values out
  /-- A text without tags is rendered as it is. -/
  text {autoescape : Bool} (t : Passage) {values : List (String × Value)}
    (hreturn : '\r' ∉ t.chars) : engine.Renders ⟨autoescape, true⟩ t.chars values t.chars
  /-- So is a text before a placeholder. -/
  lead {autoescape : Bool} (t : Lead) (rest : Stencil) {values : List (String × Value)}
    {out : List Char} (hreturn : '\r' ∉ t.chars)
    (h : engine.Renders ⟨autoescape, true⟩ (placeholder ++ rest.source) values out) :
    engine.Renders ⟨autoescape, true⟩ (t.chars ++ (placeholder ++ rest.source)) values
      (t.chars ++ out)
  /-- A placeholder is rendered as the text that its variable stands for. -/
  placeholder {rest : Stencil} {values : List (String × Value)} {x : String} {out : List Char}
    (hx : values.lookup "module_name" = some (.text x))
    (h : engine.Renders ⟨false, true⟩ rest.source values out) :
    engine.Renders ⟨false, true⟩ (placeholder ++ rest.source) values (x.toList ++ out)

namespace DefaultSyntax

variable {engine} (h : engine.DefaultSyntax)
include h

/-- **Texts and placeholders are rendered one after the other**, if line breaks are unified and those
at the end are kept. -/
theorem renders_fill (l : Stencil) (hreturn : '\r' ∉ l.source) (name : String) :
    engine.Renders ⟨false, true⟩ l.source [("module_name", .text name)] (l.fill name.toList) := by
  induction l with
  | last t => exact h.text t hreturn
  | before t rest ih =>
    have hnot : '\r' ∉ t.chars ∧ '\r' ∉ Banner.placeholder ∧ '\r' ∉ rest.source := by
      simpa [Stencil.source, Stencil.fill] using hreturn
    exact h.lead t rest hnot.1 (h.placeholder (by simp) (ih hnot.2.2))

/-- **A template of texts and placeholders is rendered** as its unified texts with the name in place of
the placeholders. -/
theorem renders_source (l : Stencil) (name : String) :
    engine.Renders settings l.source [("module_name", .text name)]
      (l.unified.fill name.toList) := by
  have hreturn := l.return_not_mem_source_unified
  have hkept := h.renders_fill l.unified hreturn name
  refine h.breaks ?_
  rw [l.source_unified] at hreturn hkept
  rcases Lines.dropFinalBreak_cases (Lines.unified l.source) with heq | ⟨heq, hbreak⟩
  · rw [heq]
    exact h.finalBreak hreturn hkept
  · rw [heq] at hreturn hkept
    exact h.noFinalBreak hreturn hbreak hkept

end DefaultSyntax

end Engine

namespace Banner

/-! ## Banners -/

/-- **A banner with the name of the module.** A template of texts without opening marks and of
placeholders has its CRs and CR LFs made LFs and one LF at its end dropped; the texts and placeholders
that are left then make up the banner, with the name as it is in place of each placeholder. -/
theorem render_stencil {engine : Engine} (h : engine.DefaultSyntax) (l : Stencil) :
    (Lines.join (Lines.codeLines l.source) = l.unified.source ++ ['\n'] ∨
        Lines.join (Lines.codeLines l.source) = l.unified.source ∧
          l.unified.source.getLast? ≠ some '\n') ∧
      ∀ (o : Options) (name : String),
        render engine { o with headerTemplate := .text (String.ofList l.source) } (.text name) =
          .ok (String.ofList (l.unified.fill name.toList)) := by
  refine ⟨?_, fun o name => h.renders_source l name⟩
  rw [l.source_unified]
  rcases Lines.dropFinalBreak_cases (Lines.unified l.source) with heq | ⟨heq, hbreak⟩
  · exact Or.inl heq
  · rw [heq]
    exact Or.inr ⟨rfl, hbreak⟩

/-- The texts of the default template. -/
def defaultStencil : Stencil :=
  .before ⟨⟨"// Code generated from Pkl module \x60".toList, by decide⟩, by decide⟩
    (.last ⟨"\x60. DO NOT EDIT.".toList, by decide⟩)

/-- Unless another template is given, a banner is one line with the name between back quotes. -/
theorem render_default {engine : Engine} (h : engine.DefaultSyntax) (name : String) :
    render engine {} (.text name) =
      .ok ("// Code generated from Pkl module \x60" ++ name ++ "\x60. DO NOT EDIT.") := by
  have hsource : String.ofList defaultStencil.source = defaultHeader := by decide
  have hunified : defaultStencil.unified.fill name.toList = defaultStencil.fill name.toList := by
    have hlead : Lines.unified "// Code generated from Pkl module \x60".toList =
        "// Code generated from Pkl module \x60".toList := by decide
    have hlast : Lines.dropFinalBreak (Lines.unified "\x60. DO NOT EDIT.".toList) =
        "\x60. DO NOT EDIT.".toList := by decide
    simp only [defaultStencil, Stencil.unified, Stencil.fill, Lead.unified, Passage.unified,
      Passage.trimmed, hlead, hlast]
  have hrender := h.renders_source defaultStencil name
  rw [Engine.Renders, hsource, hunified] at hrender
  refine hrender.trans (congrArg Except.ok ?_)
  simp [defaultStencil, Stencil.fill, ← String.toList_inj]

/-! ## An engine for texts and placeholders -/

/-- Reads a template of texts and placeholders after the first `skip` characters: its characters, with
nothing where a placeholder is. All other tags are refused. -/
def readStencil? : Nat → List Char → Option (List (Option Char))
  | _, [] => some []
  | skip + 1, _ :: s => readStencil? skip s
  | 0, c :: s =>
    if placeholder <+: c :: s then (readStencil? (placeholder.length - 1) s).map (none :: ·)
    else if opens (c :: s) then none
    else (readStencil? 0 s).map (some c :: ·)

/-- What is left of the source of a template before it is read. -/
def prepared (settings : Engine.Settings) (source : List Char) : List Char :=
  if settings.keepTrailingNewline then Lines.unified source
  else Lines.dropFinalBreak (Lines.unified source)

/-- The characters of a template with a text in place of each placeholder. -/
def filled (x : String) (items : List (Option Char)) : List Char :=
  items.flatMap fun
    | some c => [c]
    | none => x.toList

/-- An engine for templates of texts and placeholders. -/
def sampleEngine : Engine where
  Template := List (Option Char)
  fromString settings
    | .text source =>
      match readStencil? 0 (prepared settings source.toList) with
      | some items => .ok items
      | none => .error (.template "TemplateSyntaxError" none)
    | _ => .error (.template "TypeError" (some "Can't compile non template nodes"))
  render items values :=
    let value := (values.lookup "module_name").getD (.text "")
    .ok (String.ofList (filled value.display items))

section Sample

variable {c : Char} {s t r : List Char} {items : List (Option Char)}

theorem readStencil?_length (t r : List Char) :
    readStencil? t.length (t ++ r) = readStencil? 0 r := by
  induction t with
  | nil => rfl
  | cons c t ih => exact ih

theorem readStencil?_placeholder (r : List Char) :
    readStencil? 0 (placeholder ++ r) = (readStencil? 0 r).map (none :: ·) := by
  obtain ⟨c, s, hcons⟩ := List.exists_cons_of_ne_nil (show placeholder ≠ [] by decide)
  have hlength : placeholder.length - 1 = s.length := by rw [hcons]; rfl
  rw [hcons, List.cons_append, readStencil?, if_pos, hlength, readStencil?_length]
  rw [hcons]
  exact List.prefix_append (c :: s) r

theorem opens_placeholder_append (r : List Char) : opens (placeholder ++ r) = true := by
  have hcons : placeholder = '\x7b' :: '\x7b' :: placeholder.drop 2 := by decide
  rw [hcons]
  rfl

theorem readStencil?_cons (h : opens (c :: s) = false) :
    readStencil? 0 (c :: s) = (readStencil? 0 s).map (some c :: ·) := by
  rw [readStencil?, if_neg, if_neg (by simp [h])]
  rintro ⟨r, hr⟩
  rw [← hr, opens_placeholder_append] at h
  cases h

/-- A text is read up to a placeholder. -/
theorem readStencil?_append (h : NoMark t) (hbrace : t.getLast? ≠ some '\x7b') (r : List Char) :
    readStencil? 0 (t ++ r) = (readStencil? 0 r).map (t.map some ++ ·) := by
  induction t with
  | nil => simp
  | cons c t ih =>
    obtain ⟨hopens, ht⟩ := noMark_cons_iff.1 h
    have hlast : t.getLast? ≠ some '\x7b' := by
      cases t with
      | nil => simp
      | cons d t => rwa [List.getLast?_cons_cons] at hbrace
    rw [List.cons_append, readStencil?_cons (opens_cons_append hopens hbrace r), ih ht hlast,
      Option.map_map]
    rfl

theorem readStencil?_of_noMark (h : NoMark t) : readStencil? 0 t = some (t.map some) := by
  induction t with
  | nil => rfl
  | cons c t ih =>
    obtain ⟨hopens, ht⟩ := noMark_cons_iff.1 h
    rw [readStencil?_cons hopens, ih ht]
    rfl

theorem filled_map_some (x : String) (t : List Char) : filled x (t.map some) = t := by
  induction t with
  | nil => rfl
  | cons c t ih => exact congrArg (c :: ·) ih

theorem filled_append (x : String) (items items' : List (Option Char)) :
    filled x (items ++ items') = filled x items ++ filled x items' :=
  List.flatMap_append

theorem renders_sampleEngine_iff {settings : Engine.Settings} {source out : List Char}
    {values : List (String × Value)} :
    sampleEngine.Renders settings source values out ↔
      ∃ items, readStencil? 0 (prepared settings source) = some items ∧
        filled ((values.lookup "module_name").getD (.text "")).display items = out := by
  simp only [Engine.Renders, sampleEngine, String.toList_ofList]
  cases readStencil? 0 (prepared settings source) with
  | none => simp [bind, Except.bind]
  | some items => simp [bind, Except.bind, String.ofList_inj]

theorem prepared_of_keep {autoescape : Bool} (h : '\r' ∉ s) : prepared ⟨autoescape, true⟩ s = s :=
  Lines.unified_of_return_not_mem h

theorem prepared_append {autoescape : Bool} (h : '\r' ∉ t) (r : List Char) :
    prepared ⟨autoescape, true⟩ (t ++ r) = t ++ prepared ⟨autoescape, true⟩ r :=
  Lines.unified_append_of_return_not_mem h

theorem prepared_placeholder_append {autoescape : Bool} (r : List Char) :
    prepared ⟨autoescape, true⟩ (placeholder ++ r) =
      placeholder ++ prepared ⟨autoescape, true⟩ r :=
  prepared_append return_not_mem_placeholder r

theorem prepared_of_drop {autoescape : Bool} (h : '\r' ∉ s) :
    prepared ⟨autoescape, false⟩ s = Lines.dropFinalBreak s := by
  rw [prepared, if_neg (by simp), Lines.unified_of_return_not_mem h]

end Sample

/-- The sample engine has the default lexical rules. -/
theorem sampleEngine_defaultSyntax : sampleEngine.DefaultSyntax where
  breaks {settings source out values} h := by
    rw [renders_sampleEngine_iff] at h ⊢
    have hidem := Lines.unified_of_return_not_mem (Lines.return_not_mem_unified source)
    rwa [prepared, hidem] at h
  finalBreak {autoescape source out values} hreturn h := by
    rw [renders_sampleEngine_iff, prepared_of_keep hreturn] at h
    rw [renders_sampleEngine_iff, prepared_of_drop (by simpa using hreturn),
      Lines.dropFinalBreak_append_newline]
    exact h
  noFinalBreak {autoescape source out values} hreturn hbreak h := by
    rw [renders_sampleEngine_iff, prepared_of_keep hreturn] at h
    rw [renders_sampleEngine_iff, prepared_of_drop hreturn, Lines.dropFinalBreak_of_ne hbreak]
    exact h
  text t values hreturn := by
    rw [renders_sampleEngine_iff, prepared_of_keep hreturn]
    exact ⟨_, readStencil?_of_noMark t.noMark, filled_map_some _ _⟩
  lead t rest values out hreturn h := by
    rw [renders_sampleEngine_iff, prepared_placeholder_append] at h
    obtain ⟨items, hitems, rfl⟩ := h
    rw [renders_sampleEngine_iff, prepared_append hreturn, prepared_placeholder_append]
    refine ⟨t.chars.map some ++ items, ?_, ?_⟩
    · rw [readStencil?_append t.noMark t.noBrace, hitems]
      rfl
    · rw [filled_append, filled_map_some]
  placeholder {rest values x out} hx h := by
    rw [renders_sampleEngine_iff] at h
    obtain ⟨items, hitems, rfl⟩ := h
    rw [renders_sampleEngine_iff, prepared_placeholder_append]
    refine ⟨none :: items, ?_, ?_⟩
    · rw [readStencil?_placeholder, hitems]
      rfl
    · rw [hx]
      rfl

/-- Braces in the texts stay where they are, and so do marks and breaks in the name. -/
theorem render_stencil_markup :
    let l : Stencil :=
      .before ⟨⟨"//\r\n\x7b \r".toList, by decide⟩, by decide⟩
        (.before ⟨⟨[], by decide⟩, by decide⟩ (.last ⟨"\x7d\x7b\n".toList, by decide⟩))
    let tag := "\x7b\x7b module_name \x7d\x7d"
    let header := "//\r\n\x7b \r" ++ tag ++ tag ++ "\x7d\x7b\n"
    let name := "\x7b\x7b x \x7d\x7d\x7b#<&>\r\n"
    sampleEngine.DefaultSyntax ∧ String.ofList l.source = header ∧
      render sampleEngine { headerTemplate := .text header } (.text name) =
        .ok ("//\n\x7b \n" ++ name ++ name ++ "\x7d\x7b") := by
  intro l tag header name
  have hheader : String.ofList l.source = header := by decide
  have hfill : String.ofList (l.unified.fill name.toList) =
      "//\n\x7b \n" ++ name ++ name ++ "\x7d\x7b" := by decide
  have hrender := (render_stencil sampleEngine_defaultSyntax l).2 {} name
  rw [hheader, hfill] at hrender
  exact ⟨sampleEngine_defaultSyntax, hheader, hrender⟩

end Banner

end SwiftText
