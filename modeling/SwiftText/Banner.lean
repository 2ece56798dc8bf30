import SwiftText.Options

/-!
# Banners

The comment at the head of a generated file: the banner template of the options, rendered for the
name of the module.

Templates belong to a template engine, which is no part of this library. It is handed in as an
`Engine`, with the settings to make an environment of, and what is known of it is stated where
something about banners is proved.
-/

namespace SwiftText

/-- The settings of an environment of a template engine. -/
structure Engine.Settings where
  /-- Whether what a template prints is escaped. -/
  autoescape : Bool
  /-- Whether the line break at the end of a template stays. -/
  keepTrailingNewline : Bool

/-- A template engine: it reads the source of a template, which should be a text, and renders the
template with values for its variables. -/
structure Engine where
  /-- The templates that have been read. -/
  Template : Type
  fromString : Engine.Settings → Value → Except Fault Template
  render : Template → List (String × Value) → Except Fault String

namespace Banner

/-- The settings of the environment in which banners are rendered. -/
def settings : Engine.Settings where
  autoescape := false
  keepTrailingNewline := false

/-- The variable of a banner template that stands for the name of the module. -/
def variableName : String := "module_name"

/-- The banner of a module. -/
def render (engine : Engine) (o : Options) (moduleName : Value) : Except Fault String := do
  let template ← engine.fromString settings o.headerTemplate
  engine.render template [(variableName, moduleName)]

end Banner

end SwiftText
