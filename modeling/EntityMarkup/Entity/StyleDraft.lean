/-
The draft that most kinds start from: a style, and a text if there is
one. It has nothing left to hand over once the entity is made.
-/
import EntityMarkup.Registry.Kind

namespace EntityMarkup

/-- A style and a text. -/
structure StyleDraft where
  style : String
  text : Option String
deriving DecidableEq, Repr

namespace StyleDraft

/-- The style of entities that name none. -/
def defaultStyle : String := "default"

/-- The default style and no text. -/
def start : StyleDraft := ⟨defaultStyle, none⟩

/-- Sets the text. -/
def setText (value : String) : Handler StyleDraft Bool := do
  Handler.modify fun d => { d with text := some value }
  return true

end StyleDraft

instance {E : Type} : Draft StyleDraft E where
  finish := pure ()

end EntityMarkup
