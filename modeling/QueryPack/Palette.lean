namespace QueryPack

/-!
# Styled text

Terminals colour text between escape sequences. A palette says how each kind of
console text looks; the plain palette adds nothing.
-/

/-- The colours in use. -/
inductive Color where
  | red
  | green
  | magenta
  | cyan
  | white
  | brightBlack
  deriving Repr, DecidableEq

namespace Color

/-- The code that selects a colour. -/
def code : Color → String
  | red => "31"
  | green => "32"
  | magenta => "35"
  | cyan => "36"
  | white => "37"
  | brightBlack => "90"

end Color

/-- The effects in use. -/
inductive Effect where
  | bold
  | dimmed
  deriving Repr, DecidableEq

namespace Effect

/-- The code that selects an effect. -/
def code : Effect → String
  | bold => "1"
  | dimmed => "2"

end Effect

/-- A colour and an effect, each if wanted. -/
structure Style where
  color? : Option Color
  effect? : Option Effect
  deriving Repr, DecidableEq

namespace Style

/-- Nothing special. -/
def plain : Style :=
  ⟨none, none⟩

/-- The codes of a style, the colour first. -/
def codes (style : Style) : List String :=
  (style.color?.map Color.code).toList ++ (style.effect?.map Effect.code).toList

/-- Text in a style; a style without codes leaves it as it is. -/
def apply (style : Style) (text : String) : String :=
  match style.codes with
  | [] => text
  | codes => "\x1b[" ++ ";".intercalate codes ++ "m" ++ text ++ "\x1b[0m"

end Style

/-- The kinds of console text that have a style of their own. -/
inductive Role where
  | header
  | success
  | error
  | info
  | dim
  /-- A query of the language's own. -/
  | overridden
  /-- A stand-in for a missing query. -/
  | placeholder
  deriving Repr, DecidableEq

/-- How each kind of console text looks. -/
inductive Palette where
  | colored
  | plain
  deriving Repr, DecidableEq

namespace Palette

/-- The style of a kind of text. -/
def style : Palette → Role → Style
  | plain, _ => .plain
  | colored, .header => ⟨some .cyan, some .bold⟩
  | colored, .success => ⟨some .green, some .bold⟩
  | colored, .error => ⟨some .red, some .bold⟩
  | colored, .info => ⟨some .magenta, none⟩
  | colored, .dim => ⟨some .white, some .dimmed⟩
  | colored, .overridden => ⟨some .green, none⟩
  | colored, .placeholder => ⟨some .brightBlack, none⟩

/-- Text as a palette shows a kind of text. -/
def paint (palette : Palette) (role : Role) (text : String) : String :=
  (palette.style role).apply text

end Palette

end QueryPack
