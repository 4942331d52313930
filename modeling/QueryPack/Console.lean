import QueryPack.Palette

namespace QueryPack.Console

/-!
# Lines for people

The lines that commands print on a console, each with its line break. A palette
decides on colours; the words do not depend on it.
-/

def line (text : String) : String :=
  text ++ "\n"

def opening (palette : Palette) (text : String) : String :=
  line ("🚀 " ++ palette.paint .header text)

def done (palette : Palette) (text : String) : String :=
  line ("✅ " ++ palette.paint .success text)

def failed (palette : Palette) (text : String) : String :=
  line ("❌ " ++ palette.paint .error text)

/-- A labelled remark. -/
def remark (palette : Palette) (label value : String) : String :=
  line (palette.paint .info "ℹ️" ++ " " ++ palette.paint .dim label ++ ": " ++ value)

def title (palette : Palette) (text : String) : String :=
  line "" ++ line ("━" ++ palette.paint .header text ++ "━")

def total (palette : Palette) (label value : String) : String :=
  line ("  " ++ palette.paint .dim label ++ " " ++ value)

/-- The time that a run took, and how much it wrote. -/
def timing (palette : Palette) (elapsed : String) (languages artifacts : Nat) : String :=
  line (palette.paint .success "✅" ++ " " ++ palette.paint .success ("Complete in " ++ elapsed)) ++
    line ("  " ++ palette.paint .info "📁" ++ " " ++ toString languages ++ "  " ++
      palette.paint .info "📄" ++ " " ++ toString artifacts)

/-- What the marks of the source table mean. -/
def key (palette : Palette) : String :=
  line ("  " ++ palette.paint .overridden "override" ++ " " ++
    palette.paint .dim "language-specific query" ++ "  " ++
    palette.paint .info "default" ++ " " ++ palette.paint .dim "category default" ++ "  " ++
    palette.paint .placeholder "-" ++ " " ++ palette.paint .dim "placeholder")

end QueryPack.Console
