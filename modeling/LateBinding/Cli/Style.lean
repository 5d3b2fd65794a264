/-!
# Styled output

* `Palette` — whether output is styled; `Palette.choose` — the choice: the environment's objection
  to colour wins over the option, which wins over what the terminal can do;
* `Palette.heading`, `Palette.label`, `Palette.dim` — the pieces of output, each reset before and
  after.
-/

namespace LateBinding

/-- Whether output is styled. -/
structure Palette where
  styled : Bool
  deriving DecidableEq, Repr

namespace Palette

/-- The choice of colour.  `never` and `always` are obeyed, any other option leaves it to the
terminal. -/
def choose (objected : Bool) (option? : Option String) (terminal : Bool) : Palette :=
  if objected then ⟨false⟩
  else
    match option? with
    | some "always" => ⟨true⟩
    | some "never" => ⟨false⟩
    | _ => ⟨terminal⟩

def reset : String := "\x1b[0m"

def piece (p : Palette) (codes : String) (text : String) : String :=
  if p.styled then reset ++ codes ++ text ++ reset else text

def heading (p : Palette) (text : String) : String := p.piece "\x1b[1m" text ++ "\n"

/-- Kinds of members and remarks. -/
def label (p : Palette) (text : String) : String := p.piece "\x1b[36m" text

/-- Details. -/
def dim (p : Palette) (text : String) : String := p.piece "\x1b[37m" text

end Palette

end LateBinding
