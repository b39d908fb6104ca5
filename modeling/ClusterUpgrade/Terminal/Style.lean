/-!
Styled text for terminals. With styles switched off every text stands for itself.
-/

namespace ClusterUpgrade

inductive Style where
  | bold
  | dimmed
  | red
  | green
  | yellow
  | cyan
  | boldCyan
  deriving Repr, DecidableEq, Inhabited

namespace Style

/-- The parameters of the control sequence that switches a style on. -/
def parameters : Style → String
  | .bold => "1"
  | .dimmed => "2"
  | .red => "31"
  | .green => "32"
  | .yellow => "33"
  | .cyan => "36"
  | .boldCyan => "1;36"

def start (style : Style) : String := "\x1b[" ++ style.parameters ++ "m"

/-- The control sequence that switches all styles off. -/
def reset : String := "\x1b[0m"

/-- The text with the style switched on again after every reset inside it. -/
def resume (style : Style) : List Char → List Char
  | [] => []
  | c :: rest =>
    if ("[0m".toList.isPrefixOf rest && c == '\x1b') = true then
      reset.toList ++ style.start.toList ++ resume style (rest.drop 3)
    else c :: resume style rest
termination_by text => text.length
decreasing_by all_goals simp only [List.length_drop, List.length_cons]; omega

end Style

/-- A text filled up with spaces behind it to a number of characters. -/
def padEnd (width : Nat) (text : String) : String :=
  text ++ String.ofList (List.replicate (width - text.length) ' ')

/-- A text in a style, filled up inside of the style to a number of characters. -/
def paint (isStyled : Bool) (style : Style) (text : String) (width : Nat := 0) : String :=
  if isStyled then
    style.start ++ padEnd width (String.ofList (style.resume text.toList)) ++ Style.reset
  else padEnd width text

/-- Whether output is styled: a variable may force styles or forbid them, in this order; otherwise
only a terminal shows them, unless a variable switches them off there. -/
def isStyled (environment : String → Option String) (isTerminal : Bool) : Bool :=
  if (environment "CLICOLOR_FORCE").any (· != "0") then true
  else if (environment "NO_COLOR").isSome then false
  else isTerminal && (environment "CLICOLOR").all (· != "0")

end ClusterUpgrade
