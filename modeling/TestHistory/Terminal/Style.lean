import TestHistory.Run.State

/-!
# Colors on a terminal

A style is a pair of control sequences around a text.
-/

namespace TestHistory.Terminal

structure Style where
  opening : String
  closing : String

namespace Style

def color (number : String) : Style :=
  ⟨"\x1b[38;5;" ++ number ++ "m", "\x1b[39m"⟩

def green : Style := color "10"
def red : Style := color "9"
def yellow : Style := color "11"
def bold : Style := ⟨"\x1b[1m", "\x1b[0m"⟩

def apply (style : Style) (useColor : Bool) (text : String) : String :=
  if useColor then style.opening ++ text ++ style.closing else text

def ofState : TestState → Style
  | .passed => green
  | .failed => red
  | _ => yellow

end Style

def stateText (useColor : Bool) (state : TestState) : String :=
  (Style.ofState state).apply useColor state.name

end TestHistory.Terminal
