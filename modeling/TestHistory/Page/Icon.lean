import TestHistory.Page.Html

/-!
# Icons
-/

namespace TestHistory.Page

inductive Icon where
  | copy
  | error
  | warning
  | info
  | search
  deriving DecidableEq, Repr

namespace Icon

def name : Icon → String
  | copy => "copy"
  | error => "error"
  | warning => "warning"
  | info => "info"
  | search => "search"

def ofName? (name : String) : Option Icon :=
  [copy, error, warning, info, search].find? fun icon => icon.name = name

def circle (x y radius : String) : Html :=
  element "circle" [attr "cx" x, attr "cy" y, attr "r" radius] []

def stroke (x₁ y₁ x₂ y₂ : String) : Html :=
  element "line" [attr "x1" x₁, attr "y1" y₁, attr "x2" x₂, attr "y2" y₂] []

def path (d : String) : Html :=
  element "path" [attr "d" d] []

def shape : Icon → List Html
  | copy => [
      element "rect" [attr "x" "9", attr "y" "9", attr "width" "13", attr "height" "13",
        attr "rx" "2", attr "ry" "2"] [],
      path "M5 15H4a2 2 0 0 1-2-2V4a2 2 0 0 1 2-2h9a2 2 0 0 1 2 2v1"]
  | error => [circle "12" "12" "10", stroke "15" "9" "9" "15", stroke "9" "9" "15" "15"]
  | warning => [
      path ("M10.29 3.86L1.82 18a2 2 0 0 0 1.71 3h16.94a2 2 0 0 0 1.71-3L13.71 3.86" ++
        "a2 2 0 0 0-3.42 0z"),
      stroke "12" "9" "12" "13", stroke "12" "17" "12.01" "17"]
  | info => [circle "12" "12" "10", stroke "12" "16" "12" "12", stroke "12" "8" "12.01" "8"]
  | search => [circle "11" "11" "8", path "m21 21-4.35-4.35"]

/-- The drawing of an icon in a color. -/
def draw (icon : Icon) (size : Nat) (color : String) : Html :=
  element "svg" [
    attr "width" (toString size), attr "height" (toString size), attr "viewBox" "0 0 24 24",
    attr "fill" "none", attr "stroke" color, attr "stroke-width" "2",
    attr "stroke-linecap" "round", attr "stroke-linejoin" "round"] icon.shape

end Icon

end TestHistory.Page
