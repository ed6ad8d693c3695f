import TestHistory.Page.Script.Comparison
import TestHistory.Page.Script.Log
import TestHistory.Page.Script.LogSearch
import TestHistory.Page.Script.LogTools
import TestHistory.Page.Script.Matrix
import TestHistory.Page.Script.Modals
import TestHistory.Page.Script.Profiles
import TestHistory.Page.Script.Shell
import TestHistory.Page.Style.Details
import TestHistory.Page.Style.Frame
import TestHistory.Page.Style.Log
import TestHistory.Page.Style.Matrix
import TestHistory.Page.Style.Profiles

/-!
# Style and script of the page

Both are part of the page, which needs no other file beside the chart library.
-/

namespace TestHistory.Page

def joinLines (lines : List String) : String :=
  "\n" ++ "\n".intercalate lines ++ "\n"

def style : String :=
  joinLines (Style.Frame.lines ++ Style.Matrix.lines ++ Style.Details.lines ++ Style.Log.lines ++
    Style.Profiles.lines)

def script : String :=
  joinLines (Script.Shell.lines ++ Script.Matrix.lines ++ Script.Log.lines ++
    Script.LogSearch.lines ++ Script.LogTools.lines ++ Script.Profiles.lines ++
    Script.Modals.lines ++ Script.Comparison.lines)

end TestHistory.Page
