/-
**The markup that shows a failure in place of a component.**

The element names the class of the component, the class of the error and its message; if the
settings say so, a list of what led to the error follows. Every text in it is escaped.

* `Diagnostic.html` — the markup of an error.
-/

import ReactiveView.Config
import ReactiveView.Error
import ReactiveView.Text.Html

namespace ReactiveView.Diagnostic

open Html (escape)

/-- The texts below the message: what led to the error, as far as the settings allow. -/
def listed (error : Error) (config : DiagnosticsConfig) : List String :=
  if config.includeFrames then (error.frames.drop 1).take config.maxFrames else []

/-- The list of some texts; nothing if there are none. -/
def listHtml (frames : List String) : String :=
  if frames.isEmpty then ""
  else "<ol>" ++ String.join (frames.map fun frame => "<li>" ++ escape frame ++ "</li>") ++ "</ol>"

/-- The markup that shows an error of a component of the given class. -/
def html (className : String) (error : Error) (config : DiagnosticsConfig) : String :=
  "<div class=\"" ++ escape config.className ++ "\" data-component-class=\"" ++ escape className ++
    "\"><strong>" ++ escape error.kind.name ++ "</strong> <span>" ++ escape error.message ++
    "</span>" ++ listHtml (listed error config) ++ "</div>"

end ReactiveView.Diagnostic
