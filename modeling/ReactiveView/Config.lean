/-
**The settings of a session.**

* `Config.default` — undefined names are errors, and an output, a string and the number of loop runs
  are bounded.
-/

namespace ReactiveView

/-- How failures are shown in place of a component. -/
structure DiagnosticsConfig where
  /-- Whether what led to an error is listed below it. -/
  includeFrames : Bool
  maxFrames : Nat
  /-- The class of the element that shows the error. -/
  className : String
deriving DecidableEq

/-- The settings of a session. -/
structure Config where
  /-- Whether reading an undefined name is an error instead of `nil`. -/
  strictVariables : Bool
  /-- The greatest number of bytes of the output of one part and of a string it builds. -/
  maxOutputLength : Nat
  /-- The greatest number of loop runs in one rendering of a component. -/
  maxIterations : Nat
  diagnostics : DiagnosticsConfig
deriving DecidableEq

/-- The settings for showing failures where none are given. -/
def DiagnosticsConfig.default : DiagnosticsConfig := ⟨true, 16, "sigview-error"⟩

/-- The settings where none are given. -/
def Config.default : Config := ⟨true, 4194304, 100000, DiagnosticsConfig.default⟩

instance : Inhabited Config := ⟨Config.default⟩

end ReactiveView
