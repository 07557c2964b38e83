/-
**Settings given as TOML.**

Each setting may be given once; those that are not given keep their default. The settings for
showing failures are a section of their own, the only one, or one value: an inline table, or an
array of its settings in their order, of which later ones may be missing and further items are
passed over.

* `Config.ofText` — the settings of a text.
-/

import ReactiveView.Config
import ReactiveView.Data.Integer
import ReactiveView.Error
import ReactiveView.Toml.Reading

namespace ReactiveView

namespace Config

/-- What a text assigns, each with its full path. -/
abbrev Assignments := List (Toml.Path × Toml.Value)

/-- The key of the settings for showing failures. -/
def diagnosticsKey : String := "diagnostics"

/-- A number that is not negative and has at most 64 bits. -/
def size? : Toml.Value → Option Nat
  | .int number =>
    if 0 ≤ number && number ≤ (Integer.greatestWord : Int) then some number.toNat else none
  | _ => none

end Config

namespace DiagnosticsConfig

open Config (Assignments size?)

/-- The settings after one of them is given. -/
def assign (config : DiagnosticsConfig) : Toml.Path → Toml.Value → Option DiagnosticsConfig
  | ["include_frames"], .bool value => some { config with includeFrames := value }
  | ["max_frames"], value => (size? value).map fun number => { config with maxFrames := number }
  | ["class"], .text value => some { config with className := value }
  | _, _ => none

/-- The settings after some of them are given. -/
def assignAll (config : DiagnosticsConfig) (assignments : Assignments) : Option DiagnosticsConfig :=
  assignments.foldlM (fun config given => config.assign given.1 given.2) config

/-- The order of the settings in an array. -/
def order : List Toml.Path := [["include_frames"], ["max_frames"], ["class"]]

/-- The settings that one value gives. -/
def ofValue? : Toml.Value → Option DiagnosticsConfig
  | .table entries => default.assignAll entries
  | .array items => default.assignAll (order.zip items)
  | _ => none

end DiagnosticsConfig

namespace Config

/-- The settings after one of them is given. -/
def assign (config : Config) : Toml.Path → Toml.Value → Option Config
  | ["strict_variables"], .bool value => some { config with strictVariables := value }
  | ["max_output_len"], value =>
    (size? value).map fun number => { config with maxOutputLength := number }
  | ["max_iterations"], value =>
    (size? value).map fun number => { config with maxIterations := number }
  | key :: path, value =>
    if key ≠ diagnosticsKey then none
    else if path.isEmpty then
      (DiagnosticsConfig.ofValue? value).map fun diagnostics => { config with diagnostics }
    else
      (config.diagnostics.assign path value).map fun diagnostics => { config with diagnostics }
  | [], _ => none

/-- The assignments of the statements within the one section there may be. -/
def inSection? : List Toml.Statement → Option Assignments
  | [] => some []
  | .assign path value :: rest => (inSection? rest).map ((diagnosticsKey :: path, value) :: ·)
  | _ => none

/-- Whether something is assigned to the section from outside of it. -/
def reachesSection (assignments : Assignments) : Bool :=
  assignments.any fun given => given.1.head? == some diagnosticsKey

/-- The assignments of some statements, after those in `sofar`. -/
def assignments? (sofar : Assignments) : List Toml.Statement → Option Assignments
  | [] => some sofar
  | .assign path value :: rest => assignments? (sofar ++ [(path, value)]) rest
  | .openSection path :: rest =>
    if path = [diagnosticsKey] && !reachesSection sofar then (inSection? rest).map (sofar ++ ·)
    else none
  | .openFurther _ :: _ => none

/-- The settings that some assignments give. -/
def ofAssignments? (assignments : Assignments) : Option Config :=
  if Toml.areApart (assignments.map Prod.fst) then
    assignments.foldlM (fun config given => config.assign given.1 given.2) Config.default
  else none

/-- The settings of a text. -/
def ofText (text : String) : Except Error Config :=
  match (Toml.statements? text).bind (assignments? []) |>.bind ofAssignments? with
  | some config => .ok config
  | none => .error .invalidConfig

end Config

end ReactiveView
