import Scripting.Settings.Basic
import Scripting.Yaml.Block
import Scripting.Yaml.Decode

namespace Scripting

/-!
# Settings files

A settings file is a mapping whose keys are the names of settings.  What it leaves out or leaves
empty keeps its usual value.
-/

/-- Why a text is no settings file. -/
inductive DocumentError where
  | malformed (error : Yaml.Malformed)
  | mistyped (faults : List Yaml.DecodeFault)
  | invalid (fault : SettingsFault)

namespace DocumentError

/-- The wording of an error: one line for each fault of a type. -/
def message : DocumentError → String
  | .malformed error => error.message
  | .mistyped faults =>
      "yaml: unmarshal errors:\n  " ++ "\n  ".intercalate (faults.map Yaml.DecodeFault.message)
  | .invalid fault => fault.message

end DocumentError

namespace Settings

/-- Settings with the value of one key, if it has one. -/
def assign (settings : Settings) (entry : Yaml.Entry) : List Yaml.DecodeFault × Settings :=
  let node := entry.value
  match entry.key.text with
  | "debug" =>
      let decoded := node.toTexts
      (decoded.faults, { settings with debug := decoded.value.getD settings.debug })
  | "numeric_truth" =>
      let decoded := node.toBoolean
      (decoded.faults, { settings with numericTruth := decoded.value.getD settings.numericTruth })
  | "strict_assign" =>
      let decoded := node.toBoolean
      (decoded.faults, { settings with strictAssign := decoded.value.getD settings.strictAssign })
  | "precedence" =>
      let decoded := node.toText
      (decoded.faults, { settings with precedence := decoded.value.getD settings.precedence })
  | "max_depth" =>
      let decoded := node.toInteger
      (decoded.faults, { settings with maxDepth := decoded.value.getD settings.maxDepth })
  | "globals" =>
      let decoded := node.toTable
      (decoded.faults, { settings with globals := decoded.value.getD settings.globals })
  | name => ([.unknownField name entry.key.line .settings], settings)

/-- Settings with the values of several keys; a key that stands for nothing is passed over. -/
def assignAll (settings : Settings) : List Yaml.Entry → List Yaml.DecodeFault × Settings
  | [] => ([], settings)
  | entry :: rest =>
      let (faults, settings) :=
        if entry.key.isNothing then ([], settings) else settings.assign entry
      let (others, settings) := settings.assignAll rest
      (faults ++ others, settings)

/-- The usual settings with what the root of a document says. -/
def ofNode (root : Yaml.Node) : List Yaml.DecodeFault × Settings :=
  match root with
  | .mapping _ entries =>
      if (Yaml.keyFaults entries).isEmpty then usual.assignAll entries
      else (Yaml.keyFaults entries, usual)
  | .scalar content => if content.isNothing then ([], usual) else (root.clash .settings, usual)
  | .sequence .. => (root.clash .settings, usual)

/-- The settings of a file with a text. -/
def parse (text : String) : Except DocumentError Settings :=
  match Yaml.parse text with
  | .error error => .error (.malformed error)
  | .ok root =>
      let (faults, settings) := (root.map ofNode).getD ([], usual)
      if faults.isEmpty then
        match settings.validate with
        | .ok () => .ok settings
        | .error fault => .error (.invalid fault)
      else
        .error (.mistyped faults)

end Settings

end Scripting
