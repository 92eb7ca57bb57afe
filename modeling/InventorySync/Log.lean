/-
# Log — lines for the operator

A line has a level and a text. What is shown depends on the level alone.
-/

namespace InventorySync.Log

set_option autoImplicit false

inductive Level where
  | debug
  | info
  | warn
  | error
  deriving DecidableEq, Repr

namespace Level

def label : Level → String
  | debug => "DEBUG"
  | info => "INFO"
  | warn => "WARN"
  | error => "ERROR"

/-- Higher is more urgent. -/
def urgency : Level → Nat
  | debug => 0
  | info => 1
  | warn => 2
  | error => 3

/-- A level by name, in any case. -/
def ofName? (name : String) : Option Level :=
  [debug, info, warn, error].find? fun l => l.label == String.map Char.toUpper name

end Level

/-- Which lines are shown. -/
inductive Threshold where
  | nothing
  | least (level : Level)
  deriving DecidableEq, Repr

namespace Threshold

/-- The threshold that a setting names: `info` if there is none, and `error` if it is
empty. -/
def ofSetting : Option String → Threshold
  | none => least .info
  | some setting =>
    match String.map Char.toLower setting with
    | "" => least .error
    | "off" => nothing
    | "trace" => least .debug
    | name => least ((Level.ofName? name).getD .info)

end Threshold

structure Entry where
  level : Level
  text : String
  deriving DecidableEq, Repr

namespace Entry

def line (e : Entry) : String := e.level.label ++ " " ++ e.text

/-- The line passes a threshold. -/
def isShown (e : Entry) : Threshold → Bool
  | .nothing => false
  | .least level => level.urgency ≤ e.level.urgency

end Entry

def debug (text : String) : Entry := ⟨.debug, text⟩
def info (text : String) : Entry := ⟨.info, text⟩
def warn (text : String) : Entry := ⟨.warn, text⟩
def error (text : String) : Entry := ⟨.error, text⟩

end InventorySync.Log
