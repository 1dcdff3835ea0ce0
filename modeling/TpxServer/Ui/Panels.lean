import TpxServer.Common

/-!
# The panels of the main window

The settings panel with its text fields, the status panel and the log window. A port is read from
its field by `std::stoul`, which throws if the text does not begin with a number or the number does
not fit into an `unsigned long`, which has 32 bits.
-/

namespace TpxServer.Ui

/-! ## Reading a number -/

/-- `std::isspace`. -/
def isSpace (c : Char) : Bool := c.toNat = 32 ∨ (9 ≤ c.toNat ∧ c.toNat ≤ 13)

def isDigit (c : Char) : Bool := 48 ≤ c.toNat ∧ c.toNat ≤ 57

/-- The sign and the rest. -/
def signOf : List Char → Bool × List Char
  | c :: str => if c = '-' then (true, str) else if c = '+' then (false, str) else (false, c :: str)
  | [] => (false, [])

/-- The number written by digits. -/
def digitsValue (digits : List Char) : ℕ :=
  digits.foldl (fun value c => 10 * value + (c.toNat - 48)) 0

/-- `std::stoul`, or `none` if it throws. -/
def stoul (str : List Char) : Option ℕ :=
  let (negative, str) := signOf (str.dropWhile isSpace)
  let digits := str.takeWhile isDigit
  let value := digitsValue digits
  -- `std::invalid_argument` and `std::out_of_range`
  if digits = [] ∨ 2 ^ 32 ≤ value then none
  else if negative then some ((2 ^ 32 - value) % 2 ^ 32)
  else some value

/-! ## The settings panel -/

structure CommsSettings where
  host_ip : String
  host_port : ℕ
  timepix_ip : String
  timepix_port : ℕ
  outgoing_port : ℕ
  deriving Repr, DecidableEq

/-- The contents of the fields; `enabled` is the state of all of them, which `setEnabled` sets
alike. -/
structure SettingsPanel where
  mHostIpSettingEdit : String
  mHostPortSettingEdit : String := "0"
  mTimepixIpSettingEdit : String := "192.168.100.10"
  mTimepixPortSettingEdit : String := "50000"
  mOutgoingPortSettingEdit : String := "48288"
  mAutoRestartButton : Bool := false
  enabled : Bool := true
  deriving Repr, DecidableEq

/-- What the user changes in a field. -/
inductive Edit where
  | hostIp (text : String)
  | hostPort (text : String)
  | timepixIp (text : String)
  | timepixPort (text : String)
  | outgoingPort (text : String)
  | autoRestart (checked : Bool)
  deriving Repr, DecidableEq

namespace SettingsPanel

def setEnabled (enabled : Bool) (p : SettingsPanel) : SettingsPanel := { p with enabled := enabled }

/-- `none` if `std::stoul` throws. -/
def getSettings (p : SettingsPanel) : Option CommsSettings :=
  (stoul p.mHostPortSettingEdit.toList).bind fun host_port =>
    (stoul p.mTimepixPortSettingEdit.toList).bind fun timepix_port =>
      (stoul p.mOutgoingPortSettingEdit.toList).map fun outgoing_port =>
        { host_ip := p.mHostIpSettingEdit
          host_port := host_port
          timepix_ip := p.mTimepixIpSettingEdit
          timepix_port := timepix_port
          outgoing_port := outgoing_port }

def autoRestartChecked (p : SettingsPanel) : Bool := p.mAutoRestartButton

def edit (p : SettingsPanel) : Edit → SettingsPanel
  | .hostIp text => { p with mHostIpSettingEdit := text }
  | .hostPort text => { p with mHostPortSettingEdit := text }
  | .timepixIp text => { p with mTimepixIpSettingEdit := text }
  | .timepixPort text => { p with mTimepixPortSettingEdit := text }
  | .outgoingPort text => { p with mOutgoingPortSettingEdit := text }
  | .autoRestart checked => { p with mAutoRestartButton := checked }

@[simp] theorem getSettings_setEnabled (p : SettingsPanel) (enabled : Bool) :
    (p.setEnabled enabled).getSettings = p.getSettings := rfl

@[simp] theorem autoRestartChecked_setEnabled (p : SettingsPanel) (enabled : Bool) :
    (p.setEnabled enabled).autoRestartChecked = p.autoRestartChecked := rfl

end SettingsPanel

/-! ## The status panel -/

structure StatusPanel where
  text : String
  styleSheet : String
  deriving Repr, DecidableEq

def setServerRunning (running : Bool) : StatusPanel :=
  if running then { text := "Running", styleSheet := "QLabel \x7b color: green; \x7d" }
  else { text := "Not Running", styleSheet := "QLabel \x7b color: red; \x7d" }

/-! ## The log window -/

/-- Who says a line. -/
inductive Source where
  | window
  | server (id : ℕ)
  /-- A secondary thread of a server. -/
  | secondary (id thread : ℕ)
  deriving Repr, DecidableEq

/-- The lines of the log window. `source` is not part of the program. -/
structure LogLine where
  source : Source
  html : String
  deriving Repr, DecidableEq

/-- The slot of the log window that a signal is connected to. -/
def html : Signal → String
  | .log str => "<b>Log:</b> " ++ str
  | .warn str => "<b style=\"color:orange\">Warning:</b> " ++ str
  | .err str => "<b style=\"color:red\">Error:</b> " ++ str

end TpxServer.Ui
