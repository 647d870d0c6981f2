import Telematics.Numeral.Integer
import Telematics.Points
import Telematics.Text.Blank
import Telematics.Text.Fields
import Telematics.Text.Uppercase

namespace Telematics

namespace Settings

def defaultHost : String := "0.0.0.0"

def defaultPort : Nat := 5137

def defaultLevel : String := "INFO"

end Settings

structure Settings where
  host : String := Settings.defaultHost
  port : Nat := Settings.defaultPort
  devices : List String := []
  registerUnknown : Bool := false
  logLevel : String := Settings.defaultLevel
  logJson : Bool := false
  logFile : Option Points := none

namespace Settings

abbrev Environment := List (String × String)

def trueWords : List String := ["true", "1", "yes", "on"]

/-- A switch is on if its text, without blanks around it and in any case, is one of the words. -/
def switch (env : Environment) (name : String) : Bool :=
  trueWords.contains (Text.trim ((env.lookup name).getD "")).toLower

def hostOf (env : Environment) : String :=
  match Text.trim ((env.lookup "ITS_TCP_HOST").getD defaultHost) with
  | "" => defaultHost
  | host => host

def port? (text : String) : Option Nat :=
  (Numeral.integer? 10 text).bind fun n =>
    if 0 ≤ n ∧ n ≤ 65535 then some n.toNat else none

def invalidPort? (env : Environment) : Option String :=
  (env.lookup "ITS_TCP_PORT").filter fun text => (port? text).isNone

def portOf (env : Environment) : Nat :=
  ((env.lookup "ITS_TCP_PORT").bind port?).getD defaultPort

def devicesOf (env : Environment) : List String :=
  ((Text.fieldsOf ',' ((env.lookup "ITS_DEVICES").getD "")).map Text.trim).filter (· ≠ "")

def ofEnvironment (env : Environment) : Settings where
  host := hostOf env
  port := portOf env
  devices := devicesOf env
  registerUnknown := switch env "ITS_REGISTER_UNKNOWN"
  logLevel := Text.upper ((env.lookup "ITS_LOG_LEVEL").getD defaultLevel)
  logJson := switch env "ITS_LOG_JSON"
  logFile := ((env.lookup "ITS_LOG_FILE").filter (· ≠ "")).map Points.ofString

end Settings

end Telematics
