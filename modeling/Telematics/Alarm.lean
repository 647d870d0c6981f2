namespace Telematics

inductive Alarm where
  | sos
  | lowBattery
  | hardBraking
  | hardAcceleration
  | hardCornering
  | overspeed
  | tampering
deriving DecidableEq

namespace Alarm

def name : Alarm → String
  | sos => "sos"
  | lowBattery => "lowBattery"
  | hardBraking => "hardBraking"
  | hardAcceleration => "hardAcceleration"
  | hardCornering => "hardCornering"
  | overspeed => "overspeed"
  | tampering => "tampering"

def ofStatus? : String → Option Alarm
  | "WD" | "EA" => some sos
  | "BL" => some lowBattery
  | "HB" => some hardBraking
  | "HA" => some hardAcceleration
  | "RT" => some hardCornering
  | "OS" => some overspeed
  | "TA" => some tampering
  | _ => none

end Alarm

end Telematics
