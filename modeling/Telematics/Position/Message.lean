import Telematics.Json
import Telematics.Position

namespace Telematics.Position

def towerJson (t : Tower) : Json :=
  .obj [("mcc", .int t.country), ("mnc", .int t.network), ("lac", .int t.area),
    ("cid", .int t.cell), ("signal", .ofOption .int t.signal)]

def json (p : Position) : Json :=
  .obj [("type", .str "position"),
    ("protocol", .str p.protocol),
    ("device_id", .int p.deviceId),
    ("time", .ofOption (fun t => .str t.isoText) p.time),
    ("valid", .bool p.valid),
    ("lat", .ofOption .float p.latitude),
    ("lon", .ofOption .float p.longitude),
    ("speed_knots", .ofOption .float p.speed),
    ("course", .ofOption .float p.course),
    ("alt", .ofOption .float p.altitude),
    ("satellites", .ofOption .int p.satellites),
    ("ignition", .ofOption .bool p.ignition),
    ("charge", .ofOption .bool p.charge),
    ("emergency", .ofOption .bool p.emergency),
    ("power", .ofOption .float p.power),
    ("battery", .ofOption .float p.battery),
    ("input", .ofOption .int p.input),
    ("output", .ofOption .int p.output),
    ("alarm", .ofOption .str p.alarm),
    ("archive", .bool p.archive),
    ("event", .ofOption .int p.event),
    ("adc1", .ofOption .float p.adc1),
    ("adc2", .ofOption .float p.adc2),
    ("cell_towers", .ofOption (fun n => .arr (n.towers.map towerJson)) p.network)]

def message? (p : Position) : Option String :=
  p.json.text?

end Telematics.Position
