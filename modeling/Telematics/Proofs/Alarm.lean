import Mathlib.Tactic.Common
import Telematics.Alarm

namespace Telematics.Alarm

def categories : List (String × String) :=
  [("WD", "sos"), ("EA", "sos"), ("BL", "lowBattery"), ("HB", "hardBraking"),
    ("HA", "hardAcceleration"), ("RT", "hardCornering"), ("OS", "overspeed"), ("TA", "tampering")]

lemma name_ofStatus? (code : String) : (ofStatus? code).map name = categories.lookup code := by
  by_cases mapped : code ∈ categories.map Prod.fst
  · simp only [categories, List.map_cons, List.map_nil, List.mem_cons, List.not_mem_nil,
      or_false] at mapped
    obtain rfl | rfl | rfl | rfl | rfl | rfl | rfl | rfl := mapped
    all_goals rfl
  · have unknown : categories.lookup code = none := by
      rw [List.lookup_eq_none_iff]
      intro x hx
      rw [bne_iff_ne]
      rintro rfl
      exact mapped (List.mem_map_of_mem hx)
    have routine : ofStatus? code = none := by
      simp only [categories, List.map_cons, List.map_nil, List.mem_cons, List.not_mem_nil,
        or_false, not_or] at mapped
      unfold ofStatus?
      split <;> simp_all
    rw [unknown, routine, Option.map_none]

end Telematics.Alarm
