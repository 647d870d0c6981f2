import Mathlib.Data.Finset.Card
import Telematics.Proofs.Device.History
import Telematics.Proofs.Service.Subscription
import Telematics.Proofs.Terminal.Endurance
import Telematics.Proofs.Text

namespace Telematics

open Text

namespace Settings

variable {env : Environment}

@[simp] lemma ofEnvironment_host : (ofEnvironment env).host = hostOf env := by
  rw [ofEnvironment]

@[simp] lemma ofEnvironment_port : (ofEnvironment env).port = portOf env := by
  rw [ofEnvironment]

@[simp] lemma ofEnvironment_devices : (ofEnvironment env).devices = devicesOf env := by
  rw [ofEnvironment]

/-! The port. -/

def warnings (env : Environment) : List Log.Event :=
  ((invalidPort? env).map fun text => .invalidPort text defaultPort).toList

/-- The variable holds this integer, and it is a port. -/
def HasPort (env : Environment) (n : Nat) : Prop :=
  ∃ text, env.lookup "ITS_TCP_PORT" = some text ∧ Numeral.integer? 10 text = some (n : Int) ∧
    n ≤ 65535

lemma port?_eq_some {text : String} {n : Nat} :
    port? text = some n ↔ Numeral.integer? 10 text = some (n : Int) ∧ n ≤ 65535 := by
  rw [port?, Option.bind_eq_some_iff]
  constructor
  · rintro ⟨k, hk, h⟩
    split_ifs at h with range
    obtain rfl := Option.some.inj h
    rw [Int.toNat_of_nonneg range.1]
    exact ⟨hk, by omega⟩
  · rintro ⟨hn, small⟩
    refine ⟨n, hn, ?_⟩
    rw [if_pos (by omega), Int.toNat_natCast]

lemma port_of_hasPort {n : Nat} (h : HasPort env n) : portOf env = n ∧ warnings env = [] := by
  obtain ⟨text, hl, hn⟩ := h
  rw [portOf, warnings, invalidPort?, hl, Option.bind_some, port?_eq_some.2 hn, Option.filter_some,
    port?_eq_some.2 hn]
  exact ⟨rfl, rfl⟩

lemma port_of_refused {text : String} (hl : env.lookup "ITS_TCP_PORT" = some text)
    (h : ∀ n, ¬ HasPort env n) :
    portOf env = defaultPort ∧ warnings env = [.invalidPort text defaultPort] := by
  have none : port? text = none := by
    rw [Option.eq_none_iff_forall_ne_some]
    intro n hn
    exact h n ⟨text, hl, port?_eq_some.1 hn⟩
  rw [portOf, warnings, invalidPort?, hl, Option.bind_some, none, Option.filter_some, none]
  exact ⟨rfl, rfl⟩

lemma port_of_unset (h : env.lookup "ITS_TCP_PORT" = none) :
    portOf env = defaultPort ∧ warnings env = [] := by
  rw [portOf, warnings, invalidPort?, h]
  exact ⟨rfl, rfl⟩

lemma level_of_warning {e : Log.Event} (h : e ∈ warnings env) : e.level = Log.Level.warning := by
  obtain ⟨text, -, rfl⟩ := Option.map_eq_some_iff.1 (Option.mem_toList.1 h)
  rfl

lemma port_le (env : Environment) : portOf env ≤ 65535 := by
  by_cases h : ∃ n, HasPort env n
  · obtain ⟨n, hn⟩ := h
    rw [(port_of_hasPort hn).1]
    obtain ⟨-, -, -, small⟩ := hn
    exact small
  · cases hl : env.lookup "ITS_TCP_PORT" with
    | none =>
      rw [(port_of_unset hl).1]
      decide
    | some text =>
      rw [(port_of_refused hl (not_exists.1 h)).1]
      decide

/-! The host. -/

lemma trimmed_trim (s : String) : Trimmed isBlank (trim s).toList := by
  rw [trim, String.toList_ofList]
  exact trimmed_trimOf isBlank s.toList

lemma host_spec (env : Environment) : hostOf env ≠ "" ∧ Trimmed isBlank (hostOf env).toList := by
  unfold hostOf
  have trimmed := trimmed_trim ((env.lookup "ITS_TCP_HOST").getD defaultHost)
  split
  · have solid : defaultHost.toList.all fun c => !isBlank c := by decide +kernel
    refine ⟨by decide, trimmed_of_forall ?_⟩
    simpa only [List.all_eq_true, Bool.not_eq_true'] using solid
  · rename_i filled
    exact ⟨filled, trimmed⟩

/-! The devices. -/

/-- The text is the item without the blanks around it. -/
def IsCore (item : List Char) (text : String) : Prop :=
  Trimmed isBlank text.toList ∧ ∃ lead trail, item = lead ++ (text.toList ++ trail) ∧
    (∀ c ∈ lead, isBlank c) ∧ ∀ c ∈ trail, isBlank c

def deviceText (env : Environment) : List Char :=
  ((env.lookup "ITS_DEVICES").getD "").toList

def deviceItems (env : Environment) : List (List Char) :=
  (fields ',' (deviceText env)).filter fun item => !item.all isBlank

lemma trim_ofList (item : List Char) :
    trim (String.ofList item) = String.ofList (trimOf isBlank item) := by
  rw [trim, String.toList_ofList]

lemma trim_ne_empty_iff (item : List Char) :
    trim (String.ofList item) ≠ "" ↔ !item.all isBlank := by
  rw [trim_ofList, Ne, String.ofList_eq_empty_iff, trimOf_eq_nil_iff, ← List.all_eq_true,
    Bool.not_eq_true, Bool.not_eq_true']

lemma devicesOf_eq (env : Environment) :
    devicesOf env = (deviceItems env).map fun item => String.ofList (trimOf isBlank item) := by
  have kept : ((· ≠ "") : String → Bool) ∘ (trim ∘ String.ofList) = fun item => !item.all isBlank := by
    funext item
    rw [Bool.eq_iff_iff, Function.comp_apply, Function.comp_apply, decide_eq_true_iff]
    exact trim_ne_empty_iff item
  rw [devicesOf, fieldsOf, List.map_map, List.filter_map, kept, deviceItems, deviceText]
  exact List.map_congr_left fun item _ => trim_ofList item

lemma isCore_trimOf (item : List Char) : IsCore item (String.ofList (trimOf isBlank item)) := by
  rw [IsCore, String.toList_ofList]
  exact ⟨trimmed_trimOf isBlank item, exists_trimmed isBlank item⟩

structure IsDevice (text : String) : Prop where
  filled : text ≠ ""
  trimmed : Trimmed isBlank text.toList
  single : ',' ∉ text.toList

lemma isDevice_of_mem {d : String} (h : d ∈ devicesOf env) : IsDevice d := by
  rw [devicesOf_eq] at h
  obtain ⟨item, hi, rfl⟩ := List.mem_map.1 h
  obtain ⟨field, solid⟩ := List.mem_filter.1 hi
  refine ⟨?_, (isCore_trimOf item).1, ?_⟩
  · rw [← trim_ofList]
    exact (trim_ne_empty_iff item).2 solid
  · rw [String.toList_ofList, mem_trimOf_iff (by decide)]
    exact not_mem_of_mem_fields field

lemma deviceItems_joined {ds : List String} (h : ∀ d ∈ ds, IsDevice d) (others : Environment) :
    deviceItems (("ITS_DEVICES", ",".intercalate ds) :: others) = ds.map String.toList := by
  have text : deviceText (("ITS_DEVICES", ",".intercalate ds) :: others) =
      [','].intercalate (ds.map String.toList) := String.toList_intercalate
  rw [deviceItems, text]
  by_cases empty : ds = []
  · rw [empty]
    rfl
  · rw [fields_intercalate (mt List.map_eq_nil_iff.1 empty)
      (List.forall_mem_map.2 fun d hd => (h d hd).single), List.filter_eq_self]
    intro item hi
    obtain ⟨d, hd, rfl⟩ := List.mem_map.1 hi
    rw [← trim_ne_empty_iff, trim_ofList, trimOf_of_trimmed (h d hd).trimmed, String.ofList_toList]
    exact (h d hd).filled

lemma devicesOf_joined {ds : List String} (h : ∀ d ∈ ds, IsDevice d) (others : Environment) :
    devicesOf (("ITS_DEVICES", ",".intercalate ds) :: others) = ds := by
  rw [devicesOf_eq, deviceItems_joined h, List.map_map]
  conv_rhs => rw [← List.map_id ds]
  apply List.map_congr_left
  intro d hd
  rw [Function.comp_apply, trimOf_of_trimmed (h d hd).trimmed, String.ofList_toList, id]

lemma isCore_devices (env : Environment) :
    List.Forall₂ IsCore (deviceItems env) (devicesOf env) := by
  rw [devicesOf_eq, List.forall₂_map_right_iff, List.forall₂_same]
  exact fun item _ => isCore_trimOf item

end Settings

/-! The registry at the start. -/

def Occurrence.connects : Occurrence → Bool
  | turn (.connect ..) => true
  | _ => false

lemma Service.signal_registry (s : Service) (key : Nat) (x : Feed.Signal) :
    (s.signal key x).registry = s.registry := by
  obtain same | ⟨w, m, -, -, next⟩ := s.signal_cases key x
  · rw [same]
  · rw [next]
    rfl

namespace Loop

variable {l : Loop}

lemma follow_unlinked {o : Occurrence} (h : l.links = []) (ho : o.connects = false) :
    (l.follow o).links = [] ∧ (l.follow o).service.registry = l.service.registry := by
  cases o with
  | turn t =>
    cases t with
    | connect channel limit => cases ho
    | receive index input =>
      have nothing : l.receive index input = l := by
        rw [receive, h]
        rfl
      rw [follow, take, nothing]
      exact ⟨h, rfl⟩
    | join acceptFails => exact ⟨h, rfl⟩
    | change key c => exact ⟨h, rfl⟩
    | publish message => exact ⟨h, rfl⟩
    | run key => exact ⟨h, Service.settleOne_registry _ key⟩
    | advance milliseconds => exact ⟨h, Service.settle_registry _⟩
  | tick milliseconds => exact ⟨h, rfl⟩
  | arrive => exact ⟨h, rfl⟩
  | signal key x => exact ⟨h, l.service.signal_registry key x⟩

lemma course_unlinked {run : List Occurrence} (h : l.links = [])
    (hr : ∀ o ∈ run, o.connects = false) : (l.course run).service.registry = l.service.registry := by
  induction run generalizing l with
  | nil => rfl
  | cons o run ih =>
    obtain ⟨first, rest⟩ := List.forall_mem_cons.1 hr
    obtain ⟨unlinked, same⟩ := follow_unlinked h first
    exact (ih unlinked rest).trans same

end Loop

namespace Settings

variable {env : Environment}

lemma registry_of_start {started : Service} (h : Service.start env = .ok started) :
    started.registry.identifiers = (devicesOf env).eraseDups := by
  obtain ⟨-, -, registry⟩ := Service.start_eq h
  rw [registry, Registry.ofList_fst_eq]
  rfl

lemma warned_at_start {started : Service} (h : Service.start env = .ok started) :
    ∃ output, (Log.Output.initial.writeEvents (warnings env)).configure (ofEnvironment env) =
      .ok output := by
  obtain ⟨output, configured, -⟩ := bind_eq_ok.1 h
  exact ⟨output, configured⟩

/-- Every environment gives settings that can be used. The port is that of the variable, and only a
variable without a port in it is warned of, once. The host is a text without blanks around it. The
devices are the items between the commas that are not blank, without the blanks around them; written
with commas again they are the same devices. A service that starts with them knows each of them once,
and no other device before a terminal connects. -/
theorem usable (env : Environment) :
    let settings := ofEnvironment env
    ((env.lookup "ITS_TCP_PORT" = none ∧ settings.port = defaultPort ∧ warnings env = []) ∨
      (∃ n, HasPort env n ∧ settings.port = n ∧ warnings env = []) ∨
      ∃ text, env.lookup "ITS_TCP_PORT" = some text ∧ (∀ n, ¬ HasPort env n) ∧
        settings.port = defaultPort ∧ warnings env = [.invalidPort text defaultPort]) ∧
    (∀ e ∈ warnings env, e.level = Log.Level.warning) ∧ settings.port ≤ 65535 ∧
    settings.host ≠ "" ∧ Trimmed isBlank settings.host.toList ∧
    (∃ items, items ≠ [] ∧ (∀ item ∈ items, ',' ∉ item) ∧
      [','].intercalate items = ((env.lookup "ITS_DEVICES").getD "").toList ∧
      List.Forall₂ IsCore (items.filter fun item => !item.all isBlank) settings.devices) ∧
    (∀ others, (ofEnvironment
      (("ITS_DEVICES", ",".intercalate settings.devices) :: others)).devices = settings.devices) ∧
    ∀ started, Service.start env = .ok started →
      (∃ output, (Log.Output.initial.writeEvents (warnings env)).configure settings = .ok output) ∧
      started.registry.identifiers.Nodup ∧
      (∀ x, x ∈ started.registry.identifiers ↔ x ∈ settings.devices) ∧
      ∀ run : List Occurrence, (∀ o ∈ run, o.connects = false) →
        (({ service := started, links := [] } : Loop).course run).service.deviceCount =
          settings.devices.toFinset.card := by
  simp only [ofEnvironment_port, ofEnvironment_host, ofEnvironment_devices]
  obtain ⟨filled, trimmed⟩ := host_spec env
  refine ⟨?_, fun e => level_of_warning, port_le env, filled, trimmed, ?_, ?_, ?_⟩
  · by_cases h : ∃ n, HasPort env n
    · obtain ⟨n, hn⟩ := h
      exact .inr (.inl ⟨n, hn, port_of_hasPort hn⟩)
    · cases hl : env.lookup "ITS_TCP_PORT" with
      | none => exact .inl ⟨rfl, port_of_unset hl⟩
      | some text =>
        have none := not_exists.1 h
        exact .inr (.inr ⟨text, rfl, none, port_of_refused hl none⟩)
  · exact ⟨fields ',' (deviceText env), fields_ne_nil _ _, fun item => not_mem_of_mem_fields,
      intercalate_fields _ _, isCore_devices env⟩
  · exact devicesOf_joined fun d => isDevice_of_mem
  · intro started h
    have identifiers := registry_of_start h
    have mem (x : String) : x ∈ started.registry.identifiers ↔ x ∈ devicesOf env := by
      rw [identifiers]
      exact List.mem_eraseDups
    have nodup : started.registry.identifiers.Nodup := by
      rw [identifiers, ← Registry.nil_order]
      exact Registry.nodup_order List.nodup_nil _
    refine ⟨warned_at_start h, nodup, mem, fun run hr => ?_⟩
    have same : started.registry.identifiers.toFinset = (devicesOf env).toFinset := by
      ext x
      rw [List.mem_toFinset, List.mem_toFinset, mem]
    rw [Service.deviceCount, Loop.course_unlinked rfl hr, ← same, List.toFinset_card_of_nodup nodup]
    rfl

def crowded : Environment :=
  [("ITS_TCP_PORT", "65536"), ("ITS_DEVICES", " 861,, 862\t, ,861")]

theorem crowded_usable : ∃ started, Service.start crowded = .ok started ∧
    (warnings crowded).length = 1 ∧ (ofEnvironment crowded).devices = ["861", "862", "861"] ∧
    (({ service := started, links := [] } : Loop).course
      [.arrive, .turn (.publish "x"), .turn (.join false)]).service.deviceCount = 2 := by
  obtain ⟨started, starts⟩ : ∃ started, Service.start crowded = .ok started :=
    exists_ok (by decide +kernel)
  obtain ⟨-, -, -, -, -, -, -, known⟩ := usable crowded
  obtain ⟨-, -, -, count⟩ := known started starts
  refine ⟨started, starts, by decide +kernel, by decide +kernel, ?_⟩
  rw [count _ (by decide)]
  decide +kernel

end Settings

end Telematics
