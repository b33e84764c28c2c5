/-
This file proves that settings come back from their JSON as they were.

A section is written as an object with all of its fields, so no default takes the place of a field.
It is read field by field: a text, a number or an algorithm as itself, and a length of time as its
text is read. The sections are themselves fields of the settings as a whole.
-/

import UserDashboard.Proofs.Time.Span
import UserDashboard.Proofs.Wire
import UserDashboard.Settings.Service

namespace UserDashboard.Settings

open Credential Json Number Time

/-! ### Fields -/

theorem map_name_plain (names : List String) :
    (names.map fun name => (⟨name, []⟩ : FieldName)).map (·.name) = names := by
  rw [List.map_map]
  exact List.map_id names

/-- Fields of different names that have no other names are each known by their own. -/
theorem distinct_of_nodup {names : List String} (different : names.Nodup) :
    Distinct (names.map fun name => ⟨name, []⟩) := by
  refine ⟨by rwa [map_name_plain], fun field member => ?_⟩
  obtain ⟨name, among, rfl⟩ := List.mem_map.mp member
  cases found : (names.map fun name => (⟨name, []⟩ : FieldName)).find? (·.accepts name) with
  | none =>
    have missed := List.find?_eq_none.mp found _ member
    exact absurd ((FieldName.accepts_iff rfl).mpr rfl) missed
  | some other =>
    obtain ⟨label, -, rfl⟩ := List.mem_map.mp (List.mem_of_find?_eq_some found)
    have accepted : FieldName.accepts ⟨label, []⟩ name := by simpa using List.find?_some found
    have same : label = name := (FieldName.accepts_iff rfl).mp accepted
    exact congrArg some same

namespace Form

variable {α : Type} {section? : String → Option Json} {name : String} {default value : α}
  {read : Json → Option α} {json : Json}

/-- A section that was written with all of its fields is opened with what was written. -/
theorem fields?_object {names : List String} (different : names.Nodup) (json : Json)
    {members : List (String × Json)} (written : json = .object members)
    (all : members.map (·.1) = names) :
    ∃ section?, Form.json.fields? names json = some section? ∧
      ∀ name, section? name = valueIn? members name := by
  have known : (members.map (·.1)).Sublist
      ((names.map fun name => (⟨name, []⟩ : FieldName)).map (·.name)) := by
    rw [all, map_name_plain]
  obtain ⟨record, read, value⟩ :=
    record?_object (distinct_of_nodup different) json written known
  exact ⟨record.value?, congrArg (Option.map _) read, value⟩

/-- A field that is there is read, whatever value it would have otherwise. -/
theorem field_of_held (held : section? name = some json) (same : read json = some value) :
    field section? name default read = some value := by
  rw [field, held]
  exact same

theorem field_text {text default : String} (held : section? name = some (.string text)) :
    field section? name default Form.json.text? = some text :=
  field_of_held held rfl

theorem field_port {port default : UInt16} (held : section? name = some (.nat port.toNat)) :
    field section? name default Form.json.port? = some port := by
  have high := port.toNat_lt
  have fits : (0 : Int) ≤ port.toNat ∧ (port.toNat : Int) ≤ 65535 := by omega
  have read : readNat16? (.nat port.toNat) = some port.toNat := by
    rw [readNat16?, Json.nat, readInteger?, if_pos fits, Option.map_some, Int.toNat_natCast]
  have same := congrArg (Option.map UInt16.ofNat) read
  rw [Option.map_some, UInt16.ofNat_toNat] at same
  exact field_of_held held same

theorem field_count {count default : UInt64} (held : section? name = some (.nat count.toNat)) :
    field section? name default Form.json.count? = some count := by
  have same := congrArg (Option.map UInt64.ofNat) (readNat64?_toNat count)
  rw [Option.map_some, UInt64.ofNat_toNat] at same
  exact field_of_held held same

theorem field_span {span default : Span} (held : section? name = some span.toJson) :
    field section? name default Form.json.span? = some span :=
  field_of_held held span.read?_text

theorem field_algorithm {algorithm default : Algorithm}
    (held : section? name = some algorithm.toJson) :
    field section? name default Form.json.algorithm? = some algorithm :=
  field_of_held held algorithm.ofName?_name

end Form

/-! ### Sections -/

theorem legible_nat16 (value : UInt16) : (Json.nat value.toNat).Legible := by
  have high := value.toNat_lt
  exact .integer (by simp only [int64Min]; omega) (by simp only [nat64Max]; omega)

namespace ServerSettings

theorem legible_toJson (settings : ServerSettings) : settings.toJson.Legible := by
  refine .object ?_
  simp only [List.forall_mem_cons]
  exact ⟨.string _, legible_nat16 _, legible_nat64 _, nofun⟩

theorem read?_toJson (settings : ServerSettings) :
    read? Form.json settings.toJson = some settings := by
  have different : fields.Nodup := by decide
  obtain ⟨section?, opened, value⟩ := Form.fields?_object different settings.toJson rfl rfl
  simp only [read?, opened, Form.field_text (value "host"), Form.field_port (value "port"),
    Form.field_count (value "shutdown_grace_ms"), Option.bind_eq_bind, Option.bind_some]

end ServerSettings

namespace LoggingSettings

theorem legible_toJson (settings : LoggingSettings) : settings.toJson.Legible := by
  refine .object ?_
  simp only [List.forall_mem_cons]
  exact ⟨.string _, nofun⟩

theorem read?_toJson (settings : LoggingSettings) :
    read? Form.json settings.toJson = some settings := by
  have different : ["level"].Nodup := by decide
  obtain ⟨section?, opened, value⟩ := Form.fields?_object different settings.toJson rfl rfl
  simp only [read?, opened, Form.field_text (value "level"), Option.bind_eq_bind,
    Option.bind_some]

end LoggingSettings

namespace AuthSettings

theorem legible_toJson (settings : AuthSettings) : settings.toJson.Legible := by
  refine .object ?_
  simp only [List.forall_mem_cons]
  exact ⟨.string _, .string _, .string _, .string _, .string _, legible_nat64 _, nofun⟩

theorem read?_toJson (settings : AuthSettings) :
    read? Form.json settings.toJson = some settings := by
  have different : fields.Nodup := by decide
  obtain ⟨section?, opened, value⟩ := Form.fields?_object different settings.toJson rfl rfl
  simp only [read?, opened, Form.field_text (value "secret"),
    Form.field_algorithm (value "algorithm"), Form.field_text (value "bearer_prefix"),
    Form.field_span (value "cache_ttl"), Form.field_span (value "sweep_interval"),
    Form.field_count (value "max_entries"), Option.bind_eq_bind, Option.bind_some]

end AuthSettings

namespace CatalogSettings

theorem legible_toJson (settings : CatalogSettings) : settings.toJson.Legible := by
  refine .object ?_
  simp only [List.forall_mem_cons]
  exact ⟨.string _, .string _, .string _, nofun⟩

theorem read?_toJson (settings : CatalogSettings) :
    read? Form.json settings.toJson = some settings := by
  have different : fields.Nodup := by decide
  obtain ⟨section?, opened, value⟩ := Form.fields?_object different settings.toJson rfl rfl
  simp only [read?, opened, Form.field_text (value "base_url"),
    Form.field_span (value "fetch_timeout"), Form.field_span (value "listing_timeout"),
    Option.bind_eq_bind, Option.bind_some]

end CatalogSettings

namespace DashboardSettings

theorem legible_toJson (settings : DashboardSettings) : settings.toJson.Legible := by
  refine .object ?_
  simp only [List.forall_mem_cons]
  exact ⟨.string _, .string _, legible_nat64 _, legible_nat64 _, nofun⟩

theorem read?_toJson (settings : DashboardSettings) :
    read? Form.json settings.toJson = some settings := by
  have different : fields.Nodup := by decide
  obtain ⟨section?, opened, value⟩ := Form.fields?_object different settings.toJson rfl rfl
  simp only [read?, opened, Form.field_span (value "deadline"),
    Form.field_span (value "snapshot_ttl"), Form.field_count (value "recent_limit"),
    Form.field_count (value "max_entries"), Option.bind_eq_bind, Option.bind_some]

end DashboardSettings

/-! ### All settings -/

namespace ServiceSettings

/-- The written form of settings. -/
def codec : Codec ServiceSettings :=
  ⟨fun settings => some settings.toJson, read? Form.json⟩

theorem legible_toJson (settings : ServiceSettings) : settings.toJson.Legible := by
  refine .object ?_
  simp only [List.forall_mem_cons]
  exact ⟨settings.server.legible_toJson, settings.logging.legible_toJson,
    settings.auth.legible_toJson, settings.catalog.legible_toJson,
    settings.dashboard.legible_toJson, nofun⟩

theorem read?_toJson (settings : ServiceSettings) :
    read? Form.json settings.toJson = some settings := by
  have different : sections.Nodup := by decide
  obtain ⟨part?, opened, value⟩ := Form.fields?_object different settings.toJson rfl rfl
  simp only [read?, opened, Form.field_of_held (value "server") settings.server.read?_toJson,
    Form.field_of_held (value "logging") settings.logging.read?_toJson,
    Form.field_of_held (value "auth") settings.auth.read?_toJson,
    Form.field_of_held (value "catalog") settings.catalog.read?_toJson,
    Form.field_of_held (value "dashboard") settings.dashboard.read?_toJson,
    Option.bind_eq_bind, Option.bind_some]

theorem form_toJson (settings : ServiceSettings) : codec.Form settings settings.toJson :=
  ⟨rfl, settings.legible_toJson, settings.read?_toJson⟩

/-- Settings are read from their JSON as they were written, whatever their texts, numbers and
lengths of time: as the value that is written and as its text. So what is read is found usable, or
the same fault is found with it, as with what was written. -/
theorem settings_return (settings : ServiceSettings) :
    ∃ json text, codec.encode? settings = some json ∧ codec.write? settings = some text ∧
      codec.decode? json = some settings ∧
      ∃ decoded, codec.read? text = some decoded ∧ decoded = settings ∧
        decoded.check = settings.check := by
  obtain ⟨text, written, read⟩ := settings.form_toJson.returns
  exact ⟨settings.toJson, text, rfl, written, settings.read?_toJson, settings, read, rfl, rfl⟩

end ServiceSettings

end UserDashboard.Settings
