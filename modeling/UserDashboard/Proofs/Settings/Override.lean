/-
This file says what a variable of the environment does to a setting that is a text.

A variable is laid over the place of its setting, after everything that the file and the other
variables say, and nothing else is touched. What is laid there is what the variable was taken for,
which is not always its text: a value that reads as a truth value or as a number becomes one, and
comes back as that number is written. A section that was written as a list becomes a table, and
forgets its other settings.
-/

import Mathlib.Logic.Function.Basic
import UserDashboard.Proofs.Settings.Check
import UserDashboard.Proofs.Settings.Value
import UserDashboard.Settings.Load

namespace UserDashboard.Settings

/-! ### Where the settings that are texts stand -/

/-- A setting that is a text. -/
inductive TextSetting where
  | host
  | level
  | secret
  | scheme
  | address

namespace TextSetting

/-- The section of the setting. -/
def part : TextSetting → String
  | host => "server"
  | level => "logging"
  | secret => "auth"
  | scheme => "auth"
  | address => "catalog"

/-- The name of the setting in its section. -/
def field : TextSetting → String
  | host => "host"
  | level => "level"
  | secret => "secret"
  | scheme => "bearer_prefix"
  | address => "base_url"

/-- The variable of the environment that the setting can be written as. -/
def variableName : TextSetting → String
  | host => "CARROT__SERVER__HOST"
  | level => "CARROT__LOGGING__LEVEL"
  | secret => "CARROT__AUTH__SECRET"
  | scheme => "CARROT__AUTH__BEARER_PREFIX"
  | address => "CARROT__CATALOG__BASE_URL"

/-- The settings with one that is a text replaced. -/
def put (text : String) (settings : ServiceSettings) : TextSetting → ServiceSettings
  | host => { settings with server := { settings.server with host := text } }
  | level => { settings with logging := { settings.logging with level := text } }
  | secret => { settings with auth := { settings.auth with secret := text } }
  | scheme => { settings with auth := { settings.auth with scheme := text } }
  | address => { settings with catalog := { settings.catalog with address := text } }

/-- The settings with those of one section as if nothing were written there. -/
def reset (settings : ServiceSettings) : TextSetting → ServiceSettings
  | host => { settings with server := {} }
  | level => { settings with logging := {} }
  | secret => { settings with auth := {} }
  | scheme => { settings with auth := {} }
  | address => { settings with catalog := {} }

theorem path_variableName (setting : TextSetting) :
    (Environment.path? setting.variableName).map Value.readPath =
      some [.name setting.part, .name setting.field] := by
  cases setting <;> decide +kernel

theorem put_injective {setting : TextSetting} {first second : String}
    {settings others : ServiceSettings}
    (same : setting.put first settings = setting.put second others) : first = second := by
  cases setting <;> simp_all [put]

end TextSetting

/-! ### Sections are read field by field -/

theorem Form.fields?_setMember {names : List String} {name : String}
    {change : Option Value → Value} {members : List (String × Value)} :
    Form.values.fields? names (.table (Value.setMember name change members)) =
      some (Function.update (fun name => Value.member? name members) name
        (some (change (Value.member? name members)))) := by
  refine congrArg some (funext fun other => ?_)
  by_cases same : other = name
  · rw [same, Value.member?_setMember_self, Function.update_self]
  · rw [Value.member?_setMember_of_ne same, Function.update_of_ne same]

theorem Form.fields?_table {names : List String} {members : List (String × Value)} :
    Form.values.fields? names (.table members) = some fun name => Value.member? name members :=
  rfl

section Fields

variable {α : Type} {section? : String → Option Value} {name other : String} {value : Value}
  {default settings : α} {read : Value → Option α}

theorem Form.field_update_self :
    Form.field (Function.update section? name (some value)) name default read = read value := by
  rw [Form.field, Function.update_self]

theorem Form.field_update_of_ne (ne : other ≠ name) :
    Form.field (Function.update section? name (some value)) other default read =
      Form.field section? other default read := by
  rw [Form.field, Form.field, Function.update_of_ne ne]

/-- A section that is opened to lay something over it is the section as it was, or the one that
says nothing if it was written as a list. -/
theorem Form.field_opened {names : List String} {next : (String → Option Value) → Option α}
    (kept : Form.field section? name default read = some settings)
    (sectioned : ∀ value, read value = (Form.values.fields? names value).bind next)
    (empty : read (.table []) = some default) :
    read (.table ((section? name).getD .absent).members) =
      some (bif (section? name).any Value.isList then default else settings) := by
  rw [Form.field] at kept
  cases found : section? name with
  | none =>
    rw [found] at kept
    exact empty.trans kept
  | some value =>
    rw [found] at kept
    cases value with
    | table members => exact kept
    | list items => exact empty
    | absent | flag | whole | amount | text => cases (sectioned _).symm.trans kept

end Fields

section Sections

variable {members : List (String × Value)} {value : Value} {text : String}

theorem ServerSettings.read?_setMember_host {settings : ServerSettings}
    (read : read? Form.values (.table members) = some settings)
    (taken : Form.values.text? value = some text) :
    read? Form.values (.table (Value.setMember "host" (fun _ => value) members)) =
      some { settings with host := text } := by
  rw [read?, Form.fields?_table] at read
  rw [read?, Form.fields?_setMember]
  simp only [Option.bind_eq_bind, Option.bind_some, Option.bind_eq_some_iff,
    Option.some.injEq] at read ⊢
  obtain ⟨host, -, port, portRead, grace, graceRead, rfl⟩ := read
  simp [Form.field_update_self, Form.field_update_of_ne, *]

theorem LoggingSettings.read?_setMember_level {settings : LoggingSettings}
    (read : read? Form.values (.table members) = some settings)
    (taken : Form.values.text? value = some text) :
    read? Form.values (.table (Value.setMember "level" (fun _ => value) members)) =
      some { settings with level := text } := by
  rw [read?, Form.fields?_table] at read
  rw [read?, Form.fields?_setMember]
  simp only [Option.bind_eq_bind, Option.bind_some, Option.bind_eq_some_iff,
    Option.some.injEq] at read ⊢
  obtain ⟨level, -, rfl⟩ := read
  simp [Form.field_update_self, *]

theorem AuthSettings.read?_setMember_secret {settings : AuthSettings}
    (read : read? Form.values (.table members) = some settings)
    (taken : Form.values.text? value = some text) :
    read? Form.values (.table (Value.setMember "secret" (fun _ => value) members)) =
      some { settings with secret := text } := by
  rw [read?, Form.fields?_table] at read
  rw [read?, Form.fields?_setMember]
  simp only [Option.bind_eq_bind, Option.bind_some, Option.bind_eq_some_iff,
    Option.some.injEq] at read ⊢
  obtain ⟨secret, -, algorithm, algorithmRead, scheme, schemeRead, cacheTtl, cacheTtlRead,
    sweepInterval, sweepIntervalRead, maxEntries, maxEntriesRead, rfl⟩ := read
  simp [Form.field_update_self, Form.field_update_of_ne, *]

theorem AuthSettings.read?_setMember_scheme {settings : AuthSettings}
    (read : read? Form.values (.table members) = some settings)
    (taken : Form.values.text? value = some text) :
    read? Form.values (.table (Value.setMember "bearer_prefix" (fun _ => value) members)) =
      some { settings with scheme := text } := by
  rw [read?, Form.fields?_table] at read
  rw [read?, Form.fields?_setMember]
  simp only [Option.bind_eq_bind, Option.bind_some, Option.bind_eq_some_iff,
    Option.some.injEq] at read ⊢
  obtain ⟨secret, secretRead, algorithm, algorithmRead, scheme, -, cacheTtl, cacheTtlRead,
    sweepInterval, sweepIntervalRead, maxEntries, maxEntriesRead, rfl⟩ := read
  simp [Form.field_update_self, Form.field_update_of_ne, *]

theorem CatalogSettings.read?_setMember_address {settings : CatalogSettings}
    (read : read? Form.values (.table members) = some settings)
    (taken : Form.values.text? value = some text) :
    read? Form.values (.table (Value.setMember "base_url" (fun _ => value) members)) =
      some { settings with address := text } := by
  rw [read?, Form.fields?_table] at read
  rw [read?, Form.fields?_setMember]
  simp only [Option.bind_eq_bind, Option.bind_some, Option.bind_eq_some_iff,
    Option.some.injEq] at read ⊢
  obtain ⟨address, -, fetchTimeout, fetchTimeoutRead, listingTimeout, listingTimeoutRead, rfl⟩ :=
    read
  simp [Form.field_update_self, Form.field_update_of_ne, *]

end Sections

namespace TextSetting

variable {members : List (String × Value)} {value : Value} {text : String}
  {settings : ServiceSettings} {setting : TextSetting}

theorem read?_setAt (read : ServiceSettings.read? Form.values (.table members) = some settings)
    (taken : Form.values.text? value = some text) :
    ServiceSettings.read? Form.values
        (Value.setAt value [.name setting.part, .name setting.field] (.table members)) =
      some (setting.put text (bif (Value.member? setting.part members).any Value.isList then
        setting.reset settings else settings)) := by
  rw [ServiceSettings.read?, Form.fields?_table] at read
  rw [Value.setAt_names taken, ServiceSettings.read?, Form.fields?_setMember]
  simp only [Option.bind_eq_bind, Option.bind_some, Option.bind_eq_some_iff,
    Option.some.injEq] at read ⊢
  obtain ⟨server, serverRead, logging, loggingRead, auth, authRead, catalog, catalogRead,
    dashboard, dashboardRead, rfl⟩ := read
  cases setting with
  | host =>
    have opened := Form.field_opened serverRead (fun _ => rfl) rfl
    have replaced := ServerSettings.read?_setMember_host opened taken
    cases listed : (Value.member? "server" members).any Value.isList <;>
      simp [part, field, put, reset, Form.field_update_self, Form.field_update_of_ne, *]
  | level =>
    have opened := Form.field_opened loggingRead (fun _ => rfl) rfl
    have replaced := LoggingSettings.read?_setMember_level opened taken
    cases listed : (Value.member? "logging" members).any Value.isList <;>
      simp [part, field, put, reset, Form.field_update_self, Form.field_update_of_ne, *]
  | secret =>
    have opened := Form.field_opened authRead (fun _ => rfl) rfl
    have replaced := AuthSettings.read?_setMember_secret opened taken
    cases listed : (Value.member? "auth" members).any Value.isList <;>
      simp [part, field, put, reset, Form.field_update_self, Form.field_update_of_ne, *]
  | scheme =>
    have opened := Form.field_opened authRead (fun _ => rfl) rfl
    have replaced := AuthSettings.read?_setMember_scheme opened taken
    cases listed : (Value.member? "auth" members).any Value.isList <;>
      simp [part, field, put, reset, Form.field_update_self, Form.field_update_of_ne, *]
  | address =>
    have opened := Form.field_opened catalogRead (fun _ => rfl) rfl
    have replaced := CatalogSettings.read?_setMember_address opened taken
    cases listed : (Value.member? "catalog" members).any Value.isList <;>
      simp [part, field, put, reset, Form.field_update_self, Form.field_update_of_ne, *]

end TextSetting

/-! ### Loading -/

/-- What the file and the environment say, the one laid over the other. -/
def values? (file : Option (String × String)) (environment : List (String × String)) :
    Option Value :=
  (match file with
    | none => some []
    | some (name, text) => readFile? name text).map fun members =>
      Value.overlay (Value.overlay (.table []) members) (Environment.settings environment)

/-- The settings that values say, if they can be used. -/
def settingsOf (values : Value) : Except LoadError ServiceSettings :=
  match ServiceSettings.read? Form.values values with
  | none => .error .unfit
  | some settings =>
    match settings.check with
    | .ok () => .ok settings
    | .error error => .error (.unusable error)

section Loading

variable {file : Option (String × String)} {environment : List (String × String)}
  {settings : ServiceSettings} {setting : TextSetting} {text : String}

theorem settingsOf_eq_ok_iff {values : Value} : settingsOf values = .ok settings ↔
    ServiceSettings.read? Form.values values = some settings ∧ settings.check = .ok () := by
  unfold settingsOf
  cases ServiceSettings.read? Form.values values with
  | none => simp
  | some read => cases checked : read.check <;> grind

theorem load_eq : load file environment =
    match values? file environment with
    | none => .error .unreadable
    | some values => settingsOf values := by
  unfold load values?
  cases file with
  | none => rfl
  | some file =>
    dsimp only
    cases readFile? file.1 file.2 <;> rfl

theorem load_eq_ok_iff : load file environment = .ok settings ↔ ∃ values,
    values? file environment = some values ∧
      ServiceSettings.read? Form.values values = some settings ∧ settings.check = .ok () := by
  rw [load_eq]
  cases values? file environment with
  | none => simp
  | some values => simp [settingsOf_eq_ok_iff]

theorem values?_eq_table {values : Value} (said : values? file environment = some values) :
    ∃ members, values = .table members := by
  obtain ⟨written, -, rfl⟩ := Option.map_eq_some_iff.mp said
  obtain ⟨below, table⟩ := Value.overlay_table [] written
  rw [table]
  exact Value.overlay_table below _

theorem values?_append (setting : TextSetting) :
    values? file (environment ++ [(setting.variableName, text)]) =
      (values? file environment).map (Value.setAt (Environment.valueOf text)
        [.name setting.part, .name setting.field]) := by
  obtain ⟨path, named, read⟩ := Option.map_eq_some_iff.mp setting.path_variableName
  have single : Environment.settings [(setting.variableName, text)] =
      [(path, Environment.valueOf text)] := by
    simp [Environment.settings, named]
  have appended : Environment.settings (environment ++ [(setting.variableName, text)]) =
      Environment.settings environment ++ [(path, Environment.valueOf text)] := by
    rw [← single, Environment.settings, List.filterMap_append]
    rfl
  simp only [values?, appended, Value.overlay_append, Option.map_map, ← read]
  rfl

theorem Environment.text?_valueOf (text : String) :
    ∃ taken, (valueOf text).text? = some taken := by
  unfold valueOf
  dsimp only
  repeat' split
  all_goals exact ⟨_, rfl⟩

/-- Whether the section of a setting is written as a list. -/
def TextSetting.Listed (setting : TextSetting) (file : Option (String × String))
    (environment : List (String × String)) : Prop :=
  ∃ values ∈ values? file environment,
    (Value.member? setting.part values.members).any Value.isList

/-- A variable gives its setting its own text, and leaves all others alone, exactly when what it is
taken for is written as that text and no other setting is forgotten with a section that is a
list. -/
theorem load_override_iff (loaded : load file environment = .ok settings)
    (usable : (setting.put text settings).check = .ok ()) :
    load file (environment ++ [(setting.variableName, text)]) = .ok (setting.put text settings) ↔
      (Environment.valueOf text).text? = some text ∧
        (setting.Listed file environment →
          setting.put text (setting.reset settings) = setting.put text settings) := by
  obtain ⟨values, said, read, -⟩ := load_eq_ok_iff.mp loaded
  obtain ⟨members, rfl⟩ := values?_eq_table said
  obtain ⟨taken, takes⟩ := Environment.text?_valueOf text
  have listed : setting.Listed file environment ↔
      (Value.member? setting.part members).any Value.isList := by
    simp [TextSetting.Listed, said, Value.members]
  rw [load_eq_ok_iff, values?_append, said, listed, takes]
  simp only [Option.map_some, Option.some.injEq, exists_eq_left',
    TextSetting.read?_setAt read takes]
  constructor
  · rintro ⟨same, -⟩
    obtain rfl := TextSetting.put_injective same
    refine ⟨rfl, fun listed => ?_⟩
    rwa [listed] at same
  · rintro ⟨rfl, forgets⟩
    refine ⟨?_, usable⟩
    cases asList : (Value.member? setting.part members).any Value.isList with
    | false => rfl
    | true => exact forgets asList

end Loading

/-- A file that says a secret and nothing else. -/
def secretFile : Option (String × String) :=
  some ("carrot.toml", "[auth]\nsecret = \"0123456789abcdef0123456789abcdef\"\n")

/-- The settings that it says. -/
def secretSettings : ServiceSettings :=
  { auth := { secret := "0123456789abcdef0123456789abcdef" } }

theorem load_override_iff_of_host :
    load secretFile [] = .ok secretSettings ∧
      (TextSetting.host.put "::1" secretSettings).check = .ok () ∧
      load secretFile ([] ++ [(TextSetting.host.variableName, "::1")]) =
        .ok (TextSetting.host.put "::1" secretSettings) := by
  have loaded : load secretFile [] = .ok secretSettings :=
    eq_ok_of_toOption (by decide +kernel)
  have usable : (TextSetting.host.put "::1" secretSettings).check = .ok () :=
    eq_ok_of_toOption (by decide +kernel)
  exact ⟨loaded, usable, (load_override_iff loaded usable).mpr ⟨by decide +kernel, fun _ => rfl⟩⟩

/-- A secret of forty digits is taken for a number, and comes back as the number is written. -/
theorem load_override_of_digits :
    load secretFile [] = .ok secretSettings ∧
      (TextSetting.secret.put "1234567890123456789012345678901234567890" secretSettings).check =
        .ok () ∧
      load secretFile
          [(TextSetting.secret.variableName, "1234567890123456789012345678901234567890")] =
        .ok (TextSetting.secret.put "1234567890123456800000000000000000000000" secretSettings) ∧
      TextSetting.secret.put "1234567890123456800000000000000000000000" secretSettings ≠
        TextSetting.secret.put "1234567890123456789012345678901234567890" secretSettings :=
  ⟨eq_ok_of_toOption (by decide +kernel), eq_ok_of_toOption (by decide +kernel),
    eq_ok_of_toOption (by decide +kernel), by decide⟩

end UserDashboard.Settings
