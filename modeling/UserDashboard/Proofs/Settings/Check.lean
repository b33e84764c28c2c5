/-
This file says which settings can be used.

Sections are checked one after the other, and settings can be used when none of the checks finds a
fault. Of a length of time nothing is asked but that it is one.
-/

import UserDashboard.Settings.Service

namespace UserDashboard.Settings

variable {ε α : Type} {value : α}

theorem unless_eq_ok_iff {condition : Prop} [Decidable condition] {error : ε}
    {next : PUnit → Except ε α} :
    (if condition then throw error >>= next else next ⟨⟩) = .ok value ↔
      ¬condition ∧ next ⟨⟩ = .ok value := by
  by_cases holds : condition
  · simp [holds, throw, throwThe, MonadExceptOf.throw, bind, Except.bind]
  · simp [holds]

theorem after_check_eq_ok_iff {first : Except ε Unit} {next : Except ε α} :
    (first >>= fun _ => next) = .ok value ↔ first = .ok () ∧ next = .ok value := by
  cases first <;> simp [bind, Except.bind]

theorem mapError_eq_ok_iff {ζ : Type} {result : Except ε α} {change : ε → ζ} :
    result.mapError change = .ok value ↔ result = .ok value := by
  cases result with
  | error error =>
    constructor
    · intro same
      cases same
    · intro same
      cases same
  | ok other => exact ⟨fun same => congrArg _ (Except.ok.inj same),
      fun same => congrArg _ (Except.ok.inj same)⟩

theorem eq_ok_of_toOption {result : Except ε α} (passed : result.toOption = some value) :
    result = .ok value := by
  cases result with
  | error error => cases passed
  | ok => exact congrArg Except.ok (Option.some.inj passed)

theorem AuthSettings.check_eq_ok_iff {settings : AuthSettings} :
    settings.check = .ok () ↔ leastSecret ≤ settings.secret.utf8ByteSize ∧
      settings.cacheTtl.nanos ≠ 0 ∧ settings.sweepInterval.nanos ≠ 0 ∧ settings.maxEntries ≠ 0 := by
  unfold check leastSecret
  grind

theorem DashboardSettings.check_eq_ok_iff {settings : DashboardSettings} :
    settings.check = .ok () ↔ settings.deadline.nanos ≠ 0 ∧ settings.snapshotTtl.nanos ≠ 0 ∧
      settings.maxEntries ≠ 0 := by
  unfold check
  grind

theorem ServiceSettings.check_eq_ok_iff {settings : ServiceSettings} :
    settings.check = .ok () ↔ settings.server.port ≠ 0 ∧ settings.server.graceMillis ≠ 0 ∧
      LoggingSettings.levels.contains (Text.smallText settings.logging.level) ∧
      settings.auth.check = .ok () ∧ settings.catalog.check = .ok () ∧
      settings.dashboard.check = .ok () := by
  unfold check
  rw [unless_eq_ok_iff, unless_eq_ok_iff, unless_eq_ok_iff]
  simp only [after_check_eq_ok_iff, mapError_eq_ok_iff, Decidable.not_not, ne_eq]

/-- Settings that can be used stay so when a length of time is put for another one. -/
theorem ServiceSettings.check_of_lengths {settings : ServiceSettings}
    (usable : settings.check = .ok ()) {cacheTtl sweepInterval snapshotTtl : Time.Span}
    (cached : cacheTtl.nanos ≠ 0) (swept : sweepInterval.nanos ≠ 0)
    (remembered : snapshotTtl.nanos ≠ 0) :
    { settings with
      auth := { settings.auth with cacheTtl, sweepInterval }
      dashboard := { settings.dashboard with snapshotTtl } : ServiceSettings }.check = .ok () := by
  rw [check_eq_ok_iff, AuthSettings.check_eq_ok_iff, DashboardSettings.check_eq_ok_iff]
    at usable ⊢
  obtain ⟨port, grace, level, ⟨secret, -, -, tokens⟩, catalog, ⟨deadline, -, dashboards⟩⟩ := usable
  exact ⟨port, grace, level, ⟨secret, cached, swept, tokens⟩, catalog,
    ⟨deadline, remembered, dashboards⟩⟩

end UserDashboard.Settings
