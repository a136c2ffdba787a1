/-
The settings of a session stay valid.

A change of the level and the precision is checked as a whole: the rules go
across fields, so that one half cannot be taken while the other is refused.
What is refused leaves the session as it was.

A change is made in full, or there is a fault and no change (`adjust_cases`). No
request makes valid settings invalid, but for one that puts invalid ones in
force as they are (`Request.settingsAfter_isValid`). `adjust_atomic` has both,
the second by induction on the requests.
-/
import WorkedEquations.Proofs.Session.Accounting

namespace WorkedEquations

namespace Settings

/-- The settings are let through as they are. -/
def IsValid (s : Settings) : Prop := s.check = .ok s

/-- The settings that a change asks for. -/
def asked (s : Settings) (logLevel : Option String) (precision : Option Nat) : Settings :=
  { s with
    logLevel := (logLevel.map Text.lower).getD s.logLevel
    precision := precision.getD s.precision }

theorem adjust_eq (s : Settings) (logLevel : Option String) (precision : Option Nat) :
    s.adjust logLevel precision = (s.asked logLevel precision).check := rfl

theorem check_cases (s : Settings) : s.IsValid ∨ ∃ fault, s.check = .error fault := by
  unfold IsValid check
  cases s.invalid? with
  | none => exact .inl rfl
  | some fault => exact .inr ⟨fault, rfl⟩

end Settings

namespace Session

/-- Settings that are put in force as they are were valid before. -/
def Request.AssignsValid (r : Request) : Prop := ∀ settings, r = assign settings → settings.IsValid

/-! ## One request -/

/-- **A change is made in full or not at all.** -/
theorem adjust_cases (s : Session) (logLevel : Option String) (precision : Option Nat) :
    (s.adjust logLevel precision).result = .ok () ∧ (s.settings.asked logLevel precision).IsValid ∧
        (s.adjust logLevel precision).session =
          { s with settings := s.settings.asked logLevel precision } ∨
      ∃ fault, (s.adjust logLevel precision).result = .error fault ∧
        (s.settings.asked logLevel precision).check = .error fault ∧
        (s.adjust logLevel precision).session = s := by
  simp only [adjust, Settings.adjust_eq]
  rcases Settings.check_cases (s.settings.asked logLevel precision) with h | ⟨fault, h⟩
  · have hvalid := h
    rw [Settings.IsValid] at h
    rw [h]
    exact .inl ⟨rfl, hvalid, rfl⟩
  · rw [h]
    exact .inr ⟨fault, rfl, rfl, rfl⟩

theorem perform_settings (s : Session) (r : Request) :
    (s.perform r).session.settings = r.settingsAfter s.settings :=
  settings_eq_of_changes (s.perform_changes r)

/-- **One request keeps settings valid.** -/
theorem Request.settingsAfter_isValid {settings : Settings} (h : settings.IsValid) {r : Request}
    (hr : r.AssignsValid) : (r.settingsAfter settings).IsValid := by
  cases r with
  | adjust logLevel precision =>
    simp only [Request.settingsAfter, Settings.adjust_eq]
    rcases Settings.check_cases (settings.asked logLevel precision) with hasked | ⟨fault, hfault⟩
    · have hkept := hasked
      rw [Settings.IsValid] at hkept
      rw [hkept]
      exact hasked
    · rw [hfault]
      exact h
  | assign other => exact hr other rfl
  | solve raw second family => exact h
  | clearHistory => exact h
  | historyTable => exact h
  | statisticsTable => exact h

/-! ## Runs -/

/-- The settings in force after requests do not depend on anything else in the session. -/
theorem after_settings (s : Session) (requests : List Request) :
    (s.after requests).settings = settingsAfter s.settings requests := by
  induction requests generalizing s with
  | nil => rfl
  | cons r rest ih =>
    rw [after_cons, ih, perform_settings]
    rfl

theorem settingsAfter_isValid {settings : Settings} (h : settings.IsValid) {requests : List Request}
    (hrequests : ∀ r ∈ requests, r.AssignsValid) : (settingsAfter settings requests).IsValid := by
  induction requests generalizing settings with
  | nil => exact h
  | cons r rest ih =>
    rw [List.forall_mem_cons] at hrequests
    exact ih (Request.settingsAfter_isValid h hrequests.1) hrequests.2

/-- **Changes are atomic, and settings stay valid.** A change takes the level, in lower case, and
the precision where they are given, and nothing else changes; or the settings it asks for are
faulty, and nothing changes at all. So whatever is asked of a session with valid settings, they
stay valid, if none are put in force that are not. -/
theorem adjust_atomic :
    (∀ (s : Session) (logLevel : Option String) (precision : Option Nat),
      let asked := s.settings.asked logLevel precision
      let o := s.adjust logLevel precision
      o.result = .ok () ∧ asked.IsValid ∧ o.session = { s with settings := asked } ∨
        ∃ fault, o.result = .error fault ∧ asked.check = .error fault ∧ o.session = s) ∧
    ∀ (s : Session) (requests : List Request), s.settings.IsValid →
      (∀ r ∈ requests, r.AssignsValid) → (s.after requests).settings.IsValid := by
  refine ⟨fun s logLevel precision => s.adjust_cases logLevel precision, ?_⟩
  intro s requests hvalid hrequests
  rw [after_settings]
  exact settingsAfter_isValid hvalid hrequests

/-- A valid level does not get in with a precision that is too great, and settings are valid after
a change that fails, an equation and a change that does not fail. -/
theorem adjust_atomic_half_valid :
    ((ofSettings .default).adjust (some "WARN") (some 13)).session = ofSettings .default ∧
    (Settings.default.IsValid ∧
      ((ofSettings .default).after [.adjust (some "WARN") (some 13),
        .solve "2x+5=11" none .linear, .adjust (some "OFF") (some 12)]).settings.IsValid) := by
  have hrefused :
      (Settings.default.asked (some "WARN") (some 13)).check = .error (.precision 13) := by
    decide +kernel
  have hdefault : Settings.default.IsValid := by
    rw [Settings.IsValid]
    decide +kernel
  constructor
  · rcases adjust_atomic.1 (ofSettings .default) (some "WARN") (some 13) with
      ⟨-, hvalid, -⟩ | ⟨-, -, -, hsame⟩
    · cases hrefused.symm.trans hvalid
    · exact hsame
  · refine ⟨hdefault, adjust_atomic.2 (ofSettings .default) _ hdefault ?_⟩
    intro r hr settings hassign
    simp only [List.mem_cons, List.not_mem_nil, or_false] at hr
    rcases hr with rfl | rfl | rfl <;> cases hassign

end Session
end WorkedEquations
