/-
The text a worked equation is known by gives the same worked equation again.

An accepted text is canonical, so it is its own canonical form, and neither
text of a system has a semicolon, so the recorded text of a system can be
parted in one way only.

Worked out again, the recorded text gives the same (`solveWith_of_retypedAs`).
One request records an equation at most (`Session.perform_history`), and by
induction on the requests every entry of a history was recorded under settings
that were in force (`Session.run_recorded`).
-/
import WorkedEquations.Proofs.Equation.Respelling
import WorkedEquations.Proofs.Equation.Taken
import WorkedEquations.Session

namespace WorkedEquations

/-! ## Parting the text of a system -/

theorem append_semicolon_inj {first second a b : List Char} (hfirst : ';' ∉ first)
    (hsecond : ';' ∉ second) (h : first ++ ';' :: second = a ++ ';' :: b) : first = a ∧ second = b := by
  induction first generalizing a with
  | nil =>
    rcases a with _ | ⟨c, a⟩
    · simpa using h
    · obtain ⟨rfl, rfl⟩ := List.cons.inj h
      simp at hsecond
  | cons c first ih =>
    rw [List.mem_cons, not_or] at hfirst
    rcases a with _ | ⟨d, a⟩
    · obtain ⟨rfl, -⟩ := List.cons.inj h
      exact absurd rfl hfirst.1
    · obtain ⟨rfl, htail⟩ := List.cons.inj h
      obtain ⟨rfl, rfl⟩ := ih hfirst.2 htail
      exact ⟨rfl, rfl⟩

/-- **The text of a system is parted in one way.** -/
theorem append_separator_inj {first second a b : String} (hfirst : ';' ∉ first.toList)
    (hsecond : ';' ∉ second.toList) (h : first ++ "; " ++ second = a ++ "; " ++ b) :
    first = a ∧ second = b := by
  have hlist : first.toList ++ ';' :: ' ' :: second.toList = a.toList ++ ';' :: ' ' :: b.toList := by
    have := congrArg String.toList h
    simpa [String.toList_append] using this
  have hblank : ';' ∉ ' ' :: second.toList := by simp [hsecond]
  obtain ⟨ha, hb⟩ := append_semicolon_inj hfirst hblank hlist
  exact ⟨String.toList_inj.mp ha, String.toList_inj.mp (List.cons.inj hb).2⟩

/-! ## The recorded text, typed in again -/

namespace Worked

/-- The texts are what the equation is known by: its text, or its two texts for a system. A second
text that is not of a system may be anything. -/
def RetypedAs (w : Worked) (first : String) (second : Option String) : Prop :=
  match w.family with
  | .system => ∃ last, second = some last ∧ w.equation = first ++ "; " ++ last
  | _ => first = w.equation

theorem semicolon_not_mem {raw : String} {second : Option String} {e : Equation}
    (h : classified (canonical raw second .system) .system = .ok e) :
    ';' ∉ (normalize raw).toList ∧ ';' ∉ (normalize (second.getD "")).toList := by
  rw [canonical_system] at h
  exact classifySystem_semicolon_not_mem h

theorem given_eq_canonical {settings : Settings} {raw : String} {second : Option String}
    {family : Family} {e : Equation} (h : classified (canonical raw second family) family = .ok e)
    {first : String} {second' : Option String}
    (hretyped : (ofEquation settings family (textOf (canonical raw second family)) e).RetypedAs first
      second') : given first second' family = canonical raw second family := by
  cases family with
  | linear => exact congrArg (·, none) hretyped
  | quadratic => exact congrArg (·, none) hretyped
  | system =>
    obtain ⟨last, rfl, htext⟩ := hretyped
    obtain ⟨hfirst, hsecond⟩ := semicolon_not_mem h
    simp only [canonical_system, ofEquation, textOf] at htext
    obtain ⟨rfl, rfl⟩ := append_separator_inj hfirst hsecond htext
    exact (canonical_system raw second).symm

end Worked

/-- **The recorded text gives the same worked equation.** -/
theorem solveWith_of_retypedAs {settings : Settings} {raw : String} {second : Option String}
    {family : Family} {w : Worked} (h : solveWith settings raw second family = .ok w)
    {first : String} {second' : Option String} (hretyped : w.RetypedAs first second') :
    solveWith settings first second' family = .ok w := by
  obtain ⟨e, he, rfl⟩ := solveWith_eq_ok_iff.mp h
  have hgiven := Worked.given_eq_canonical he hretyped
  have hcanonical : Worked.canonical first second' family = Worked.canonical raw second family := by
    rw [← hgiven] at he ⊢
    exact Worked.canonical_eq_given he
  rw [solveWith, hcanonical, he]
  rfl

theorem solveWith_existsUnique_parts {settings : Settings} {raw : String} {second : Option String}
    {w : Worked} (h : solveWith settings raw second .system = .ok w) :
    ∃! parts : String × String, w.equation = parts.1 ++ "; " ++ parts.2 := by
  obtain ⟨e, he, rfl⟩ := solveWith_eq_ok_iff.mp h
  obtain ⟨hfirst, hsecond⟩ := Worked.semicolon_not_mem he
  simp only [Worked.ofEquation, Worked.canonical_system, Worked.textOf]
  refine ⟨(normalize raw, normalize (second.getD "")), rfl, fun parts hparts => ?_⟩
  obtain ⟨hf, hs⟩ := append_separator_inj hfirst hsecond hparts
  exact Prod.ext hf.symm hs.symm

/-! ## Entries of a history -/

namespace Session

/-- The entry of a worked equation under settings. -/
def entryOf (settings : Settings) (w : Worked) : History.Entry :=
  ⟨w.equation, w.answer settings.precision⟩

@[simp] theorem openLog_settings (s : Session) : s.openLog.settings = s.settings := by
  unfold openLog
  split <;> rfl

@[simp] theorem openLog_history (s : Session) : s.openLog.history = s.history := by
  unfold openLog
  split <;> rfl

@[simp] theorem openLog_site (s : Session) : s.openLog.site = s.site := by
  unfold openLog
  split <;> rfl

theorem solve_history (s : Session) (raw : String) (second : Option String) (family : Family) :
    (s.solve raw second family).session.history =
      match solveWith s.settings raw second family with
      | .ok w => s.history.record (entryOf s.settings w)
      | .error _ => s.history := by
  simp only [solve, openLog_settings]
  cases solveWith s.settings raw second family with
  | ok w => simp [entryOf]
  | error r => simp

/-- **What one request does to the history:** nothing, or it clears it, or it records an equation
worked out under the settings in force. -/
theorem perform_history (s : Session) (r : Request) :
    (s.perform r).session.history = s.history ∨ (s.perform r).session.history = s.history.clear ∨
      ∃ raw second family w, solveWith s.settings raw second family = .ok w ∧
        (s.perform r).session.history = s.history.record (entryOf s.settings w) := by
  cases r with
  | solve raw second family =>
    have h := s.solve_history raw second family
    cases hsolve : solveWith s.settings raw second family with
    | error e =>
      rw [hsolve] at h
      exact .inl h
    | ok w =>
      rw [hsolve] at h
      exact .inr (.inr ⟨raw, second, family, w, hsolve, h⟩)
  | adjust logLevel precision =>
    left
    simp only [perform, adjust]
    split <;> rfl
  | assign settings => exact .inl rfl
  | clearHistory => exact .inr (.inl rfl)
  | historyTable => exact .inl rfl
  | statisticsTable => exact .inl rfl

/-- Every entry was recorded under one of the settings. -/
def RecordedUnder (past : List Settings) (h : History) : Prop :=
  ∀ entry ∈ h.entries, ∃ settings ∈ past, ∃ raw second family w,
    solveWith settings raw second family = .ok w ∧ entry = entryOf settings w

theorem RecordedUnder.mono {past more : List Settings} {h : History} (hr : RecordedUnder past h)
    (hsub : past ⊆ more) : RecordedUnder more h := by
  intro entry hentry
  obtain ⟨settings, hmem, hrecorded⟩ := hr entry hentry
  exact ⟨settings, hsub hmem, hrecorded⟩

theorem RecordedUnder.perform {past : List Settings} {s : Session} (hs : s.settings ∈ past)
    (h : RecordedUnder past s.history) (r : Request) :
    RecordedUnder past (s.perform r).session.history := by
  rcases s.perform_history r with hr | hr | ⟨raw, second, family, w, hsolve, hr⟩ <;> rw [hr]
  · exact h
  · intro entry hentry
    cases hentry
  · intro entry hentry
    rcases List.mem_cons.mp (List.mem_of_mem_take hentry) with rfl | hentry
    · exact ⟨s.settings, hs, raw, second, family, w, hsolve, rfl⟩
    · exact h entry hentry

/-- **Every entry of a history** was recorded under settings that were in force before. -/
theorem run_recorded (requests : List Request) {past : List Settings} {s : Session}
    (hs : s.settings ∈ past) (h : RecordedUnder past s.history) :
    ∀ o ∈ s.run requests,
      RecordedUnder (past ++ (s.run requests).map (·.session.settings)) o.session.history := by
  -- The past is general: after a request the settings then in force belong to it.
  induction requests generalizing past s with
  | nil => simp [run]
  | cons r rest ih =>
    have hfirst := h.perform hs r
    have hnow : (s.perform r).session.settings ∈ past ++ [(s.perform r).session.settings] := by simp
    have hlater := ih hnow (hfirst.mono (List.subset_append_left _ _))
    simp only [run, List.mem_cons, List.map_cons]
    rintro o (rfl | ho)
    · exact hfirst.mono (List.subset_append_left _ _)
    · simpa using hlater o ho

end Session

/-- **Re-entry.** A worked equation is worked out again, alike in every field, from the text it is
known by; for a system that text has one way to be parted. So every entry of a history, typed in
again under the settings it was recorded under, is recorded again. -/
theorem solveWith_reentry :
    (∀ settings raw second family w, solveWith settings raw second family = .ok w →
      (∀ first second', w.RetypedAs first second' →
        solveWith settings first second' family = .ok w) ∧
      (family = .system → ∃! parts : String × String, w.equation = parts.1 ++ "; " ++ parts.2)) ∧
    ∀ (s : Session) (requests : List Session.Request), s.history.entries = [] →
      ∀ o ∈ s.run requests, ∀ entry ∈ o.session.history.entries,
        ∃ settings ∈ s.settings :: (s.run requests).map (·.session.settings),
          ∃ raw second family w, solveWith settings raw second family = .ok w ∧
          entry = Session.entryOf settings w ∧
          ∀ first second', w.RetypedAs first second' → ∀ t : Session, t.settings = settings →
            (t.solve first second' family).session.history = t.history.record entry := by
  constructor
  · intro settings raw second family w h
    refine ⟨fun first second' => solveWith_of_retypedAs h, ?_⟩
    rintro rfl
    exact solveWith_existsUnique_parts h
  · intro s requests hempty o ho entry hentry
    have hnone : Session.RecordedUnder [s.settings] s.history := by
      intro entry hentry
      rw [hempty] at hentry
      cases hentry
    obtain ⟨settings, hmem, raw, second, family, w, hsolve, rfl⟩ :=
      Session.run_recorded requests (by simp) hnone o ho entry hentry
    refine ⟨settings, hmem, raw, second, family, w, hsolve, rfl, fun first second' hretyped t ht => ?_⟩
    rw [t.solve_history, ht, solveWith_of_retypedAs hsolve hretyped]

/-- A system with a full-width digit, blanks and a typographic minus, solved in a new session: its
plain texts give the same, and so does its entry of the history. -/
theorem solveWith_reentry_system :
    (∃ w, solveWith .default "\uFF12x + 3y = 7" (some "x \u2212 y = 1") .system = .ok w ∧
      solveWith .default "2x+3y=7" (some "x-y=1") .system = .ok w ∧
      ∃! parts : String × String, w.equation = parts.1 ++ "; " ++ parts.2) ∧
    ∃ o ∈ (Session.ofSettings .default).run
        [.solve "\uFF12x + 3y = 7" (some "x \u2212 y = 1") .system],
      ∃ entry ∈ o.session.history.entries, ∃ settings raw second family w,
        solveWith settings raw second family = .ok w ∧ entry = Session.entryOf settings w ∧
        ∀ first second', w.RetypedAs first second' → ∀ t : Session, t.settings = settings →
          (t.solve first second' family).session.history = t.history.record entry := by
  obtain ⟨w, hw, htext⟩ : ∃ w, solveWith .default "\uFF12x + 3y = 7" (some "x \u2212 y = 1") .system =
      .ok w ∧ w.equation = "2x+3y=7" ++ "; " ++ "x-y=1" := by
    have htaken : (Worked.classified (Worked.canonical "\uFF12x + 3y = 7" (some "x \u2212 y = 1")
        .system) .system).isOk = true := by
      decide +kernel
    have htext : Worked.textOf (Worked.canonical "\uFF12x + 3y = 7" (some "x \u2212 y = 1")
        .system) = "2x+3y=7" ++ "; " ++ "x-y=1" := by
      decide +kernel
    obtain ⟨e, he⟩ := Worked.exists_of_isOk htaken
    exact ⟨_, solveWith_eq_ok_iff.mpr ⟨e, he, rfl⟩, htext⟩
  have hretyped : w.RetypedAs "2x+3y=7" (some "x-y=1") := by
    simp only [Worked.RetypedAs, solveWith_family hw]
    exact ⟨_, rfl, htext⟩
  have hmem : (Session.ofSettings .default).perform
      (.solve "\uFF12x + 3y = 7" (some "x \u2212 y = 1") .system) ∈
        (Session.ofSettings .default).run
          [.solve "\uFF12x + 3y = 7" (some "x \u2212 y = 1") .system] := by
    simp [Session.run]
  have hentry : Session.entryOf .default w ∈ ((Session.ofSettings .default).perform
      (.solve "\uFF12x + 3y = 7" (some "x \u2212 y = 1") .system)).session.history.entries := by
    simp only [Session.perform]
    rw [Session.solve_history, show (Session.ofSettings .default).settings = .default from rfl, hw]
    exact List.mem_cons_self
  obtain ⟨hagain, hparts⟩ := solveWith_reentry.1 _ _ _ _ _ hw
  obtain ⟨settings, -, hrecorded⟩ :=
    solveWith_reentry.2 (Session.ofSettings .default) _ rfl _ hmem _ hentry
  exact ⟨⟨w, hw, hagain _ _ hretyped, hparts rfl⟩, _, hmem, _, hentry, settings, hrecorded⟩

end WorkedEquations
