/-
A run over a directory, up to the words.

Settings come first, then there is a session, and only then are the words
looked at (`run_eq`). The order in which the names of a document are gone
through is not to be seen after the settings are there, so two orders give the
same run, or each tells of something unknown in the document (`run_order`).
-/
import WorkedEquations.CommandLine
import WorkedEquations.Proofs.Settings.Unknown

namespace WorkedEquations
namespace CommandLine

open Directory (Surroundings host)

/-- The settings a run starts from: those of the file that is named, or the defaults. -/
def settingsIn (order : Document.Order) (d : Directory) (config : Option String) :
    Except Settings.Fault Settings :=
  match config with
  | none => .ok .default
  | some path => Settings.ofFile path (d.read path) order

theorem settingsFor_run (around : Surroundings) (d : Directory) (config : Option String) :
    (settingsFor (host around) config).run d = (settingsIn around.order d config, d) := by
  cases config <;> rfl

/-- **A run up to the words.** -/
theorem run_eq (around : Surroundings) (words : List String) (d : Directory) :
    (run (host around) words).run d =
      match settingsIn around.order d (Arguments.ofWords words).config with
      | .error fault => (failure 2 fault.message, d)
      | .ok settings =>
        match Session.ofSettings? around.room settings with
        | none => (breakOff around.breakdown, d)
        | some s => (runWith (host around) s (Arguments.ofWords words)).run d := by
  simp only [run, StateT.run_bind, settingsFor_run]
  cases settingsIn around.order d (Arguments.ofWords words).config with
  | error fault => rfl
  | ok settings =>
    change StateT.run (match Session.ofSettings? around.room settings with
      | none => _
      | some s => _) d = _
    dsimp only
    cases Session.ofSettings? around.room settings <;> rfl

section
variable {m : Type → Type} [Monad m] (host : Host m) (order : Document.Order)

theorem prepareLog_order (s : Session) : prepareLog { host with order } s = prepareLog host s := rfl

theorem saveSamples_order (points : List Point) (path : String) :
    saveSamples { host with order } points path = saveSamples host points path := rfl

theorem drawSamples_order (w : Worked) (points : List Point) (path : String) :
    drawSamples { host with order } w points path = drawSamples host w points path := rfl

theorem present_order (args : Arguments) (places : Nat)
    (o : Session.Outcome (Except Refusal Worked)) :
    present { host with order } args places o = present host args places o := by
  simp only [present, saveSamples_order, drawSamples_order]

/-- What the words ask for does not depend on the order of names. -/
theorem runWith_order (s : Session) (args : Arguments) :
    runWith { host with order } s args = runWith host s args := by
  simp only [runWith, solveAndReport, prepareLog_order, present_order]

end

/-- The file for the settings names things that settings do not know, and these are two of them. -/
def ConfigUnknown (d : Directory) (config : Option String) (fault fault' : Settings.Fault) : Prop :=
  ∃ path text document, config = some path ∧ (d.read path).bind Files.decode = .ok text ∧
    Document.parse text = .ok document ∧ Settings.Unknown document fault ∧
    Settings.Unknown document fault'

theorem settingsIn_order (d : Directory) (config : Option String) (order order' : Document.Order) :
    settingsIn order' d config = settingsIn order d config ∨
      ∃ fault fault', ConfigUnknown d config fault fault' ∧
        settingsIn order d config = .error fault ∧ settingsIn order' d config = .error fault' := by
  cases config with
  | none => exact .inl rfl
  | some path =>
    rcases Settings.ofFile_order path (d.read path) order order' with
      heq | ⟨text, document, htext, hparse, heq | ⟨fault, fault', hfault, hfault', hfirst, hsecond⟩⟩
    · exact .inl heq
    · exact .inl heq
    · exact .inr ⟨fault, fault', ⟨path, text, document, rfl, htext, hparse, hfault, hfault'⟩, hfirst,
        hsecond⟩

/-- **Two orders of names** give the same run, or each tells of something unknown. -/
theorem run_order (around : Surroundings) (order : Document.Order) (words : List String)
    (d : Directory) :
    (run (host { around with order }) words).run d = (run (host around) words).run d ∨
      ∃ fault fault', ConfigUnknown d (Arguments.ofWords words).config fault fault' ∧
        (run (host around) words).run d = (failure 2 fault.message, d) ∧
        (run (host { around with order }) words).run d = (failure 2 fault'.message, d) := by
  simp only [run_eq]
  rcases settingsIn_order d (Arguments.ofWords words).config around.order order with
    heq | ⟨fault, fault', hunknown, hfirst, hsecond⟩
  · have hwith : ∀ s args,
        runWith (host { around with order }) s args = runWith (host around) s args :=
      runWith_order (host around) order
    refine .inl ?_
    rw [heq]
    simp only [hwith]
  · rw [hfirst, hsecond]
    exact .inr ⟨fault, fault', hunknown, rfl, rfl⟩

end CommandLine
end WorkedEquations
