/-
The log observes a session and has no part in it.

The log of a request is what is let through of the entries that it notes
(`perform_log`). Two sessions alike in all but the level in force give the same
answers and note the same entries, over a request (`AlikeButLog.perform`) and
by induction over a run (`AlikeButLog.run`). What a log lets through of them is
decided once, by the settings in force when the first equation is solved and
by the site the log is set up at (`threshold_of_run`). So the shorter of two
logs is the longer one, filtered (`run_log_observes`).
-/
import WorkedEquations.Proofs.Session.Validity
import WorkedEquations.Proofs.Settings.Recorded

namespace WorkedEquations

namespace Log

/-- The level that lets a severity through and all above it. -/
def Severity.levelName : Severity → String
  | debug => "debug"
  | info => "info"
  | warn => "warn"
  | error => "error"

/-- What a level lets through, nothing if there is no such level. -/
def thresholdOf (level : String) : Threshold := (Threshold.ofName level).toOption.getD none

theorem thresholdOf_levelName (least : Severity) : thresholdOf least.levelName = some least := by
  cases least <;> decide +kernel

theorem thresholdOf_silent {level : String} (h : level = "off" ∨ level = "none") :
    thresholdOf level = none := by
  rcases h with rfl | rfl <;> decide +kernel

theorem filtered_debug (entries : List Entry) : filtered (some .debug) entries = entries := by
  refine List.filter_eq_self.mpr fun e _ => ?_
  simp [Threshold.admits, Severity.rank]

theorem filtered_none (entries : List Entry) : filtered none entries = [] :=
  List.filter_eq_nil_iff.mpr fun e _ => by simp [Threshold.admits]

/-- What a log lets through that is set up at a site: nothing if it is to be kept in a file and the
file cannot be made. -/
def thresholdAt (level : String) (toFile : Bool) (site : Site) : Threshold :=
  if toFile && site.obstacle?.isSome then none else thresholdOf level

theorem threshold_ofSite (level : String) (toFile : Bool) (site : Site) :
    (Setup.ofSite level toFile site).toOption.bind (·.threshold) =
      thresholdAt level toFile site := by
  obtain ⟨moment, obstacle⟩ := site
  rw [thresholdAt, thresholdOf, Setup.ofSite, Setup.ofLevel]
  cases Threshold.ofName level with
  | error e => cases toFile <;> cases obstacle <;> rfl
  | ok threshold => cases threshold <;> cases toFile <;> cases obstacle <;> rfl

theorem thresholdAt_silent {level : String} (h : level = "off" ∨ level = "none") (toFile : Bool)
    (site : Site) : thresholdAt level toFile site = none := by
  rw [thresholdAt, thresholdOf_silent h, ite_self]

end Log

namespace Settings

theorem IsValid.level_mem {s : Settings} (h : s.IsValid) : s.logLevel ∈ Log.levelNames := by
  obtain ⟨-, -, -, -, -, hlevel⟩ := invalid?_eq_none_iff.mp (check_eq_ok_iff.mp h).2
  exact hlevel

/-- The same settings but for the level, which is the same or exists in both. -/
structure AlikeButLevel (c d : Settings) : Prop where
  eq : d = { c with logLevel := d.logLevel }
  level : c.logLevel = d.logLevel ∨ c.logLevel ∈ Log.levelNames ∧ d.logLevel ∈ Log.levelNames

/-- Valid settings that differ in the level only, with no file for the log. -/
structure DifferInLevel (c d : Settings) : Prop where
  left : c.IsValid
  right : d.IsValid
  noFile : c.logToFile = false
  eq : d = { c with logLevel := d.logLevel }

namespace AlikeButLevel
variable {c d : Settings}

theorem refl (c : Settings) : c.AlikeButLevel c := ⟨rfl, .inl rfl⟩

/-- The level is only looked at where everything else is in order. -/
theorem invalid? (h : c.AlikeButLevel d) : d.invalid? = c.invalid? := by
  obtain ⟨heq, hlevel | ⟨hc, hd⟩⟩ := h
  · rw [heq, ← hlevel]
  · rw [heq]
    simp only [Settings.invalid?, hc, hd, not_true_eq_false, if_false]

theorem adjust (h : c.AlikeButLevel d) (logLevel : Option String) (precision : Option Nat) :
    (∃ fault, c.adjust logLevel precision = .error fault ∧
      d.adjust logLevel precision = .error fault) ∨
    ∃ c' d', c.adjust logLevel precision = .ok c' ∧ d.adjust logLevel precision = .ok d' ∧
      c'.AlikeButLevel d' := by
  have hasked : (c.asked logLevel precision).AlikeButLevel (d.asked logLevel precision) := by
    obtain ⟨heq, hlevel⟩ := h
    cases logLevel with
    | none =>
      refine ⟨?_, hlevel⟩
      rw [heq]
      rfl
    | some level =>
      refine ⟨?_, .inl rfl⟩
      rw [heq]
      rfl
  have hinvalid := hasked.invalid?
  simp only [adjust_eq, check, hinvalid]
  cases (c.asked logLevel precision).invalid? with
  | some fault => exact .inl ⟨fault, rfl, rfl⟩
  | none => exact .inr ⟨_, _, rfl, rfl, hasked⟩

/-- The level has no part in how an equation is worked out. -/
theorem solveWith_eq (h : c.AlikeButLevel d) (raw : String) (second : Option String)
    (family : Family) : solveWith d raw second family = solveWith c raw second family := by
  rw [h.eq]
  rfl

theorem precision_eq (h : c.AlikeButLevel d) : d.precision = c.precision := by
  rw [h.eq]

theorem logToFile_eq (h : c.AlikeButLevel d) : d.logToFile = c.logToFile := by
  rw [h.eq]

end AlikeButLevel
end Settings

namespace Session

/-! ## What is noted -/

/-- What is noted of the file of the log, if the log is yet to be set up. -/
def openingNoted (s : Session) : List Log.Entry :=
  if s.threshold.isNone && s.settings.logToFile then
    [.loggingInto (Log.fileName s.site.moment.text)]
  else []

namespace Request

def isSolve : Request → Bool
  | solve .. => true
  | _ => false

/-- The entries that a request notes, before any are left out. The file of a log that is set up is
noted whatever the log lets through. -/
def noted (s : Session) : Request → List Log.Entry
  | solve raw second family =>
    s.openingNoted ++ Log.entriesOfSolving raw second family ++
      match solveWith s.settings raw second family with
      | .ok w => [.recorded w.equation (w.answer s.settings.precision)]
      | .error r => [.refused r]
  | statisticsTable => [.statistics (Text.BoxTable.render (s.tally.rows s.history.size))]
  | _ => []

end Request

theorem logged_nil (s : Session) : s.logged [] = [] := by
  unfold logged
  split <;> rfl

theorem logged_of_none {s : Session} (h : s.threshold = none) (entries : List Log.Entry) :
    s.logged entries = [] := by
  rw [logged, h]

theorem logged_of_some {s : Session} {a : Log.Threshold} (h : s.threshold = some a)
    (entries : List Log.Entry) : s.logged entries = Log.filtered a entries := by
  rw [logged, h]

theorem openLog_threshold (s : Session) : s.openLog.threshold = s.threshold.or
    (some (Log.thresholdAt s.settings.logLevel s.settings.logToFile s.site)) := by
  rw [← Log.threshold_ofSite]
  unfold openLog opening?
  cases h : s.threshold with
  | none => rfl
  | some a => exact h

/-- The file of the log is noted where it is made, and nothing is let through where it is not. -/
theorem logged_openingEntries (s : Session) (entries : List Log.Entry) :
    s.openLog.logged (s.openingEntries ++ entries) =
      s.openLog.logged (s.openingNoted ++ entries) := by
  have hopened := s.openLog_threshold
  rw [openingEntries, openingNoted, opening?]
  cases hs : s.threshold with
  | some a => rfl
  | none =>
    rw [hs, Option.none_or] at hopened
    rw [logged_of_some hopened, logged_of_some hopened, ← Log.threshold_ofSite]
    rw [Log.Setup.ofSite, Log.Setup.ofLevel]
    cases Log.Threshold.ofName s.settings.logLevel with
    | error e => exact (Log.filtered_none _).trans (Log.filtered_none _).symm
    | ok threshold =>
      cases threshold <;> cases s.settings.logToFile <;> cases s.site.obstacle? <;> rfl

/-- **The log of a request** is what is let through of the entries it notes. -/
theorem perform_log (s : Session) (r : Request) :
    (s.perform r).log = (s.perform r).session.logged (r.noted s) := by
  cases r with
  | solve raw second family =>
    simp only [perform, solve, Request.noted, openLog_settings, List.append_assoc]
    cases solveWith s.settings raw second family with
    | ok w => exact s.logged_openingEntries _
    | error r => exact s.logged_openingEntries _
  | statisticsTable => rfl
  | adjust logLevel precision =>
    have hnoted : (Request.adjust logLevel precision).noted s = [] := rfl
    rw [hnoted, logged_nil]
    simp only [perform, adjust]
    split <;> rfl
  | assign settings => exact (logged_nil _).symm
  | clearHistory => exact (logged_nil _).symm
  | historyTable => exact (logged_nil _).symm

/-! ## Sessions alike but for their logs -/

/-- All is the same but for the level and for what the log lets through; the logs are both set up
or both not. -/
structure AlikeButLog (s t : Session) : Prop where
  settings : s.settings.AlikeButLevel t.settings
  history : t.history = s.history
  tally : t.tally = s.tally
  opened : t.threshold.isSome = s.threshold.isSome
  site : t.site = s.site

/-- The same answer, history, counts and settings but for the level. -/
structure Outcome.Agrees (o p : Outcome Reply) : Prop where
  result : p.result = o.result
  history : p.session.history = o.session.history
  tally : p.session.tally = o.session.tally
  settings : p.session.settings =
    { o.session.settings with logLevel := p.session.settings.logLevel }

/-- Two outcomes in sessions that are alike but for their logs: the answer is the same, and each log
has what it lets through of the same entries. -/
structure Outcome.AlikeButLog (o p : Outcome Reply) : Prop where
  result : p.result = o.result
  session : o.session.AlikeButLog p.session
  noted : ∃ entries, o.log = o.session.logged entries ∧ p.log = p.session.logged entries

theorem Outcome.AlikeButLog.agrees {o p : Outcome Reply} (h : o.AlikeButLog p) : o.Agrees p :=
  ⟨h.result, h.session.history, h.session.tally, h.session.settings.eq⟩

theorem isSome_openLog (s : Session) : s.openLog.threshold.isSome = true := by
  rw [openLog_threshold]
  cases s.threshold <;> rfl

theorem perform_site (s : Session) (r : Request) : (s.perform r).session.site = s.site := by
  cases r with
  | solve raw second family =>
    simp only [perform, solve]
    split <;> exact s.openLog_site
  | adjust logLevel precision =>
    simp only [perform, adjust]
    split <;> rfl
  | assign settings => rfl
  | clearHistory => rfl
  | historyTable => rfl
  | statisticsTable => rfl

namespace AlikeButLog
variable {s t : Session}

theorem noted_eq (h : s.AlikeButLog t) (r : Request) : r.noted t = r.noted s := by
  cases r with
  | solve raw second family =>
    have hopening : t.openingNoted = s.openingNoted := by
      simp only [openingNoted, h.settings.logToFile_eq, h.site, ← Option.not_isSome, h.opened]
    simp only [Request.noted, hopening, h.settings.solveWith_eq, h.settings.precision_eq]
  | statisticsTable => simp only [Request.noted, h.tally, h.history]
  | adjust logLevel precision => rfl
  | assign settings => rfl
  | clearHistory => rfl
  | historyTable => rfl

theorem perform_alike (h : s.AlikeButLog t) (r : Request) :
    (t.perform r).result = (s.perform r).result ∧
      (s.perform r).session.AlikeButLog (t.perform r).session := by
  obtain ⟨hsettings, hhistory, htally, hopened, hsite⟩ := h
  cases r with
  | solve raw second family =>
    have hboth : t.openLog.threshold.isSome = s.openLog.threshold.isSome := by
      rw [isSome_openLog, isSome_openLog]
    have hs := openLog_eq s
    have ht := openLog_eq t
    simp only [perform, solve, openLog_settings, hsettings.solveWith_eq, hsettings.precision_eq]
    cases solveWith s.settings raw second family with
    | ok w =>
      rw [hs, ht]
      exact ⟨rfl, hsettings, by simp only [hhistory], by simp only [htally], hboth, hsite⟩
    | error refusal =>
      rw [hs, ht]
      exact ⟨rfl, hsettings, hhistory, by simp only [htally], hboth, hsite⟩
  | adjust logLevel precision =>
    simp only [perform, adjust]
    rcases hsettings.adjust logLevel precision with ⟨fault, hc, hd⟩ | ⟨c', d', hc, hd, halike⟩
    · rw [hc, hd]
      exact ⟨rfl, hsettings, hhistory, htally, hopened, hsite⟩
    · rw [hc, hd]
      exact ⟨rfl, halike, hhistory, htally, hopened, hsite⟩
  | assign settings => exact ⟨rfl, .refl settings, hhistory, htally, hopened, hsite⟩
  | clearHistory =>
    exact ⟨rfl, hsettings, by simp only [perform, clearHistory, hhistory], htally, hopened, hsite⟩
  | historyTable => exact ⟨by simp only [perform, hhistory], hsettings, hhistory, htally, hopened, hsite⟩
  | statisticsTable =>
    refine ⟨?_, hsettings, hhistory, htally, hopened, hsite⟩
    simp only [perform, statisticsTable, hhistory, htally]

/-- **One request keeps sessions alike but for their logs**, and they note the same. -/
theorem perform (h : s.AlikeButLog t) (r : Request) : (s.perform r).AlikeButLog (t.perform r) := by
  obtain ⟨hresult, hsession⟩ := h.perform_alike r
  refine ⟨hresult, hsession, r.noted s, s.perform_log r, ?_⟩
  rw [t.perform_log r, h.noted_eq r]

/-- **A run keeps sessions alike but for their logs**, and they note the same. -/
theorem run (h : s.AlikeButLog t) (requests : List Request) :
    List.Forall₂ Outcome.AlikeButLog (s.run requests) (t.run requests) := by
  induction requests generalizing s t with
  | nil => exact .nil
  | cons r rest ih => exact .cons (h.perform r) (ih (h.perform r).session)

end AlikeButLog

/-! ## What is let through -/

/-- The settings in force when the first equation is solved, if one is. -/
def settingsAtFirstSolve (settings : Settings) : List Request → Option Settings
  | [] => none
  | r :: rest =>
    if r.isSolve then some settings else settingsAtFirstSolve (r.settingsAfter settings) rest

/-- The level in force when the first equation is solved, if one is. -/
def levelAtFirstSolve (settings : Settings) (requests : List Request) : Option String :=
  (settingsAtFirstSolve settings requests).map (·.logLevel)

theorem settingsAtFirstSolve_eq_none {settings : Settings} {requests : List Request}
    (h : ∀ r ∈ requests, r.isSolve = false) : settingsAtFirstSolve settings requests = none := by
  induction requests generalizing settings with
  | nil => rfl
  | cons r rest ih =>
    rw [List.forall_mem_cons] at h
    rw [settingsAtFirstSolve, h.1]
    exact ih h.2

/-- What a log lets through that is set up at a site under settings. -/
def letsThrough (site : Log.Site) (settings : Settings) : Log.Threshold :=
  Log.thresholdAt settings.logLevel settings.logToFile site

/-- What the log lets through once requests are done: what it did before, or what it does under the
settings that the first equation meets. -/
def settled (s : Session) (requests : List Request) : Option Log.Threshold :=
  s.threshold.or ((settingsAtFirstSolve s.settings requests).map (letsThrough s.site))

theorem perform_threshold (s : Session) (r : Request) :
    (s.perform r).session.threshold = if r.isSolve then s.openLog.threshold else s.threshold := by
  cases r with
  | solve raw second family =>
    simp only [perform, solve]
    split <;> rfl
  | adjust logLevel precision =>
    simp only [perform, adjust]
    split <;> rfl
  | assign settings => rfl
  | clearHistory => rfl
  | historyTable => rfl
  | statisticsTable => rfl

theorem settled_perform (s : Session) (r : Request) (rest : List Request) :
    (s.perform r).session.settled rest = s.settled (r :: rest) := by
  simp only [settled, perform_threshold, perform_settings, perform_site, settingsAtFirstSolve]
  cases r.isSolve with
  | false => rfl
  | true =>
    rw [if_pos rfl, if_pos rfl, openLog_threshold]
    cases s.threshold <;> rfl

theorem settled_eq_of_threshold {s : Session} {a : Log.Threshold} (h : s.threshold = some a)
    (requests : List Request) : s.settled requests = some a := by
  rw [settled, h]
  rfl

/-- After a request the log lets through what the first equation settles, or is not set up yet. -/
theorem threshold_of_perform (s : Session) (r : Request) (rest : List Request) :
    (s.perform r).session.threshold = none ∨
      (s.perform r).session.threshold = s.settled (r :: rest) := by
  cases h : (s.perform r).session.threshold with
  | none => exact .inl rfl
  | some a => exact .inr (by rw [← settled_perform, settled_eq_of_threshold h])

/-- **The log lets through what the first equation settles**, and nothing before it is set up. -/
theorem threshold_of_run (s : Session) (requests : List Request) :
    ∀ o ∈ s.run requests,
      o.session.threshold = none ∨ o.session.threshold = s.settled requests := by
  induction requests generalizing s with
  | nil => exact fun o ho => absurd ho List.not_mem_nil
  | cons r rest ih =>
    rw [run, List.forall_mem_cons]
    refine ⟨s.threshold_of_perform r rest, fun o ho => ?_⟩
    rw [← settled_perform]
    exact ih _ o ho

theorem after_threshold (s : Session) (requests : List Request) :
    (s.after requests).threshold = s.settled requests := by
  induction requests generalizing s with
  | nil =>
    change s.threshold = s.threshold.or none
    rw [Option.or_none]
  | cons r rest ih => rw [after_cons, ih, settled_perform]

theorem log_of_run (s : Session) (requests : List Request) :
    ∀ o ∈ s.run requests, ∃ entries, o.log = o.session.logged entries := by
  induction requests generalizing s with
  | nil => exact fun o ho => absurd ho List.not_mem_nil
  | cons r rest ih =>
    rw [run, List.forall_mem_cons]
    exact ⟨⟨_, s.perform_log r⟩, ih _⟩

/-- Nothing is logged where the first equation settles that nothing is, or there is none. -/
theorem log_eq_nil_of_run {s : Session} {requests : List Request}
    (h : s.settled requests = none ∨ s.settled requests = some none) :
    ∀ o ∈ s.run requests, o.log = [] := by
  intro o ho
  obtain ⟨entries, hlog⟩ := s.log_of_run requests o ho
  have hthreshold : o.session.threshold = none ∨ o.session.threshold = some none := by
    rcases s.threshold_of_run requests o ho with hnone | hsettled
    · exact .inl hnone
    · rwa [hsettled]
  rcases hthreshold with hnone | hsome
  · rw [hlog, logged_of_none hnone]
  · rw [hlog, logged_of_some hsome, Log.filtered_none]

/-! ## Two sessions -/

namespace AlikeButLog
variable {s t : Session} {a b : Log.Threshold}

theorem perform_logs (h : s.AlikeButLog t) {r : Request} {rest : List Request}
    (hs : s.settled (r :: rest) = some a) (ht : t.settled (r :: rest) = some b) :
    ∃ entries, (s.perform r).log = Log.filtered a entries ∧
      (t.perform r).log = Log.filtered b entries := by
  obtain ⟨entries, hslog, htlog⟩ := (h.perform r).noted
  have hopened := (h.perform r).session.opened
  have hsthreshold := s.threshold_of_perform r rest
  have htthreshold := t.threshold_of_perform r rest
  rw [hs] at hsthreshold
  rw [ht] at htthreshold
  rw [hslog, htlog]
  rcases hsthreshold with hs' | hs' <;> rcases htthreshold with ht' | ht'
  · exact ⟨[], logged_of_none hs' _, logged_of_none ht' _⟩
  · rw [hs', ht'] at hopened
    cases hopened
  · rw [hs', ht'] at hopened
    cases hopened
  · exact ⟨entries, logged_of_some hs' _, logged_of_some ht' _⟩

/-- **The logs of two runs** are what each lets through of the same entries. -/
theorem run_logs (h : s.AlikeButLog t) {requests : List Request}
    (hs : s.settled requests = some a) (ht : t.settled requests = some b) :
    List.Forall₂ (fun o p => o.Agrees p ∧
        ∃ entries, o.log = Log.filtered a entries ∧ p.log = Log.filtered b entries)
      (s.run requests) (t.run requests) := by
  induction requests generalizing s t with
  | nil => exact .nil
  | cons r rest ih =>
    refine .cons ⟨(h.perform r).agrees, h.perform_logs hs ht⟩ (ih (h.perform r).session ?_ ?_)
    · rw [settled_perform, hs]
    · rw [settled_perform, ht]

end AlikeButLog

/-- A request that asks for another level and for nothing else, in either way there is. -/
inductive Request.ChangesLevel (settings : Settings) : Request → Prop where
  | adjust (level : String) : ChangesLevel settings (.adjust (some level) none)
  | assign {level : String} (h : level ∈ Log.levelNames) :
    ChangesLevel settings (.assign { settings with logLevel := level })

/-- A change of the level leaves a session that is alike but for its log, which lets through what
it did. -/
theorem Request.ChangesLevel.perform {s : Session} {r : Request} (h : r.ChangesLevel s.settings)
    (hlevel : s.settings.logLevel ∈ Log.levelNames) :
    s.AlikeButLog (s.perform r).session ∧ (s.perform r).session.threshold = s.threshold := by
  cases h with
  | adjust level =>
    refine ⟨?_, s.perform_threshold _⟩
    change s.AlikeButLog (s.adjust (some level) none).session
    rcases s.adjust_cases (some level) none with ⟨-, hvalid, hsession⟩ | ⟨_, -, -, hsession⟩
    · rw [hsession]
      exact ⟨⟨rfl, .inr ⟨hlevel, hvalid.level_mem⟩⟩, rfl, rfl, rfl, rfl⟩
    · rw [hsession]
      exact ⟨.refl _, rfl, rfl, rfl, rfl⟩
  | assign hnew => exact ⟨⟨⟨rfl, .inr ⟨hlevel, hnew⟩⟩, rfl, rfl, rfl, rfl⟩, rfl⟩

theorem settingsAfter_alike {c d : Settings} (h : c.AlikeButLevel d) (r : Request) :
    (r.settingsAfter c).AlikeButLevel (r.settingsAfter d) := by
  cases r with
  | adjust logLevel precision =>
    simp only [Request.settingsAfter]
    rcases h.adjust logLevel precision with ⟨fault, hc, hd⟩ | ⟨c', d', hc, hd, halike⟩
    · rw [hc, hd]
      exact h
    · rw [hc, hd]
      exact halike
  | assign settings => exact .refl settings
  | solve raw second family => exact h
  | clearHistory => exact h
  | historyTable => exact h
  | statisticsTable => exact h

theorem logToFile_atFirstSolve {c d c' d' : Settings} {requests : List Request}
    (h : c.AlikeButLevel d) (hc : settingsAtFirstSolve c requests = some c')
    (hd : settingsAtFirstSolve d requests = some d') : d'.logToFile = c'.logToFile := by
  induction requests generalizing c d with
  | nil => cases hc
  | cons r rest ih =>
    rw [settingsAtFirstSolve] at hc hd
    cases hsolve : r.isSolve with
    | true =>
      rw [hsolve, if_pos rfl, Option.some.injEq] at hc hd
      rw [← hc, ← hd, h.logToFile_eq]
    | false =>
      rw [hsolve, if_neg Bool.false_ne_true] at hc hd
      exact ih (settingsAfter_alike h r) hc hd

/-- At a site where one log cannot be set up the other cannot either. -/
theorem letsThrough_cases {c d : Settings} (hfile : d.logToFile = c.logToFile)
    {least : Log.Severity} (hc : c.logLevel = least.levelName) (hd : d.logLevel = "debug")
    (site : Log.Site) :
    letsThrough site c = none ∧ letsThrough site d = none ∨
      letsThrough site c = some least ∧ letsThrough site d = some .debug := by
  have hdebug : Log.thresholdOf "debug" = some .debug := Log.thresholdOf_levelName .debug
  simp only [letsThrough, Log.thresholdAt, hfile, hc, hd, Log.thresholdOf_levelName, hdebug]
  split
  · exact .inl ⟨rfl, rfl⟩
  · exact .inr ⟨rfl, rfl⟩

theorem alikeButLevel_of_differ {c d : Settings} (h : c.DifferInLevel d) : c.AlikeButLevel d :=
  ⟨h.eq, .inr ⟨h.left.level_mem, h.right.level_mem⟩⟩

theorem alikeButLog_ofSettings {c d : Settings} (h : c.DifferInLevel d) (site : Log.Site) :
    (ofSettings c site).AlikeButLog (ofSettings d site) := by
  refine ⟨alikeButLevel_of_differ h, ?_, rfl, rfl, rfl⟩
  rw [h.eq]
  rfl

theorem settled_ofSettings {c c' : Settings} {requests : List Request} {site : Log.Site}
    (h : settingsAtFirstSolve c requests = some c') :
    (ofSettings c site).settled requests = some (letsThrough site c') := by
  change (settingsAtFirstSolve c requests).map (letsThrough site) = _
  rw [h]
  rfl

/-- **The log observes, from a threshold that is fixed by the first equation.** Take two sessions
whose valid settings differ in the level only, at any site, and any requests.

Answers, histories and counts are the same after each request. Before an equation is solved nothing
is logged. If the level in force at the first equation is `least` in the one session and `debug` in
the other, what the one logs during each request is what the other logs, in order, of severity
`least` and above; and nothing where the level is off. A change of the level that comes later alters
nothing in the log, if no settings that are not valid were put in force before it. -/
theorem run_log_observes {c d : Settings} (h : c.DifferInLevel d) (site : Log.Site)
    (requests : List Request) :
    List.Forall₂ Outcome.Agrees ((ofSettings c site).run requests)
      ((ofSettings d site).run requests) ∧
    (∀ before rest, requests = before ++ rest → (∀ r ∈ before, r.isSolve = false) →
      ∀ o ∈ ((ofSettings c site).run requests).take before.length, o.log = []) ∧
    (∀ least : Log.Severity, levelAtFirstSolve c requests = some least.levelName →
      levelAtFirstSolve d requests = some "debug" →
      List.Forall₂ (fun o p => o.log = p.log.filter fun e => least.rank ≤ e.severity.rank)
        ((ofSettings c site).run requests) ((ofSettings d site).run requests)) ∧
    (∀ level, level = "off" ∨ level = "none" → levelAtFirstSolve c requests = some level →
      ∀ o ∈ (ofSettings c site).run requests, o.log = []) ∧
    (levelAtFirstSolve c requests ≠ none → (∀ r ∈ requests, r.AssignsValid) →
      ∀ r more, r.ChangesLevel (settingsAfter c requests) →
        List.Forall₂ (fun o p => o.Agrees p ∧ p.log = o.log)
          (((ofSettings c site).after requests).run more)
          (((ofSettings c site).after (requests ++ [r])).run more)) := by
  have halike := alikeButLog_ofSettings h site
  refine ⟨(halike.run requests).imp fun _ _ ho => ho.agrees, ?_, ?_, ?_, ?_⟩
  · rintro before rest rfl hbefore o ho
    rw [run_append, List.take_left' (length_run _ _)] at ho
    have hsettled : (ofSettings c site).settled before = none := by
      change (settingsAtFirstSolve c before).map (letsThrough site) = none
      rw [settingsAtFirstSolve_eq_none hbefore]
      rfl
    exact log_eq_nil_of_run (.inl hsettled) o ho
  · intro least hleast hdebug
    obtain ⟨c', hc, hleast⟩ := Option.map_eq_some_iff.mp hleast
    obtain ⟨d', hd, hdebug⟩ := Option.map_eq_some_iff.mp hdebug
    have hfile := logToFile_atFirstSolve (alikeButLevel_of_differ h) hc hd
    refine (halike.run_logs (settled_ofSettings hc) (settled_ofSettings hd)).imp ?_
    rintro o p ⟨-, entries, holog, hplog⟩
    rw [holog, hplog]
    rcases letsThrough_cases hfile hleast hdebug site with ⟨ha, hb⟩ | ⟨ha, hb⟩
    · rw [ha, hb, Log.filtered_none]
      rfl
    · rw [ha, hb, Log.filtered_debug]
      rfl
  · intro level hlevel hfirst
    obtain ⟨c', hc, hoff⟩ := Option.map_eq_some_iff.mp hfirst
    have hs : (ofSettings c site).settled requests = some (letsThrough site c') :=
      settled_ofSettings hc
    rw [letsThrough, hoff, Log.thresholdAt_silent hlevel] at hs
    exact log_eq_nil_of_run (.inr hs)
  · intro hfirst hvalid r more hr
    obtain ⟨first, hfirst⟩ := Option.ne_none_iff_exists'.mp hfirst
    obtain ⟨c', hc, -⟩ := Option.map_eq_some_iff.mp hfirst
    have hafter : ((ofSettings c site).after requests).settings = settingsAfter c requests :=
      (ofSettings c site).after_settings requests
    have hlevel := (settingsAfter_isValid h.left hvalid).level_mem
    rw [← hafter] at hlevel hr
    obtain ⟨hchanged, hsame⟩ := hr.perform hlevel
    have hs := ((ofSettings c site).after_threshold requests).trans (settled_ofSettings hc)
    have ht := hsame.trans hs
    rw [after_snoc]
    have hlogs := hchanged.run_logs (settled_eq_of_threshold hs more) (settled_eq_of_threshold ht more)
    refine hlogs.imp ?_
    rintro o p ⟨hagrees, entries, holog, hplog⟩
    exact ⟨hagrees, hplog.trans holog.symm⟩

/-- From level `warn` an equation with a text too many logs nothing and a text that is refused logs
both warnings, as from `debug`; the level that is then asked for changes neither. -/
theorem run_log_observes_warn :
    let warn := { Settings.default with logLevel := "warn" }
    let debug := { Settings.default with logLevel := "debug" }
    let requests : List Request :=
      [.statisticsTable, .solve "2x+5=11" (some "x=1") .linear, .solve "oops" none .linear]
    (warn.DifferInLevel debug ∧ levelAtFirstSolve warn requests = some "warn" ∧
      levelAtFirstSolve debug requests = some "debug") ∧
    ((ofSettings warn).run requests).map (·.log.length) = [0, 0, 2] ∧
    ((ofSettings debug).run requests).map (·.log.length) = [0, 4, 2] ∧
    List.Forall₂ (fun o p => o.log = p.log.filter fun e => Log.Severity.warn.rank ≤ e.severity.rank)
      ((ofSettings warn).run requests) ((ofSettings debug).run requests) ∧
    List.Forall₂ (fun o p => o.Agrees p ∧ p.log = o.log)
      (((ofSettings warn).after requests).run [.solve "oops" none .linear])
      (((ofSettings warn).after (requests ++ [.adjust (some "off") none])).run
        [.solve "oops" none .linear]) := by
  intro warn debug requests
  have hdiffer : warn.DifferInLevel debug := by
    refine ⟨?_, ?_, rfl, rfl⟩ <;> rw [Settings.IsValid] <;> decide +kernel
  obtain ⟨-, -, hfiltered, -, hlater⟩ := run_log_observes hdiffer (.clear .epoch) requests
  refine ⟨⟨hdiffer, rfl, rfl⟩, by decide +kernel, by decide +kernel, hfiltered .warn rfl rfl, ?_⟩
  refine hlater (Option.some_ne_none "warn") ?_ _ _ (.adjust "off")
  intro r hr settings hassign
  simp only [requests, List.mem_cons, List.not_mem_nil, or_false] at hr
  rcases hr with rfl | rfl | rfl <;> cases hassign

end Session
end WorkedEquations
