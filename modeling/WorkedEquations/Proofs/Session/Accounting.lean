/-
The books of a session, told from the requests alone.

What a request comes to depends on the settings in force, and these on the
requests before it; `events` goes through a list of requests in that way and
never looks at a session. One request changes what `perform_changes` says and
nothing else, and by induction on the requests the history and the tallies
are what follows from the events (`Accounts`), over every run of every session
that there is room for (`run_accounts`).
-/
import Mathlib.Data.List.Induction
import WorkedEquations.Proofs.Session.Reentry

namespace WorkedEquations

/-! ## Counts by name -/

namespace Tally

/-- How often a named outcome occurred; a name that is not listed stands for none. -/
def count (t : Tally) (name : String) : Nat := (t.toList.lookup name).getD 0

/-- A count of zero may be listed or not. -/
theorem lookup_present {counts : List (String × Nat)} (hkeys : (counts.map (·.1)).Nodup)
    (name : String) : ((present counts).lookup name).getD 0 = (counts.lookup name).getD 0 := by
  induction counts with
  | nil => rfl
  | cons head rest ih =>
    obtain ⟨key, n⟩ := head
    rw [List.map_cons, List.nodup_cons] at hkeys
    have hrest := ih hkeys.2
    simp only [present] at hrest ⊢
    rw [List.filter_cons]
    by_cases hn : n = 0
    · subst hn
      rw [if_neg (by simp), hrest, List.lookup_cons]
      by_cases hname : name = key
      · subst hname
        have hnone : rest.lookup name = none := by
          rw [List.lookup_eq_none_iff]
          intro pair hpair
          have hne : name ≠ pair.1 := by
            rintro rfl
            exact hkeys.1 (List.mem_map.mpr ⟨pair, hpair, rfl⟩)
          simpa using hne
        rw [hnone, beq_self_eq_true]
        rfl
      · rw [beq_eq_false_iff_ne.mpr hname]
    · rw [if_pos (by simpa using hn), List.lookup_cons, List.lookup_cons]
      by_cases hname : name = key
      · rw [hname, beq_self_eq_true]
      · rw [beq_eq_false_iff_ne.mpr hname]
        exact hrest

/-- All counts by name, zeros too. -/
def named (t : Tally) : List (String × Nat) :=
  [("classification failures", t.failures), ("degenerate outcomes", t.degenerate),
    ("linear solves", t.linear), ("quadratic solves", t.quadratic), ("system solves", t.system)]

theorem count_eq (t : Tally) (name : String) : t.count name = (t.named.lookup name).getD 0 := by
  have hlist : t.toList = present t.named := by
    simp only [toList, setbacks, successes, named, present, ← List.filter_append]
    rfl
  have hkeys : (t.named.map (·.1)).Nodup := by
    simp only [named, List.map_cons, List.map_nil]
    decide
  rw [count, hlist, lookup_present hkeys]

theorem count_solves (t : Tally) (family : Family) :
    t.count (family.name ++ " solves") = t.solves family := by
  rw [count_eq]
  cases family <;> rfl

theorem count_degenerate (t : Tally) : t.count "degenerate outcomes" = t.degenerate := by
  rw [count_eq]
  rfl

theorem count_failures (t : Tally) : t.count "classification failures" = t.failures := by
  rw [count_eq]
  rfl

theorem solves_countWorked (t : Tally) (w : Worked) (family : Family) :
    (t.countWorked w).solves family = t.solves family + if w.family = family then 1 else 0 := by
  simp only [countWorked]
  split <;> cases hw : w.family <;> cases family <;> simp [solves]

theorem degenerate_countWorked (t : Tally) (w : Worked) :
    (t.countWorked w).degenerate = t.degenerate + if w.solution.isDegenerate then 1 else 0 := by
  simp only [countWorked]
  split <;> cases w.family <;> simp [*]

theorem failures_countWorked (t : Tally) (w : Worked) : (t.countWorked w).failures = t.failures := by
  simp only [countWorked]
  split <;> cases w.family <;> rfl

end Tally

namespace Session

/-! ## Events -/

/-- What a request leaves in the books. -/
inductive Event where
  /-- An equation was worked out under these settings. -/
  | solved (settings : Settings) (w : Worked)
  | refused (r : Refusal)
  | cleared
  | nothing

namespace Event

/-- The entry of the history that goes with an event. -/
def entry? : Event → Option History.Entry
  | solved settings w => some (entryOf settings w)
  | _ => none

def isSolved (family : Family) : Event → Bool
  | solved _ w => w.family == family
  | _ => false

def isDegenerate : Event → Bool
  | solved _ w => w.solution.isDegenerate
  | _ => false

def isRefused : Event → Bool
  | refused _ => true
  | _ => false

def isCleared : Event → Bool
  | cleared => true
  | _ => false

end Event

namespace Request

/-- The settings in force after a request: those it asks for, if they are valid or are put in force
as they are. -/
def settingsAfter (settings : Settings) : Request → Settings
  | adjust logLevel precision => (settings.adjust logLevel precision).toOption.getD settings
  | assign other => other
  | _ => settings

/-- What a request comes to under settings. -/
def event (settings : Settings) : Request → Event
  | solve raw second family =>
    match solveWith settings raw second family with
    | .ok w => .solved settings w
    | .error r => .refused r
  | clearHistory => .cleared
  | _ => .nothing

/-- An equation is answered as it is worked out under the settings. -/
def Answered (settings : Settings) (r : Request) (reply : Reply) : Prop :=
  match r with
  | solve raw second family => reply = .worked (solveWith settings raw second family)
  | _ => True

/-- What a request makes of a session. The log is set up with the first equation. -/
def Changes (r : Request) (s s' : Session) : Prop :=
  match r.event s.settings with
  | .solved settings w =>
    s' = { s with
      history := s.history.record (entryOf settings w)
      tally := s.tally.countWorked w
      threshold := s.openLog.threshold }
  | .refused _ =>
    s' = { s with tally := s.tally.countFailure, threshold := s.openLog.threshold }
  | .cleared => s' = { s with history := s.history.clear }
  | .nothing => s' = { s with settings := r.settingsAfter s.settings }

end Request

/-- The settings in force after requests. -/
def settingsAfter (settings : Settings) (requests : List Request) : Settings :=
  requests.foldl Request.settingsAfter settings

/-- What requests come to, one after the other. -/
def events (settings : Settings) : List Request → List Event
  | [] => []
  | r :: rest => r.event settings :: events (r.settingsAfter settings) rest

/-- The entries since the history was last cleared, newest first. -/
def recent (past : List Event) : List History.Entry :=
  (past.reverse.takeWhile fun e => !e.isCleared).filterMap Event.entry?

/-- The session after the last of the requests. -/
def after (s : Session) (requests : List Request) : Session :=
  ((s.run requests).map (·.session)).getLastD s

/-- The books after events, for a history that was made with a capacity. -/
structure Accounts (s : Session) (capacity : Nat) (past : List Event) : Prop where
  room : s.history.capacity = max capacity 1
  entries : s.history.entries = (recent past).take (max capacity 1)
  solves (family : Family) :
    s.tally.count (family.name ++ " solves") = past.countP (Event.isSolved family)
  degenerate : s.tally.count "degenerate outcomes" = past.countP Event.isDegenerate
  failures : s.tally.count "classification failures" = past.countP Event.isRefused

/-! ## One request -/

theorem openLog_eq (s : Session) : s.openLog = { s with threshold := s.openLog.threshold } := by
  unfold openLog
  split <;> rfl

theorem solve_changes (s : Session) (raw : String) (second : Option String) (family : Family) :
    (Request.solve raw second family).Changes s (s.solve raw second family).session := by
  rw [Request.Changes, Request.event]
  simp only [solve, openLog_settings]
  cases solveWith s.settings raw second family with
  | ok w =>
    simp only [entryOf]
    rw [openLog_eq s]
  | error r =>
    simp only []
    rw [openLog_eq s]

/-- **What one request changes.** -/
theorem perform_changes (s : Session) (r : Request) : r.Changes s (s.perform r).session := by
  cases r with
  | solve raw second family => exact s.solve_changes raw second family
  | adjust logLevel precision =>
    change (s.adjust logLevel precision).session = _
    simp only [adjust, Request.settingsAfter]
    cases s.settings.adjust logLevel precision <;> rfl
  | assign settings => rfl
  | clearHistory => rfl
  | historyTable => rfl
  | statisticsTable => rfl

theorem perform_answered (s : Session) (r : Request) :
    r.Answered s.settings (s.perform r).result := by
  cases r with
  | solve raw second family =>
    change Reply.worked (s.solve raw second family).result = _
    simp only [solve, openLog_settings]
    cases solveWith s.settings raw second family <;> rfl
  | adjust logLevel precision => trivial
  | assign settings => trivial
  | clearHistory => trivial
  | historyTable => trivial
  | statisticsTable => trivial

/-! ## Runs -/

theorem after_cons (s : Session) (r : Request) (rest : List Request) :
    s.after (r :: rest) = (s.perform r).session.after rest := by
  simp only [after, run, List.map_cons, List.getLastD_cons]

theorem run_append (s : Session) (requests more : List Request) :
    s.run (requests ++ more) = s.run requests ++ (s.after requests).run more := by
  induction requests generalizing s with
  | nil => rfl
  | cons r rest ih =>
    rw [List.cons_append, run, run, ih, after_cons]
    rfl

theorem length_run (s : Session) (requests : List Request) :
    (s.run requests).length = requests.length := by
  induction requests generalizing s with
  | nil => rfl
  | cons r rest ih => simp [run, ih]

theorem after_snoc (s : Session) (requests : List Request) (r : Request) :
    s.after (requests ++ [r]) = ((s.after requests).perform r).session := by
  simp only [after, run_append, run, List.map_append, List.map_cons, List.map_nil,
    List.getLastD_concat]

theorem settingsAfter_snoc (settings : Settings) (requests : List Request) (r : Request) :
    settingsAfter settings (requests ++ [r]) = r.settingsAfter (settingsAfter settings requests) := by
  simp only [settingsAfter, List.foldl_append, List.foldl_cons, List.foldl_nil]

theorem events_snoc (settings : Settings) (requests : List Request) (r : Request) :
    events settings (requests ++ [r]) =
      events settings requests ++ [r.event (settingsAfter settings requests)] := by
  induction requests generalizing settings with
  | nil => rfl
  | cons head rest ih =>
    rw [List.cons_append, events, ih]
    rfl

theorem recent_snoc (past : List Event) (e : Event) :
    recent (past ++ [e]) = if e.isCleared then [] else e.entry?.toList ++ recent past := by
  simp only [recent, List.reverse_append, List.reverse_cons, List.reverse_nil, List.nil_append,
    List.cons_append, List.takeWhile_cons]
  cases e with
  | solved settings w => rfl
  | refused r => rfl
  | cleared => rfl
  | nothing => rfl

theorem countP_snoc (p : Event → Bool) (past : List Event) (e : Event) :
    (past ++ [e]).countP p = past.countP p + if p e then 1 else 0 := by
  rw [List.countP_append, List.countP_singleton]

/-! ## The books -/

theorem settings_eq_of_changes {r : Request} {s s' : Session} (h : r.Changes s s') :
    s'.settings = r.settingsAfter s.settings := by
  cases r with
  | solve raw second family =>
    rw [Request.Changes, Request.event] at h
    cases hsolve : solveWith s.settings raw second family with
    | ok w =>
      rw [hsolve] at h
      rw [h]
      rfl
    | error refusal =>
      rw [hsolve] at h
      rw [h]
      rfl
  | adjust logLevel precision => exact congrArg settings h
  | assign settings => exact congrArg Session.settings h
  | clearHistory =>
    have hcleared : s' = { s with history := s.history.clear } := h
    rw [hcleared]
    rfl
  | historyTable => exact congrArg settings h
  | statisticsTable => exact congrArg settings h

/-- What is kept of a list with one more in front needs only what was kept of the list. -/
theorem take_cons_take {α : Type} (x : α) (xs : List α) (n : Nat) :
    (x :: xs.take n).take n = (x :: xs).take n := by
  cases n with
  | zero => rfl
  | succ n => rw [List.take_succ_cons, List.take_succ_cons, List.take_take, Nat.min_eq_left n.le_succ]

/-- There is a session if there is room for its history. -/
theorem ofSettings?_eq (room : Nat → Bool) (settings : Settings) (site : Log.Site) :
    ofSettings? room settings site =
      if room (History.reserve settings.historyCapacity) then some (ofSettings settings site)
      else none := by
  unfold ofSettings? History.ofCapacity?
  split <;> rfl

theorem eq_ofSettings {room : Nat → Bool} {settings : Settings} {site : Log.Site} {s : Session}
    (h : ofSettings? room settings site = some s) : s = ofSettings settings site := by
  rw [ofSettings?_eq] at h
  split at h
  · exact (Option.some.inj h).symm
  · cases h

theorem accounts_ofSettings (settings : Settings) (site : Log.Site) :
    (ofSettings settings site).Accounts settings.historyCapacity [] where
  room := rfl
  entries := List.take_nil.symm
  solves family := by
    rw [Tally.count_solves]
    cases family <;> rfl
  degenerate := rfl
  failures := rfl

namespace Accounts
variable {capacity : Nat} {past : List Event} {s : Session}

theorem solved (h : s.Accounts capacity past) (settings : Settings) (w : Worked)
    (threshold : Option Log.Threshold) :
    { s with
      history := s.history.record (entryOf settings w)
      tally := s.tally.countWorked w
      threshold : Session }.Accounts capacity (past ++ [.solved settings w]) where
  room := h.room
  entries := by
    change (entryOf settings w :: s.history.entries).take s.history.capacity = _
    rw [h.entries, h.room, take_cons_take, recent_snoc]
    rfl
  solves family := by
    rw [Tally.count_solves, Tally.solves_countWorked, ← Tally.count_solves, h.solves, countP_snoc]
    simp [Event.isSolved]
  degenerate := by
    rw [Tally.count_degenerate, Tally.degenerate_countWorked, ← Tally.count_degenerate, h.degenerate,
      countP_snoc]
    rfl
  failures := by
    rw [Tally.count_failures, Tally.failures_countWorked, ← Tally.count_failures, h.failures,
      countP_snoc]
    rfl

theorem refused (h : s.Accounts capacity past) (r : Refusal) (threshold : Option Log.Threshold) :
    { s with tally := s.tally.countFailure, threshold : Session }.Accounts capacity
      (past ++ [.refused r]) where
  room := h.room
  entries := by
    rw [recent_snoc]
    exact h.entries
  solves family := by
    rw [countP_snoc, ← h.solves, Tally.count_solves, Tally.count_solves]
    rfl
  degenerate := by
    rw [countP_snoc, ← h.degenerate, Tally.count_degenerate, Tally.count_degenerate]
    rfl
  failures := by
    rw [countP_snoc, ← h.failures, Tally.count_failures, Tally.count_failures]
    rfl

theorem cleared (h : s.Accounts capacity past) :
    { s with history := s.history.clear : Session }.Accounts capacity (past ++ [.cleared]) where
  room := h.room
  entries := by
    rw [recent_snoc]
    exact List.take_nil.symm
  solves family := by
    rw [countP_snoc]
    exact h.solves family
  degenerate := by
    rw [countP_snoc]
    exact h.degenerate
  failures := by
    rw [countP_snoc]
    exact h.failures

theorem nothing (h : s.Accounts capacity past) (settings : Settings) :
    { s with settings : Session }.Accounts capacity (past ++ [.nothing]) where
  room := h.room
  entries := by
    rw [recent_snoc]
    exact h.entries
  solves family := by
    rw [countP_snoc]
    exact h.solves family
  degenerate := by
    rw [countP_snoc]
    exact h.degenerate
  failures := by
    rw [countP_snoc]
    exact h.failures

/-- **One request keeps the books.** -/
theorem step {s' : Session} {r : Request} (h : s.Accounts capacity past) (hr : r.Changes s s') :
    s'.Accounts capacity (past ++ [r.event s.settings]) := by
  rw [Request.Changes] at hr
  cases hevent : r.event s.settings with
  | solved settings w =>
    rw [hevent] at hr
    rw [hr]
    exact h.solved settings w _
  | refused refusal =>
    rw [hevent] at hr
    rw [hr]
    exact h.refused refusal _
  | cleared =>
    rw [hevent] at hr
    rw [hr]
    exact h.cleared
  | nothing =>
    rw [hevent] at hr
    rw [hr]
    exact h.nothing _

end Accounts

theorem after_accounts (settings : Settings) (site : Log.Site) (requests : List Request) :
    ((ofSettings settings site).after requests).settings = settingsAfter settings requests ∧
    ((ofSettings settings site).after requests).Accounts settings.historyCapacity
      (events settings requests) := by
  -- The last request is split off: it meets the settings that those before it led to.
  induction requests using List.reverseRecOn with
  | nil => exact ⟨rfl, accounts_ofSettings settings site⟩
  | append_singleton requests r ih =>
    obtain ⟨hsettings, hbooks⟩ := ih
    have hchanges := ((ofSettings settings site).after requests).perform_changes r
    have hstep := hbooks.step hchanges
    have hnow := settings_eq_of_changes hchanges
    rw [hsettings] at hstep hnow
    rw [after_snoc, settingsAfter_snoc, events_snoc]
    exact ⟨hnow, hstep⟩

/-- **The books of a whole run.** There is no session just if there is no room for what its history
sets aside. If there is one, then after any requests the settings in force, the history and the
counts are what the requests alone lead to; the next request is answered under these settings, and
changes what it should and nothing else. -/
theorem run_accounts (room : Nat → Bool) (settings : Settings) (site : Log.Site) :
    (ofSettings? room settings site = none ↔
      room (max settings.historyCapacity 1 + 1) = false) ∧
    ∀ s, ofSettings? room settings site = some s → ∀ requests,
      (s.after requests).settings = settingsAfter settings requests ∧
      (s.after requests).Accounts settings.historyCapacity (events settings requests) ∧
      ∀ r rest, ∃ o, (s.run (requests ++ r :: rest))[requests.length]? = some o ∧
        r.Answered (settingsAfter settings requests) o.result ∧
        r.Changes (s.after requests) o.session := by
  constructor
  · rw [ofSettings?_eq, History.reserve]
    split <;> simp [*]
  intro s hs requests
  rw [eq_ofSettings hs]
  obtain ⟨hsettings, hbooks⟩ := after_accounts settings site requests
  refine ⟨hsettings, hbooks, fun r rest => ?_⟩
  have hanswered := ((ofSettings settings site).after requests).perform_answered r
  rw [hsettings] at hanswered
  refine ⟨_, ?_, hanswered, perform_changes _ r⟩
  rw [run_append, List.getElem?_append_right (by rw [length_run]), length_run, Nat.sub_self]
  rfl

/-- Where 63 bits count the bytes there is no room for the greatest capacity. With room for two
entries the first of three is gone, each is shown as it was, and a refused text is only counted. -/
theorem run_accounts_evicted :
    let room := fun entries => decide (48 * entries < 2 ^ 63)
    let two := { Settings.default with historyCapacity := 2 }
    let requests : List Request :=
      [.solve "x+1=2" none .linear, .solve "3x+0=1" none .linear, .adjust none (some 1),
        .solve "oops" none .linear, .solve "3x+1=2" none .linear]
    ofSettings? room { Settings.default with historyCapacity := 9223372036854775807 } = none ∧
    ∃ s, ofSettings? room two = some s ∧
      (s.after requests).history.entries = [⟨"3x+1=2", "x = 0.3"⟩, ⟨"3x+0=1", "x = 0.333"⟩] ∧
      (s.after requests).tally.count "classification failures" = 1 := by
  intro room two requests
  refine ⟨(run_accounts room _ _).1.mpr (by decide), ofSettings two, by decide +kernel, ?_⟩
  have hroom : ofSettings? room two = some (ofSettings two) := by decide +kernel
  obtain ⟨-, hbooks, -⟩ := (run_accounts room two _).2 _ hroom requests
  rw [hbooks.entries, hbooks.failures]
  constructor <;> decide +kernel

end Session
end WorkedEquations
