/-
Settings and the documents that record them.

A document records settings if it has no key but those of the fields, and of
every field the last entry with its key has the field's token for its only
value, or there is no such entry and the field is at its default. Sections and
entries may stand in any order, and a title may come more than once.

Reading a document comes to reading field by field (`read_eq_ok_iff`). So valid
settings come back from every text that records them, and a text that gives
settings gives valid ones and has nothing in it but known keys
(`ofText_roundtrip`).
-/
import WorkedEquations.Proofs.Settings.Fields
import WorkedEquations.Proofs.Settings.Unknown

namespace WorkedEquations
namespace Settings

open Document (Writes Lays Value)
open Document.Written (Section LastTokens keys document)

variable {sections : List Section} {title key : String} {c : Settings} {order : Document.Order}

/-- A title of fields, and below it keys of fields. -/
def Known (s : Section) : Prop :=
  (∃ f ∈ fields, f.title = s.title) ∧
    ∀ e ∈ s.entries, ∃ f ∈ fields, f.title = s.title ∧ f.key = e.key

/-- There is no entry with the title and the key. -/
def Absent (sections : List Section) (title key : String) : Prop :=
  ∀ tokens, (title, key, tokens) ∉ keys sections

/-- The last entry for the field has its token for the only value; if there is no entry, the field
is at its default. -/
structure Holds (sections : List Section) (c : Settings) (f : Field) : Prop where
  last : ∀ tokens, LastTokens sections f.title f.key tokens → tokens = [(f.get c).token]
  absent : Absent sections f.title f.key → f.get c = f.get .default

/-- The document records the settings. -/
structure Records (sections : List Section) (c : Settings) : Prop where
  known : ∀ s ∈ sections, Known s
  holds : ∀ f ∈ fields, Holds sections c f

theorem eq_of_title_key {f g : Field} (hf : f ∈ fields) (hg : g ∈ fields) (htitle : f.title = g.title)
    (hkey : f.key = g.key) : f = g := by
  have hnodup : (fields.map fun f => (f.title, f.key)).Nodup := by decide
  exact List.inj_on_of_nodup_map hnodup hf hg (Prod.ext htitle hkey)

/-- A document of the fields alone, each with its token, once or more, records the settings, if
only fields at their default are left out. -/
theorem records_of_keys (hentries : ∀ s ∈ sections, s.entries ≠ [])
    (hkeys : ∀ o ∈ keys sections, ∃ f ∈ fields, o = (f.title, f.key, [(f.get c).token]))
    (hdefault : ∀ f ∈ fields, Absent sections f.title f.key → f.get c = f.get .default) :
    Records sections c := by
  have hfield : ∀ s ∈ sections, ∀ e ∈ s.entries, ∃ f ∈ fields, f.title = s.title ∧ f.key = e.key := by
    intro s hs e he
    obtain ⟨f, hf, heq⟩ := hkeys _ (Document.Written.mem_keys hs he)
    rw [Prod.mk.injEq, Prod.mk.injEq] at heq
    exact ⟨f, hf, heq.1.symm, heq.2.1.symm⟩
  refine ⟨fun s hs => ⟨?_, hfield s hs⟩, fun f hf => ⟨fun tokens hlast => ?_, hdefault f hf⟩⟩
  · obtain ⟨e, he⟩ := List.exists_mem_of_ne_nil _ (hentries s hs)
    obtain ⟨f, hf, htitle, -⟩ := hfield s hs e he
    exact ⟨f, hf, htitle⟩
  · obtain ⟨g, hg, heq⟩ := hkeys _ hlast.mem
    rw [Prod.mk.injEq, Prod.mk.injEq] at heq
    rw [heq.2.2, eq_of_title_key hf hg heq.1 heq.2.1]

/-! ## Reading field by field -/

theorem values?_of_absent (h : Absent sections title key) :
    (document sections).values? title key = none := by
  rw [Option.eq_none_iff_forall_ne_some]
  intro values hvalues
  obtain ⟨tokens, hlast, -⟩ := Document.Written.values?_document_iff.mp hvalues
  exact h tokens hlast.mem

section
variable {α : Type} {read : Value → Option α} {fallback x : α}

theorem setting_of_absent (h : Absent sections title key) :
    setting (document sections) title key read fallback = .ok fallback := by
  simp only [setting, value?, values?_of_absent h, bind, Except.bind, pure, Except.pure]

theorem eq_fallback_of_absent (hx : setting (document sections) title key read fallback = .ok x)
    (h : Absent sections title key) : x = fallback := by
  rw [setting_of_absent h, Except.ok.injEq] at hx
  exact hx.symm

theorem setting_of_lastTokens {token : String} (h : LastTokens sections title key [token])
    (hread : read (Value.ofToken token.toList) = some x) :
    setting (document sections) title key read fallback = .ok x := by
  have hvalues := Document.Written.values?_document_iff.mpr ⟨[token], h, rfl⟩
  simp only [setting, value?, hvalues, List.map_cons, List.map_nil, bind, Except.bind, hread, pure,
    Except.pure]

end

theorem lookup_knownKeys_eq_none_iff (title : String) :
    knownKeys.lookup title = none ↔ ¬ ∃ f ∈ fields, f.title = title := by
  simp only [knownKeys, List.lookup_eq_none_iff, fields, List.mem_cons, List.not_mem_nil, or_false,
    exists_eq_or_imp, exists_eq_left, forall_eq_or_imp, forall_eq]
  grind

theorem contains_of_lookup {title : String} {known : List String}
    (h : knownKeys.lookup title = some known) (key : String) :
    known.contains key = true ↔ ∃ f ∈ fields, f.title = title ∧ f.key = key := by
  obtain ⟨before, after, hsplit, -⟩ := List.lookup_eq_some_iff.mp h
  have hmem : (title, known) ∈ knownKeys := by simp [hsplit]
  simp only [knownKeys, List.mem_cons, List.not_mem_nil, or_false, Prod.mk.injEq] at hmem
  rcases hmem with ⟨rfl, rfl⟩ | ⟨rfl, rfl⟩ | ⟨rfl, rfl⟩ <;> simp [fields, @eq_comm _ key]

theorem unknown?_document_eq_none_iff {order : Document.Order} :
    unknown? (document sections) order = none ↔ ∀ s ∈ sections, Known s := by
  have htitles : ∀ title, title ∈ (document sections).titles ↔ ∃ s ∈ sections, s.title = title := by
    simp [Document.mem_titles, document, Document.Written.Section.read]
  have hkeys : ∀ title key, key ∈ (document sections).keys title ↔
      ∃ s ∈ sections, s.title = title ∧ ∃ e ∈ s.entries, e.key = key := by
    simp [Document.mem_keys, document, Document.Written.Section.read, Document.Written.Entry.read]
  rw [unknown?_eq_none_iff]
  constructor
  · intro h s hs
    have htitle := (htitles s.title).mpr ⟨s, hs, rfl⟩
    cases hlookup : knownKeys.lookup s.title with
    | none => exact absurd (.title htitle hlookup) (h _)
    | some known =>
      have hknown : ∃ f ∈ fields, f.title = s.title := by
        by_contra hnone
        cases hlookup.symm.trans ((lookup_knownKeys_eq_none_iff s.title).mpr hnone)
      refine ⟨hknown, fun e he => ?_⟩
      by_contra hforeign
      rw [← contains_of_lookup hlookup, List.contains_iff_mem] at hforeign
      exact h _ (.key htitle hlookup ((hkeys s.title e.key).mpr ⟨s, hs, rfl, e, he, rfl⟩) hforeign)
  · intro h fault hfault
    cases hfault with
    | title htitle hnone =>
      obtain ⟨s, hs, rfl⟩ := (htitles _).mp htitle
      exact (lookup_knownKeys_eq_none_iff s.title).mp hnone (h s hs).1
    | key _ hsome hkey hforeign =>
      obtain ⟨s, hs, rfl, e, he, rfl⟩ := (hkeys _ _).mp hkey
      exact hforeign (List.contains_iff_mem.mp ((contains_of_lookup hsome e.key).mpr ((h s hs).2 e he)))

/-- **What reading comes to, field by field.** -/
theorem read_eq_ok_iff {d : Document} : read d order = .ok c ↔ unknown? d order = none ∧
    setting d "solver" "loglevel" (fun v => some (Text.lower v.display)) default.logLevel =
      .ok c.logLevel ∧
    setting d "solver" "log_to_file" Value.toBoolean? default.logToFile = .ok c.logToFile ∧
    setting d "solver" "precision" natOf? default.precision = .ok c.precision ∧
    setting d "plot" "half_width" Value.toFloat? default.window.halfWidth = .ok c.window.halfWidth ∧
    setting d "plot" "step" Value.toFloat? default.window.step = .ok c.window.step ∧
    setting d "history" "capacity" natOf? default.historyCapacity = .ok c.historyCapacity := by
  unfold read
  cases hunknown : unknown? d order with
  | some fault => simp [bind, Except.bind, throw, throwThe, MonadExceptOf.throw]
  | none =>
    simp only [bind_eq_ok_iff, pure, Except.pure, Except.ok.injEq, true_and]
    constructor
    · rintro ⟨_, hlevel, _, hfile, _, hprecision, _, hwidth, _, hstep, _, hcapacity, rfl⟩
      exact ⟨hlevel, hfile, hprecision, hwidth, hstep, hcapacity⟩
    · rintro ⟨hlevel, hfile, hprecision, hwidth, hstep, hcapacity⟩
      exact ⟨_, hlevel, _, hfile, _, hprecision, _, hwidth, _, hstep, _, hcapacity, rfl⟩

/-! ## Valid settings -/

theorem invalid?_eq_none_iff : c.invalid? = none ↔ c.precision ≤ maxPrecision ∧
    1 ≤ c.historyCapacity ∧ (0 < c.window.halfWidth ∧ c.window.halfWidth.isFinite = true) ∧
    (0 < c.window.step ∧ c.window.step ≤ c.window.halfWidth) ∧
    c.window.intervals?.isNone = false ∧ c.logLevel ∈ Log.levelNames := by
  have hstep : ∀ (p : Prop) [Decidable p] (fault : Invalid) (rest : Option Invalid),
      (if p then some fault else rest) = none ↔ ¬ p ∧ rest = none := by
    intro p _ fault rest
    split <;> simp [*]
  simp only [invalid?, hstep, not_lt, not_not, and_true, Bool.not_eq_true]

theorem invalid?_default : Settings.default.invalid? = none := by decide +kernel

theorem check_eq_ok_iff {s : Settings} : s.check = .ok c ↔ s = c ∧ c.invalid? = none := by
  unfold check
  cases h : s.invalid? with
  | none =>
    simp only [Except.ok.injEq]
    constructor
    · rintro rfl
      exact ⟨rfl, h⟩
    · exact And.left
  | some fault =>
    simp only [reduceCtorEq, false_iff, not_and]
    rintro rfl
    rw [h]
    simp

theorem recordable_of_valid (hvalid : c.invalid? = none) (hcapacity : c.historyCapacity < 2 ^ 63) :
    ∀ f ∈ fields, (f.get c).Recordable := by
  obtain ⟨hprecision, -, ⟨hwidth, -⟩, ⟨hstep, -⟩, -, hlevel⟩ := invalid?_eq_none_iff.mp hvalid
  have hzero : ∀ x : Binary64, 0 < x → x ≠ .signedZero true := by
    rintro x hx rfl
    exact absurd hx (by decide)
  unfold maxPrecision at hprecision
  simp only [fields, List.mem_cons, List.not_mem_nil, or_false, forall_eq_or_imp, forall_eq]
  exact ⟨hlevel, trivial, by change _ < _; omega, hzero _ hwidth, hzero _ hstep, hcapacity⟩

/-! ## From settings to text and back -/

theorem setting_of_holds {α : Type} {read : Value → Option α} {x fallback : α}
    {get : Settings → FieldValue} (wrap : α → FieldValue) (h : Holds sections c ⟨title, key, get⟩)
    (hwrap : Function.Injective wrap) (hx : get c = wrap x) (hfallback : get .default = wrap fallback)
    (hread : read (Value.ofToken (wrap x).token.toList) = some x) :
    setting (document sections) title key read fallback = .ok x := by
  by_cases habsent : Absent sections title key
  · have hdefault : get c = get .default := h.absent habsent
    rw [hx, hfallback] at hdefault
    rw [setting_of_absent habsent, hwrap hdefault]
  · simp only [Absent, not_forall, not_not] at habsent
    obtain ⟨_, hmem⟩ := habsent
    obtain ⟨tokens, hlast⟩ := Document.Written.exists_lastTokens hmem
    have htokens : tokens = [(get c).token] := h.last tokens hlast
    rw [htokens, hx] at hlast
    exact setting_of_lastTokens hlast hread

theorem read_of_records (hvalid : c.invalid? = none) (hcapacity : c.historyCapacity < 2 ^ 63)
    (h : Records sections c) :
    read (document sections) order = .ok c := by
  have hrecordable := recordable_of_valid hvalid hcapacity
  have hholds := h.holds
  simp only [fields, List.mem_cons, List.not_mem_nil, or_false, forall_eq_or_imp,
    forall_eq] at hrecordable hholds
  obtain ⟨rlevel, -, rprecision, rwidth, rstep, rcapacity⟩ := hrecordable
  obtain ⟨hlevel, hfile, hprecision, hwidth, hstep, hcapacity⟩ := hholds
  rw [read_eq_ok_iff]
  refine ⟨unknown?_document_eq_none_iff.mpr h.known, ?_, ?_, ?_, ?_, ?_, ?_⟩
  · exact setting_of_holds .word hlevel (fun _ _ => FieldValue.word.inj) rfl rfl
      (congrArg some (lower_word rlevel))
  · exact setting_of_holds .flag hfile (fun _ _ => FieldValue.flag.inj) rfl rfl (toBoolean?_flag _)
  · exact setting_of_holds .count hprecision (fun _ _ => FieldValue.count.inj) rfl rfl
      (natOf?_count rprecision)
  · exact setting_of_holds .number hwidth (fun _ _ => FieldValue.number.inj) rfl rfl
      (toFloat?_number rwidth)
  · exact setting_of_holds .number hstep (fun _ _ => FieldValue.number.inj) rfl rfl
      (toFloat?_number rstep)
  · exact setting_of_holds .count hcapacity (fun _ _ => FieldValue.count.inj) rfl rfl
      (natOf?_count rcapacity)

/-- What a text gives is what its sections give, if it is valid. -/
theorem ofText_eq_ok_iff {text : String} (hwrites : Writes text sections) :
    ofText text order = .ok c ↔ read (document sections) order = .ok c ∧ c.invalid? = none := by
  have hcheck : ∀ s : Settings, s.check.mapError Fault.invalid = .ok c ↔ s.check = .ok c := by
    intro s
    cases s.check <;> simp [Except.mapError]
  by_cases hne : sections = []
  · have habsent : ∀ title key, Absent [] title key := fun _ _ _ => List.not_mem_nil
    have hread : read (document []) order = .ok .default :=
      read_eq_ok_iff.mpr ⟨unknown?_document_eq_none_iff.mpr (by simp), setting_of_absent (habsent _ _),
        setting_of_absent (habsent _ _), setting_of_absent (habsent _ _),
        setting_of_absent (habsent _ _), setting_of_absent (habsent _ _),
        setting_of_absent (habsent _ _)⟩
    rw [ofText, if_pos (hwrites.isEmpty_iff.mpr hne), hne, hread, Except.ok.injEq]
    constructor
    · rintro rfl
      exact ⟨rfl, invalid?_default⟩
    · exact And.left
  · rw [ofText, if_neg (fun h => hne (hwrites.isEmpty_iff.mp h)),
      Document.parse_of_writes hwrites hne]
    simp only [bind_eq_ok_iff, hcheck, check_eq_ok_iff]
    constructor
    · rintro ⟨d, hparse, s, hread, rfl, hvalid⟩
      cases hparse
      exact ⟨hread, hvalid⟩
    · rintro ⟨hread, hvalid⟩
      exact ⟨_, rfl, c, hread, rfl, hvalid⟩

theorem exists_writes_of_ofText {text : String} (h : ofText text order = .ok c) :
    ∃ sections, Writes text sections := by
  rw [ofText] at h
  split at h
  next hempty => exact ⟨[], Document.writes_nil hempty⟩
  · rw [bind_eq_ok_iff] at h
    obtain ⟨d, hparse, -⟩ := h
    have hparse : Document.parse text = .ok d := by
      cases hd : Document.parse text <;> rw [hd] at hparse <;> cases hparse
      rfl
    obtain ⟨sections, -, hwrites, -⟩ := Document.writes_of_parse hparse
    exact ⟨sections, hwrites⟩

theorem invalid?_of_ofText {text : String} (h : ofText text order = .ok c) : c.invalid? = none := by
  obtain ⟨sections, hwrites⟩ := exists_writes_of_ofText h
  exact ((ofText_eq_ok_iff hwrites).mp h).2

theorem get_eq_default_of_absent (h : read (document sections) order = .ok c) {f : Field} (hf : f ∈ fields)
    (habsent : Absent sections f.title f.key) : f.get c = f.get .default := by
  obtain ⟨-, hlevel, hfile, hprecision, hwidth, hstep, hcapacity⟩ := read_eq_ok_iff.mp h
  simp only [fields, List.mem_cons, List.not_mem_nil, or_false] at hf
  rcases hf with rfl | rfl | rfl | rfl | rfl | rfl
  · exact congrArg FieldValue.word (eq_fallback_of_absent hlevel habsent)
  · exact congrArg FieldValue.flag (eq_fallback_of_absent hfile habsent)
  · exact congrArg FieldValue.count (eq_fallback_of_absent hprecision habsent)
  · exact congrArg FieldValue.number (eq_fallback_of_absent hwidth habsent)
  · exact congrArg FieldValue.number (eq_fallback_of_absent hstep habsent)
  · exact congrArg FieldValue.count (eq_fallback_of_absent hcapacity habsent)

/-- **Settings and their documents.** Valid settings can be recorded and come back from every text
that records them. A text that gives settings gives valid ones, has known titles and keys only, and
what is not in it is at its default. The order in which names are gone through has no part in it. -/
theorem ofText_roundtrip (order : Document.Order) :
    (∀ c : Settings, c.invalid? = none → c.historyCapacity < 2 ^ 63 →
      (∀ f ∈ fields, Document.IsToken (f.get c).token.toList) ∧
      ∀ text sections, Writes text sections → Records sections c → ofText text order = .ok c) ∧
    ∀ text c, ofText text order = .ok c → c.invalid? = none ∧ (∃ sections, Writes text sections) ∧
      ∀ sections, Writes text sections → (∀ s ∈ sections, Known s) ∧
        ∀ f ∈ fields, Absent sections f.title f.key → f.get c = f.get .default := by
  constructor
  · intro c hvalid hcapacity
    refine ⟨fun f hf => (isToken_token (recordable_of_valid hvalid hcapacity f hf)).1, ?_⟩
    intro text sections hwrites hrecords
    exact (ofText_eq_ok_iff hwrites).mpr ⟨read_of_records hvalid hcapacity hrecords, hvalid⟩
  · intro text c h
    refine ⟨invalid?_of_ofText h, exists_writes_of_ofText h, fun sections hwrites => ?_⟩
    have hread := ((ofText_eq_ok_iff hwrites).mp h).1
    exact ⟨unknown?_document_eq_none_iff.mp (read_eq_ok_iff.mp hread).1,
      fun f hf habsent => get_eq_default_of_absent hread hf habsent⟩

/-- A window and a capacity in two sections with a comment in between; the rest is left out. -/
theorem ofText_roundtrip_wide :
    ofText "plot half_width: 3\n# more\nhistory\ncapacity:20" =
        .ok { default with window.halfWidth := 3, historyCapacity := 20 } ∧
      ({ default with window.halfWidth := 3, historyCapacity := 20 } : Settings).invalid? = none := by
  have hwidth : Document.LaysEntry ⟨"half_width", ["3"]⟩
      ("half_width".toList ++ ([] ++ ':' :: (" ".toList ++ ("3".toList ++ [])))) :=
    .mk (by decide) (by decide) (by decide)
      (.cons (by decide) .nil)
  have hcapacity : Document.LaysEntry ⟨"capacity", ["20"]⟩
      ("capacity".toList ++ ([] ++ ':' :: ([] ++ ("20".toList ++ [])))) :=
    .mk (by decide) (by decide) (by decide)
      (.cons (by decide) .nil)
  have hhistory : Document.LaysSections [⟨"history", [⟨"capacity", ["20"]⟩]⟩]
      ("history".toList ++ ("\n".toList ++ _)) :=
    .cons (by decide) (by decide) (by decide)
      (by decide) (.cons hcapacity (.inl ⟨rfl, rfl⟩) .nil) .nil
  have hline : Document.Separates ["3"] ['\n'] := ⟨by decide, '\n', by decide, by decide⟩
  have hplot : Document.LaysSections
      [⟨"plot", [⟨"half_width", ["3"]⟩]⟩, ⟨"history", [⟨"capacity", ["20"]⟩]⟩]
      ("plot".toList ++ (" ".toList ++ _)) :=
    .cons (by decide) (by decide) (by decide) (by decide)
      (.cons hwidth (.inr hline) .nil) hhistory
  have hwrites : Writes "plot half_width: 3\n# more\nhistory\ncapacity:20"
      [⟨"plot", [⟨"half_width", ["3"]⟩]⟩, ⟨"history", [⟨"capacity", ["20"]⟩]⟩] :=
    Document.writes_iff.mpr ⟨[], _, [], by decide, by decide, by decide, by decide, hplot⟩
  have hrecords : Records [⟨"plot", [⟨"half_width", ["3"]⟩]⟩, ⟨"history", [⟨"capacity", ["20"]⟩]⟩]
      { default with window.halfWidth := 3, historyCapacity := 20 } := by
    refine records_of_keys (by simp) ?_ ?_
    · intro o ho
      have ho : o = ("plot", "half_width", ["3"]) ∨ o = ("history", "capacity", ["20"]) := by
        simpa [keys] using ho
      rcases ho with rfl | rfl
      · exact ⟨_, .tail _ (.tail _ (.tail _ (.head _))), by decide +kernel⟩
      · exact ⟨_, .tail _ (.tail _ (.tail _ (.tail _ (.tail _ (.head _))))), by decide +kernel⟩
    · intro f hf habsent
      simp only [fields, List.mem_cons, List.not_mem_nil, or_false] at hf
      rcases hf with rfl | rfl | rfl | rfl | rfl | rfl
      · rfl
      · rfl
      · rfl
      · exact absurd (by simp [keys]) (habsent ["3"])
      · simp only
      · exact absurd (by simp [keys]) (habsent ["20"])
  have hread :=
    ((ofText_roundtrip .asWritten).1 _ (by decide +kernel) (by decide)).2 _ _ hwrites hrecords
  exact ⟨hread, ((ofText_roundtrip .asWritten).2 _ _ hread).1⟩

end Settings
end WorkedEquations
