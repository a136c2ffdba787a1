/-
A text is a document exactly if it lays out sections.

The format has no mark for the end of a section: entries are read as long as
they come, and a name without a colon behind it starts the next section. That
this stops neither too early nor too late rests on `readEntry_title`: a title
is no entry, whatever white space stands behind it.

Entries are followed up to a title (`moreEntries_of_lays`,
`laysEntries_of_moreEntries`), sections up to the end (`moreSections_of_lays`,
`laysSections_of_moreSections`), and so it is settled which texts are documents
and what they give (`parse_eq_ok_iff`, `parse_exact`).
-/
import Mathlib.Data.List.Forall2
import WorkedEquations.Proofs.Document.Pieces
import WorkedEquations.Proofs.Document.Tokens

namespace WorkedEquations
namespace Document

open Text (Blank Trimmed)

/-! ## Where pieces start -/

theorem trimmed_of_append {before cs : List Char} (h : Trimmed (before ++ cs)) (hcs : AtName cs) :
    Trimmed cs :=
  h.of_append fun c hc => not_isBlank_of_startsName (hcs c hc)

theorem LaysEntries.head {es : List Written.Entry} {cs rest : List Char} (h : LaysEntries es cs rest)
    (hrest : AtName rest) : AtName cs := by
  cases h with
  | nil => exact hrest
  | cons hentry => exact hentry.head _

theorem LaysEntries.exists_eq_append {es : List Written.Entry} {cs rest : List Char}
    (h : LaysEntries es cs rest) : ∃ before, cs = before ++ rest ∧ (es ≠ [] → before ≠ []) := by
  induction h with
  | nil => exact ⟨[], rfl, fun hne => absurd rfl hne⟩
  | @cons e es core gap cs rest hentry _ _ ih =>
    obtain ⟨before, rfl, -⟩ := ih
    refine ⟨core ++ (gap ++ before), by simp, fun _ hnil => hentry.ne_nil ?_⟩
    exact (List.append_eq_nil_iff.mp hnil).1

theorem LaysSections.head {ss : List Written.Section} {cs : List Char} (h : LaysSections ss cs) :
    AtName cs := by
  cases h with
  | nil => simp [AtName]
  | cons hname => exact hname.head _

/-! ## Entries -/

theorem readEntry_of_lays {e : Written.Entry} {core gap cs : List Char} (h : LaysEntry e core)
    (hgap : gap = [] ∧ cs = [] ∨ Separates e.tokens gap)
    (hhead : AtName cs) (htrimmed : Trimmed cs) :
    readEntry (core ++ (gap ++ cs)) = .ok (e.read, cs) := by
  rcases hgap with ⟨rfl, rfl⟩ | hgap
  · exact readEntry_append h (ends_nil e.tokens)
  · have hread := readEntry_append h (hgap.ends hhead)
    rwa [Text.trim_blank_append hgap.1, Text.trim_eq_self htrimmed] at hread

theorem lays_of_readEntry {cs rest : List Char} {entry : Entry} (hcs : Trimmed cs)
    (h : readEntry cs = .ok (entry, rest)) :
    Trimmed rest ∧ ∃ e core gap, LaysEntry e core ∧ cs = core ++ (gap ++ rest) ∧ entry = e.read ∧
      (AtName rest → gap = [] ∧ rest = [] ∨ Separates e.tokens gap) := by
  obtain ⟨e, core, tail, hentry, rfl, rfl, rfl, hstops⟩ := laysEntry_of_readEntry h
  have hlast : ∀ c ∈ tail.getLast?, Text.isBlank c = false := by
    intro c hc
    refine hcs.last c ?_
    rw [List.getLast?_append, Option.mem_def.mp hc, Option.some_or]
    rfl
  obtain ⟨gap, hgap, htail⟩ := Text.exists_eq_blank_append_trim hlast
  refine ⟨Text.trimmed_trim tail, e, core, gap, hentry, by rw [← htail], rfl, fun hhead => ?_⟩
  by_cases hnil : Text.trim tail = []
  · rw [hnil, List.append_nil] at htail
    subst htail
    exact .inl ⟨Text.eq_nil_of_blank hgap hlast, hnil⟩
  · rw [htail] at hstops
    exact .inr (separates_of_head hgap hnil hhead hstops)

theorem moreEntries_of_lays {es : List Written.Entry} {cs rest : List Char}
    (h : LaysEntries es cs rest) (hcs : Trimmed cs) (hrest : AtName rest)
    (hend : ∃ fault, readEntry rest = .error fault) :
    moreEntries cs = (es.map Written.Entry.read, rest) := by
  induction h with
  | nil =>
    obtain ⟨fault, hfault⟩ := hend
    rw [moreEntries, hfault]
    rfl
  | @cons e es core gap cs rest hentry hgap hmore ih =>
    have hhead := hmore.head hrest
    have hcs' : Trimmed cs := by
      rw [← List.append_assoc] at hcs
      exact trimmed_of_append hcs hhead
    have hlength : cs.length < (core ++ (gap ++ cs)).length := by
      have hcore := List.length_pos_iff.mpr hentry.ne_nil
      simp only [List.length_append]
      omega
    rw [moreEntries, readEntry_of_lays hentry hgap hhead hcs']
    simp only [skipLineBlanks_of_trimmed hcs', if_pos hlength, ih hcs' hrest hend, List.map_cons]

theorem laysEntries_of_moreEntries (cs : List Char) (hcs : Trimmed cs) :
    Trimmed (moreEntries cs).2 ∧
      ∃ es, (moreEntries cs).1 = es.map Written.Entry.read ∧
        (AtName (moreEntries cs).2 → LaysEntries es cs (moreEntries cs).2) := by
  fun_induction moreEntries cs with
  | case2 cs entry rest hread hlength entries rest' hmore ih =>
    obtain ⟨htrimmed, e, core, gap, hentry, rfl, rfl, hgap⟩ := lays_of_readEntry hcs hread
    rw [skipLineBlanks_of_trimmed htrimmed] at hmore ih
    rw [hmore] at ih
    obtain ⟨hrest', es, hes, hlays⟩ := ih htrimmed
    refine ⟨hrest', e :: es, by rw [List.map_cons, ← hes], fun hhead => ?_⟩
    exact .cons hentry (hgap ((hlays hhead).head hhead)) (hlays hhead)
  | _ => exact ⟨hcs, [], rfl, fun _ => .nil⟩

/-! ## Sections -/

theorem readName_title {title : String} {gap : List Char} (htitle : IsName title.toList)
    (hgap : Blank gap) (hne : gap ≠ []) (cs : List Char) :
    readName (title.toList ++ (gap ++ cs)) = .ok (title, gap ++ cs) := by
  obtain ⟨c, more, rfl⟩ := List.exists_cons_of_ne_nil hne
  refine readName_append htitle fun d hd => ?_
  cases hd
  exact not_continuesName_of_isBlank (hgap c List.mem_cons_self)

/-- **A title is no entry.** -/
theorem readEntry_title {title : String} {gap cs : List Char} (htitle : IsName title.toList)
    (hgap : Blank gap) (hne : gap ≠ []) (hcs : AtName cs) :
    ∃ fault, readEntry (title.toList ++ (gap ++ cs)) = .error fault := by
  have hcolon : (skipLineBlanks (gap ++ cs)).head? ≠ some ':' :=
    head?_skipLineBlanks_ne hgap hcs (by decide) (by decide)
  refine ⟨skipLineBlanks (gap ++ cs), ?_⟩
  simp only [readEntry, readName_title htitle hgap hne, bind, Except.bind]
  split
  next heq => exact absurd (by rw [heq]; rfl) hcolon
  next heq => rfl

theorem LaysSections.readEntry_eq_error {ss : List Written.Section} {cs : List Char}
    (h : LaysSections ss cs) : ∃ fault, readEntry cs = .error fault := by
  cases h with
  | nil => exact ⟨[], rfl⟩
  | cons htitle hgap hne _ hentries hmore =>
    exact readEntry_title htitle hgap hne (hentries.head hmore.head)

theorem readSection_append {title : String} {es : List Written.Entry}
    {ss : List Written.Section} {gap cs rest after : List Char} (htitle : IsName title.toList)
    (hgap : Blank gap) (hne : gap ≠ []) (hes : es ≠ []) (hentries : LaysEntries es cs rest)
    (hmore : LaysSections ss rest) (hcs : Trimmed cs) (hafter : Blank after) :
    readSection (title.toList ++ (gap ++ (cs ++ after))) =
      .ok (Written.Section.read ⟨title, es⟩, rest) := by
  have hskip : skipLineBlanks (title.toList ++ (gap ++ (cs ++ after))) =
      title.toList ++ (gap ++ (cs ++ after)) := dropWhile_eq_self fun c hc =>
    not_isLineBlank_of_startsName (htitle.head _ c hc)
  have htrim : Text.trim (gap ++ (cs ++ after)) = cs := by
    rw [← List.append_assoc]
    exact Text.trim_append hgap hcs hafter
  cases hentries with
  | nil => exact absurd rfl hes
  | @cons e es core gap' cs' _ hentry hgap' hothers =>
    have hhead := hothers.head hmore.head
    have hcs' : Trimmed cs' := by
      rw [← List.append_assoc] at hcs
      exact trimmed_of_append hcs hhead
    have hentry := readEntry_of_lays hentry hgap' hhead hcs'
    have hothers := moreEntries_of_lays hothers hcs' hmore.head hmore.readEntry_eq_error
    simp only [readSection, hskip, readName_title htitle hgap hne, htrim,
      skipLayoutBlanks_of_trimmed hcs, hentry, skipLineBlanks_of_trimmed hcs', hothers, bind,
      Except.bind, pure, Except.pure, Written.Section.read, List.map_cons]

theorem lays_of_readSection {cs rest : List Char} {s : Section} (h : readSection cs = .ok (s, rest)) :
    Trimmed rest ∧ ∃ title es before gap body after,
      cs = before ++ (title.toList ++ (gap ++ body)) ++ after ∧ LineBlanks before ∧ Blank after ∧
      Trimmed body ∧ IsName title.toList ∧ Blank gap ∧ gap ≠ [] ∧ es ≠ [] ∧
      s = Written.Section.read ⟨title, es⟩ ∧
      (AtName rest → LaysEntries es body rest) := by
  rw [readSection, bind_eq_ok_iff] at h
  obtain ⟨⟨title, rest₁⟩, hname, h⟩ := h
  obtain ⟨htitle, hsplit, hrest₁⟩ := isName_of_readName hname
  dsimp only at h
  rw [bind_eq_ok_iff] at h
  obtain ⟨⟨first, rest₂⟩, hfirst, h⟩ := h
  rw [skipLayoutBlanks_of_trimmed (Text.trimmed_trim rest₁)] at hfirst
  obtain ⟨hrest₂, e, core, gap', hentry, hbody, rfl, hgap'⟩ :=
    lays_of_readEntry (Text.trimmed_trim rest₁) hfirst
  obtain ⟨hrest, es, hes, hlays⟩ := laysEntries_of_moreEntries rest₂ hrest₂
  dsimp only at h
  rw [skipLineBlanks_of_trimmed hrest₂] at h
  generalize moreEntries rest₂ = more at h hrest hes hlays
  cases h
  obtain ⟨before, hbefore, hcs⟩ := exists_skipLineBlanks cs
  obtain ⟨gap, after, hgap, hafter, htrim⟩ := Text.exists_eq_append_trim rest₁
  -- Without white space the name of the entry would be a part of the title.
  have hne : gap ≠ [] := by
    rintro rfl
    obtain ⟨c, more', hkey⟩ := List.exists_cons_of_ne_nil hentry.ne_nil
    have hstart : startsName c = true := hentry.head [] c (by rw [List.append_nil, hkey]; rfl)
    have hnot := hrest₁ c (by rw [htrim, hbody, hkey]; rfl)
    rw [continuesName_of_startsName hstart] at hnot
    cases hnot
  refine ⟨hrest, title, e :: es, before, gap, Text.trim rest₁, after, ?_, hbefore, hafter,
    Text.trimmed_trim rest₁, htitle, hgap, hne, List.cons_ne_nil _ _, ?_, fun hhead => ?_⟩
  · rw [hsplit] at hcs
    conv_lhs => rw [hcs, htrim]
    simp only [List.append_assoc]
  · rw [hes]
    rfl
  · rw [hbody]
    exact .cons hentry (hgap' ((hlays hhead).head hhead)) (hlays hhead)

theorem moreSections_of_lays {ss : List Written.Section} {cs : List Char} (h : LaysSections ss cs)
    (hcs : Trimmed cs) : moreSections cs = (ss.map Written.Section.read, []) := by
  induction h with
  | nil =>
    rw [moreSections]
    rfl
  | @cons title es ss gap cs rest htitle hgap hne hes hentries hmore ih =>
    have hbody : Trimmed cs := by
      rw [← List.append_assoc] at hcs
      exact trimmed_of_append hcs (hentries.head hmore.head)
    have hread := readSection_append htitle hgap hne hes hentries hmore hbody Text.blank_nil
    rw [List.append_nil] at hread
    obtain ⟨before, rfl, -⟩ := hentries.exists_eq_append
    have hrest : Trimmed rest := trimmed_of_append hbody hmore.head
    have hlength : rest.length < (title.toList ++ (gap ++ (before ++ rest))).length := by
      have hgap := List.length_pos_iff.mpr hne
      simp only [List.length_append]
      omega
    rw [moreSections, skipLineBlanks_of_trimmed hcs, hread]
    simp only [skipLayoutBlanks_of_trimmed hrest, if_pos hlength, ih hrest, List.map_cons]

theorem laysSections_of_moreSections (cs : List Char) (hcs : Trimmed cs) :
    Trimmed (moreSections cs).2 ∧ ((moreSections cs).2 = [] →
      ∃ ss, LaysSections ss cs ∧ (moreSections cs).1 = ss.map Written.Section.read) := by
  fun_induction moreSections cs with
  | case2 cs s rest hread hlength sections rest' hmore ih =>
    rw [skipLineBlanks_of_trimmed hcs] at hread
    obtain ⟨hrest, title, es, before, gap, body, after, rfl, hbefore, hafter, -, htitle, hgap, hne,
      hes, rfl, hentries⟩ := lays_of_readSection hread
    obtain ⟨rfl, rfl⟩ := hcs.eq_nil_of_append hbefore.blank hafter
    rw [skipLayoutBlanks_of_trimmed hrest] at hmore ih
    rw [hmore] at ih
    obtain ⟨hrest', hlays⟩ := ih hrest
    refine ⟨hrest', fun hnil => ?_⟩
    obtain ⟨ss, hlays, hss⟩ := hlays hnil
    refine ⟨⟨title, es⟩ :: ss, ?_, by rw [List.map_cons, ← hss]⟩
    rw [List.nil_append, List.append_nil]
    exact .cons htitle hgap hne hes (hentries hlays.head) hlays
  | _ => exact ⟨hcs, fun hnil => ⟨[], by cases hnil; exact .nil, rfl⟩⟩

/-! ## Documents -/

theorem writes_iff {text : String} {sections : List Written.Section} :
    Writes text sections ↔ Lays sections (contentOf text.toList) := by
  constructor
  · rintro ⟨lines, hholds, hlays⟩
    rwa [← contentLines_of_holds hholds] at hlays
  · exact fun hlays => ⟨contentLines text.toList, holds_contentLines _, hlays⟩

theorem Writes.isEmpty_iff {text : String} {sections : List Written.Section}
    (h : Writes text sections) :
    (Text.trim (contentOf text.toList)).isEmpty = true ↔ sections = [] := by
  obtain ⟨before, body, after, hcontent, hbefore, hafter, hbody, hlays⟩ := writes_iff.mp h
  rw [hcontent, Text.trim_append hbefore.blank hbody hafter, List.isEmpty_iff]
  cases hlays with
  | nil => simp
  | cons htitle =>
    obtain ⟨c, more, hname, -⟩ := htitle
    simp [hname]

theorem writes_nil {text : String} (h : (Text.trim (contentOf text.toList)).isEmpty = true) :
    Writes text [] := by
  rw [List.isEmpty_iff, Text.trim_eq_nil_iff] at h
  exact writes_iff.mpr ⟨[], [], contentOf text.toList, rfl, by decide, h, Text.trimmed_nil, .nil⟩

theorem parse_of_writes {text : String} {sections : List Written.Section}
    (h : Writes text sections) (hne : sections ≠ []) :
    parse text = .ok (Written.document sections) := by
  obtain ⟨before, body, after, hcontent, hbefore, hafter, hbody, hlays⟩ := writes_iff.mp h
  cases hlays with
  | nil => exact absurd rfl hne
  | @cons title es ss gap cs rest htitle hgap hgap' hes hentries hmore =>
    have hskip : skipLineBlanks (contentOf text.toList) =
        title.toList ++ (gap ++ (cs ++ after)) := by
      rw [hcontent, List.append_assoc]
      simp only [List.append_assoc]
      exact skipLineBlanks_append hbefore fun c hc =>
        not_isLineBlank_of_startsName (htitle.head _ c hc)
    have hcs : Trimmed cs := by
      rw [← List.append_assoc] at hbody
      exact trimmed_of_append hbody (hentries.head hmore.head)
    have hrest : Trimmed rest := by
      obtain ⟨_, rfl, -⟩ := hentries.exists_eq_append
      exact trimmed_of_append hcs hmore.head
    simp only [parse, hskip, readSection_append htitle hgap hgap' hes hentries hmore hcs hafter,
      skipLayoutBlanks_of_trimmed hrest, moreSections_of_lays hmore hrest]
    rfl

theorem writes_of_parse {text : String} {d : Document} (h : parse text = .ok d) :
    ∃ sections, sections ≠ [] ∧ Writes text sections ∧ d = Written.document sections := by
  rw [parse] at h
  split at h
  · cases h
  next first rest hread =>
    obtain ⟨hrest, title, es, before, gap, body, after, hsplit, hbefore, hafter, hbody, htitle, hgap,
      hne, hes, rfl, hentries⟩ := lays_of_readSection hread
    obtain ⟨hrest', hothers⟩ := laysSections_of_moreSections rest hrest
    rw [skipLayoutBlanks_of_trimmed hrest] at h
    generalize moreSections rest = more at h hrest' hothers
    dsimp only at h
    split at h
    next hempty =>
      rw [Text.trim_eq_self hrest', List.isEmpty_iff] at hempty
      obtain ⟨ss, hlays, hss⟩ := hothers hempty
      have hentries := hentries hlays.head
      cases h
      refine ⟨⟨title, es⟩ :: ss, List.cons_ne_nil _ _, writes_iff.mpr ?_, ?_⟩
      · obtain ⟨blanks, hblanks, hcontent⟩ := exists_skipLineBlanks (contentOf text.toList)
        refine ⟨blanks ++ before, title.toList ++ (gap ++ body), after, ?_, ?_, hafter, ?_,
          .cons htitle hgap hne hes hentries hlays⟩
        · rw [hcontent, hsplit]
          simp only [List.append_assoc]
        · exact fun c hc => (List.mem_append.mp hc).elim (hblanks c) (hbefore c)
        · have hbodyne : body ≠ [] := by
            obtain ⟨core, rfl, hcore⟩ := hentries.exists_eq_append
            exact fun hnil => hcore hes (List.append_eq_nil_iff.mp hnil).1
          rw [← List.append_assoc]
          refine Text.trimmed_append hbodyne (fun c hc => ?_) hbody.last
          rw [List.append_assoc] at hc
          exact not_isBlank_of_startsName (htitle.head _ c hc)
      · rw [hss]
        rfl
    · cases h

/-- Exactly the texts that lay out sections are documents. -/
theorem parse_eq_ok_iff {text : String} {d : Document} :
    parse text = .ok d ↔
      ∃ sections, sections ≠ [] ∧ Writes text sections ∧ d = Written.document sections := by
  constructor
  · exact writes_of_parse
  · rintro ⟨sections, hne, hwrites, rfl⟩
    exact parse_of_writes hwrites hne

/-- The values of a key are what the tokens of its last entry are taken for. -/
theorem values?_eq_some_iff_taken {sections : List Written.Section} {title key : String}
    {values : List Value} : (Written.document sections).values? title key = some values ↔
      ∃ tokens, Written.LastTokens sections title key tokens ∧
        List.Forall₂ (fun token v => Value.Taken (Text.trim token.toList) v) tokens values := by
  have hmap : ∀ tokens : List String, values = tokens.map (fun t => Value.ofToken t.toList) ↔
      List.Forall₂ (fun token v => Value.Taken (Text.trim token.toList) v) tokens values := by
    intro tokens
    simp only [← Value.ofToken_eq_iff]
    rw [← List.forall₂_map_left_iff (R := fun v w => v = w), List.forall₂_eq_eq_eq, eq_comm]
  simp only [Written.values?_document_iff, hmap]

/-- **The format is read exactly, and nothing is lost.** Every text that lays out sections is a
document with the entries of these sections, the last of several for one key. Every document lays
out sections so, and but for comments, blank lines and white space there is nothing else in it. -/
theorem parse_exact (text : String) :
    (∀ sections, sections ≠ [] → Writes text sections →
      parse text = .ok (Written.document sections)) ∧
    (∀ d, parse text = .ok d → ∃ sections, sections ≠ [] ∧ Writes text sections ∧
      d = Written.document sections ∧ solid (contentOf text.toList) = solid (spelling sections)) ∧
    (∀ sections title key values, (Written.document sections).values? title key = some values ↔
      ∃ tokens, Written.LastTokens sections title key tokens ∧
        List.Forall₂ (fun token v => Value.Taken (Text.trim token.toList) v) tokens values) := by
  refine ⟨fun sections hne hwrites => parse_eq_ok_iff.mpr ⟨sections, hne, hwrites, rfl⟩,
    fun d hd => ?_, fun _ _ _ _ => values?_eq_some_iff_taken⟩
  obtain ⟨sections, hne, hwrites, hd⟩ := parse_eq_ok_iff.mp hd
  exact ⟨sections, hne, hwrites, hd, spelling_of_lays (writes_iff.mp hwrites)⟩

/-- A section with one entry and a comment in between. -/
theorem parse_exact_grid :
    Writes "plot\n# grid\n step : 0.5,1" [⟨"plot", [⟨"step", ["0.5", "1"]⟩]⟩] ∧
      parse "plot\n# grid\n step : 0.5,1" =
        .ok (Written.document [⟨"plot", [⟨"step", ["0.5", "1"]⟩]⟩]) ∧
      ∃ sections, solid (contentOf "plot\n# grid\n step : 0.5,1".toList) =
        solid (spelling sections) := by
  have hentry : LaysEntry ⟨"step", ["0.5", "1"]⟩
      ("step".toList ++ (" ".toList ++ ':' :: (" ".toList ++
        ("0.5".toList ++ ([] ++ ',' :: ([] ++ ("1".toList ++ []))))))) :=
    .mk (by decide) (by decide) (by decide)
      (.cons (by decide) (.cons (by decide) (by decide) (by decide) .nil))
  have hsections : LaysSections [⟨"plot", [⟨"step", ["0.5", "1"]⟩]⟩]
      ("plot".toList ++ ("\n ".toList ++ _)) :=
    .cons (by decide) (by decide) (by decide) (by decide)
      (.cons hentry (.inl ⟨rfl, rfl⟩) .nil) .nil
  have hwrites : Writes "plot\n# grid\n step : 0.5,1" [⟨"plot", [⟨"step", ["0.5", "1"]⟩]⟩] :=
    writes_iff.mpr ⟨[], _, [], by decide, by decide, by decide, by decide, hsections⟩
  have hparse := (parse_exact _).1 _ (by decide) hwrites
  obtain ⟨sections, -, -, -, hsolid⟩ := (parse_exact _).2.1 _ hparse
  exact ⟨hwrites, hparse, sections, hsolid⟩

end Document
end WorkedEquations
