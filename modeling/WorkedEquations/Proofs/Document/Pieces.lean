/-
Names, tokens and entries are read as they are laid out.

For each piece one lemma says that the reader takes what is laid out, up to
something that cannot belong to it, and one that whatever the reader takes is
laid out.

For an entry these are `readEntry_append` and `laysEntry_of_readEntry`. The
white space that may stand between an entry and a name is in `Separates.ends`
and `separates_of_head`.
-/
import WorkedEquations.Proofs.Document.Layout
import WorkedEquations.Proofs.Equation.Coefficients

namespace WorkedEquations
namespace Document

open Text (Blank Trimmed)

/-! ## Characters -/

theorem continuesName_of_startsName {c : Char} (h : startsName c = true) :
    continuesName c = true := by
  simp only [startsName, continuesName, Char.isAlphanum, Bool.or_eq_true] at h ⊢
  tauto

theorem code_of_continuesName {c : Char} (h : continuesName c = true) :
    48 ≤ c.toNat ∧ c.toNat ≤ 122 := by
  delta continuesName Char.isAlphanum Char.isAlpha Char.isUpper Char.isLower Char.isDigit at h
  simp only [Bool.or_eq_true, Bool.and_eq_true, decide_eq_true_eq, beq_iff_eq, ge_iff_le,
    UInt32.le_iff_toNat_le] at h
  change ((65 ≤ c.toNat ∧ c.toNat ≤ 90 ∨ 97 ≤ c.toNat ∧ c.toNat ≤ 122) ∨
    48 ≤ c.toNat ∧ c.toNat ≤ 57) ∨ c = '_' at h
  rcases h with h | rfl
  · omega
  · decide

theorem not_isBlank_of_continuesName {c : Char} (h : continuesName c = true) :
    Text.isBlank c = false := by
  rw [Bool.eq_false_iff]
  intro hblank
  simp only [Text.isBlank, Text.inRanges_eq_true_iff, Text.blankRanges, List.mem_cons,
    List.not_mem_nil, or_false, exists_eq_or_imp, exists_eq_left] at hblank
  have hcode := code_of_continuesName h
  omega

theorem not_isBlank_of_startsName {c : Char} (h : startsName c = true) : Text.isBlank c = false :=
  not_isBlank_of_continuesName (continuesName_of_startsName h)

theorem not_isLineBlank_of_startsName {c : Char} (h : startsName c = true) : isLineBlank c = false := by
  by_contra hblank
  have hnot := not_isBlank_of_startsName h
  rw [isBlank_of_isLineBlank (Bool.not_eq_false _ ▸ hblank)] at hnot
  cases hnot

theorem not_continuesName_of_isBlank {c : Char} (h : Text.isBlank c = true) :
    continuesName c = false := by
  by_contra hname
  rw [not_isBlank_of_continuesName (Bool.not_eq_false _ ▸ hname)] at h
  cases h

theorem not_isLineBlank_of_not_isBlank {c : Char} (h : Text.isBlank c = false) :
    isLineBlank c = false := by
  by_contra hblank
  rw [isBlank_of_isLineBlank (Bool.not_eq_false _ ▸ hblank)] at h
  cases h

theorem isBlank_of_isLayoutBlank {c : Char} (h : isLayoutBlank c = true) :
    Text.isBlank c = true := by
  simp only [isLayoutBlank, isLineBlank, Bool.or_eq_true, beq_iff_eq] at h
  obtain ((rfl | rfl) | rfl) | rfl := h <;> decide

theorem not_isLayoutBlank_of_not_isBlank {c : Char} (h : Text.isBlank c = false) :
    isLayoutBlank c = false := by
  by_contra hblank
  rw [isBlank_of_isLayoutBlank (Bool.not_eq_false _ ▸ hblank)] at h
  cases h

theorem isTokenChar_eq_false_iff {c : Char} :
    isTokenChar c = false ↔ isLayoutBlank c = true ∨ c = ',' ∨ c = ';' := by
  simp only [isTokenChar, Bool.not_eq_false', Bool.or_eq_true, beq_iff_eq, or_assoc]

theorem isTokenChar_of_continuesName {c : Char} (h : continuesName c = true) :
    isTokenChar c = true := by
  by_contra hnot
  rw [Bool.not_eq_true, isTokenChar_eq_false_iff] at hnot
  rcases hnot with hblank | rfl | rfl
  · have hname := not_isBlank_of_continuesName h
    rw [isBlank_of_isLayoutBlank hblank] at hname
    cases hname
  · exact absurd h (by decide)
  · exact absurd h (by decide)

theorem isTokenChar_of_startsName {c : Char} (h : startsName c = true) : isTokenChar c = true :=
  isTokenChar_of_continuesName (continuesName_of_startsName h)

theorem not_isLineBlank_of_isTokenChar {c : Char} (h : isTokenChar c = true) :
    isLineBlank c = false := by
  simp only [isTokenChar, isLayoutBlank, Bool.not_eq_true', Bool.or_eq_false_iff] at h
  exact h.1.1.1.1

/-- The text is empty or starts with a name. -/
def AtName (cs : List Char) : Prop := ∀ c ∈ cs.head?, startsName c = true

/-- The text does not go on with a token. -/
def AfterToken (cs : List Char) : Prop := ∀ c ∈ cs.head?, isTokenChar c = false

/-! ## Blanks -/

theorem skipLineBlanks_append {blanks cs : List Char} (hblanks : LineBlanks blanks)
    (hcs : ∀ c ∈ cs.head?, isLineBlank c = false) : skipLineBlanks (blanks ++ cs) = cs :=
  (takeWhile_dropWhile_append blanks cs hblanks hcs).2

theorem skipLineBlanks_skipLineBlanks (cs : List Char) :
    skipLineBlanks (skipLineBlanks cs) = skipLineBlanks cs :=
  dropWhile_eq_self (head?_dropWhile cs)

theorem exists_skipLineBlanks (cs : List Char) :
    ∃ blanks, LineBlanks blanks ∧ cs = blanks ++ skipLineBlanks cs :=
  ⟨cs.takeWhile isLineBlank, fun _ hc => List.mem_takeWhile_imp hc,
    List.takeWhile_append_dropWhile.symm⟩

theorem skipLineBlanks_of_trimmed {cs : List Char} (h : Trimmed cs) : skipLineBlanks cs = cs :=
  dropWhile_eq_self fun c hc => not_isLineBlank_of_not_isBlank (h.head c hc)

theorem skipLayoutBlanks_of_trimmed {cs : List Char} (h : Trimmed cs) : skipLayoutBlanks cs = cs :=
  dropWhile_eq_self fun c hc => not_isLayoutBlank_of_not_isBlank (h.head c hc)

/-! ## Names -/

theorem readName_append {name : String} {rest : List Char} (h : IsName name.toList)
    (hrest : ∀ c ∈ rest.head?, continuesName c = false) :
    readName (name.toList ++ rest) = .ok (name, rest) := by
  obtain ⟨c, more, hname, hc, hmore⟩ := h
  obtain ⟨htake, hdrop⟩ := takeWhile_dropWhile_append more rest hmore hrest
  rw [hname, List.cons_append, readName, if_pos hc, htake, hdrop, ← hname, String.ofList_toList]

theorem isName_of_readName {cs rest : List Char} {name : String} (h : readName cs = .ok (name, rest)) :
    IsName name.toList ∧ cs = name.toList ++ rest ∧ ∀ c ∈ rest.head?, continuesName c = false := by
  cases cs with
  | nil => cases h
  | cons c cs =>
    rw [readName] at h
    split at h
    next hc =>
      cases h
      refine ⟨⟨c, _, String.toList_ofList, hc, fun d hd => List.mem_takeWhile_imp hd⟩, ?_,
        head?_dropWhile cs⟩
      rw [String.toList_ofList, List.cons_append, List.takeWhile_append_dropWhile]
    · cases h

theorem IsName.head {name : List Char} (h : IsName name) (rest : List Char) :
    AtName (name ++ rest) := by
  obtain ⟨c, more, rfl, hc, -⟩ := h
  simpa [AtName] using hc

/-! ## Tokens -/

theorem readValue?_append {token rest : List Char} (h : IsToken token) (hrest : AfterToken rest) :
    readValue? (token ++ rest) = some (Value.ofToken token, rest) := by
  obtain ⟨htake, hdrop⟩ := takeWhile_dropWhile_append token rest h.2 hrest
  rw [readValue?, htake, hdrop]
  split
  · exact absurd rfl h.1
  · rfl

theorem isToken_of_readValue? {cs rest : List Char} {v : Value} (h : readValue? cs = some (v, rest)) :
    ∃ token : String, IsToken token.toList ∧ cs = token.toList ++ rest ∧
      v = Value.ofToken token.toList ∧ AfterToken rest := by
  rw [readValue?] at h
  split at h
  · cases h
  next htoken =>
    cases h
    refine ⟨String.ofList (cs.takeWhile isTokenChar), ?_⟩
    rw [String.toList_ofList]
    exact ⟨⟨htoken, fun c hc => List.mem_takeWhile_imp hc⟩,
      List.takeWhile_append_dropWhile.symm, rfl, head?_dropWhile cs⟩

theorem readValue?_eq_none_iff {cs : List Char} : readValue? cs = none ↔ AfterToken cs := by
  rw [readValue?, AfterToken]
  cases cs with
  | nil => simp
  | cons c cs => cases hc : isTokenChar c <;> simp [hc]

theorem IsToken.head {token : List Char} (h : IsToken token) (rest : List Char) :
    ∀ c ∈ (token ++ rest).head?, isTokenChar c = true := by
  obtain ⟨c, more, rfl⟩ := List.exists_cons_of_ne_nil h.1
  simpa using h.2 c List.mem_cons_self

/-! ## Lists of values -/

/-- Behind a token that is not the last stands something that is not part of it. -/
theorem LaysMore.head {tokens : List String} {cs rest : List Char} (h : LaysMore tokens cs)
    (hrest : AfterToken rest) : AfterToken (cs ++ rest) := by
  cases h with
  | nil => exact hrest
  | @cons _ _ before _ _ hbefore _ _ _ =>
    intro c hc
    cases before with
    | nil =>
      have hcomma : ',' = c := by simpa using hc
      subst hcomma
      decide
    | cons d before =>
      have hd : d = c := by simpa using hc
      subst hd
      rw [isTokenChar_eq_false_iff, isLayoutBlank, hbefore d List.mem_cons_self]
      simp

theorem moreValues_append {tokens : List String} {cs rest : List Char} (h : LaysMore tokens cs)
    (hrest : AfterToken rest) (hcomma : (skipLineBlanks rest).head? ≠ some ',') :
    moreValues (cs ++ rest) = (tokens.map fun t => Value.ofToken t.toList, rest) := by
  induction h with
  | nil =>
    rw [List.nil_append, moreValues]
    split
    next heq => exact absurd (by rw [heq]; rfl) hcomma
    · rfl
  | @cons token tokens before after more hbefore hafter htoken hmore ih =>
    have hskip : skipLineBlanks (before ++ ',' :: (after ++ (token.toList ++ more)) ++ rest) =
        ',' :: (after ++ (token.toList ++ (more ++ rest))) := by
      have h : skipLineBlanks (before ++ ',' :: (after ++ (token.toList ++ (more ++ rest)))) =
          ',' :: (after ++ (token.toList ++ (more ++ rest))) :=
        skipLineBlanks_append hbefore (by simp; decide)
      simpa using h
    have hskip' : skipLineBlanks (after ++ (token.toList ++ (more ++ rest))) =
        token.toList ++ (more ++ rest) :=
      skipLineBlanks_append hafter fun c hc =>
        not_isLineBlank_of_isTokenChar (htoken.head _ c hc)
    have hlength : (more ++ rest).length <
        (before ++ ',' :: (after ++ (token.toList ++ more)) ++ rest).length := by
      simp only [List.length_append, List.length_cons]
      omega
    rw [moreValues, hskip]
    simp only [hskip', readValue?_append htoken (hmore.head hrest), ih, if_pos hlength, List.map_cons]

theorem laysMore_of_moreValues (cs : List Char) (hcs : AfterToken cs) :
    ∃ tokens core, LaysMore tokens core ∧ cs = core ++ (moreValues cs).2 ∧
      (moreValues cs).1 = tokens.map (fun t => Value.ofToken t.toList) ∧
      AfterToken (moreValues cs).2 := by
  fun_induction moreValues cs with
  | case1 cs rest hskip v after hvalue hlength vs after' hmore ih =>
    obtain ⟨before, hbefore, hcs⟩ := exists_skipLineBlanks cs
    obtain ⟨blanks, hblanks, hrest⟩ := exists_skipLineBlanks rest
    obtain ⟨token, htoken, hsplit, rfl, hafter⟩ := isToken_of_readValue? hvalue
    obtain ⟨tokens, core, hlays, hcore, hvalues, hend⟩ := ih hafter
    rw [hmore] at hcore hvalues hend
    refine ⟨token :: tokens, _, .cons hbefore hblanks htoken hlays, ?_, ?_, hend⟩
    · rw [hcs, hskip, hrest, hsplit, hcore]
      simp
    · rw [List.map_cons, ← hvalues]
  | _ => exact ⟨[], [], .nil, rfl, rfl, hcs⟩

theorem readValues_append {tokens : List String} {cs rest : List Char} (h : LaysTokens tokens cs)
    (hrest : AfterToken rest) (hcomma : (skipLineBlanks rest).head? ≠ some ',') :
    readValues (cs ++ rest) = (tokens.map fun t => Value.ofToken t.toList, rest) := by
  cases h with
  | nil => rw [List.nil_append, readValues, readValue?_eq_none_iff.mpr hrest, List.map_nil]
  | cons htoken hmore =>
    rw [List.append_assoc, readValues, readValue?_append htoken (hmore.head hrest)]
    simp only [moreValues_append hmore hrest hcomma, List.map_cons]

theorem laysTokens_of_readValues (cs : List Char) :
    ∃ tokens core, LaysTokens tokens core ∧ cs = core ++ (readValues cs).2 ∧
      (readValues cs).1 = tokens.map (fun t => Value.ofToken t.toList) ∧
      AfterToken (readValues cs).2 := by
  rw [readValues]
  split
  next hnone => exact ⟨[], [], .nil, rfl, rfl, readValue?_eq_none_iff.mp hnone⟩
  next v rest hsome =>
    obtain ⟨token, htoken, hsplit, rfl, hrest⟩ := isToken_of_readValue? hsome
    obtain ⟨tokens, core, hlays, hcore, hvalues, hend⟩ := laysMore_of_moreValues rest hrest
    refine ⟨token :: tokens, _, .cons htoken hlays, ?_, ?_, hend⟩
    · rw [hsplit, List.append_assoc, ← hcore]
    · rw [List.map_cons, ← hvalues]

/-! ## Entries -/

/-- Nothing at the start of the rest is taken for a part of an entry with these tokens. -/
structure Ends (tokens : List String) (rest : List Char) : Prop where
  token : AfterToken (behind tokens rest)
  comma : (skipLineBlanks rest).head? ≠ some ','

theorem ends_nil (tokens : List String) : Ends tokens [] := by
  have hbehind : behind tokens [] = [] := by
    unfold behind
    split <;> rfl
  exact ⟨by simp [hbehind, AfterToken], by simp [skipLineBlanks]⟩

theorem trim_skipLineBlanks (cs : List Char) : Text.trim (skipLineBlanks cs) = Text.trim cs := by
  obtain ⟨blanks, hblanks, hcs⟩ := exists_skipLineBlanks cs
  conv_rhs => rw [hcs, Text.trim_blank_append hblanks.blank]

/-- **An entry is read as it is laid out.** -/
theorem readEntry_append {e : Written.Entry} {core rest : List Char} (h : LaysEntry e core)
    (hrest : Ends e.tokens rest) : readEntry (core ++ rest) = .ok (e.read, Text.trim rest) := by
  cases h with
  | @mk key tokens before after values hkey hbefore hafter htokens =>
    have hname : readName (key.toList ++ (before ++ ':' :: (after ++ values)) ++ rest) =
        .ok (key, before ++ ':' :: (after ++ (values ++ rest))) := by
      have hrest : ∀ c ∈ (before ++ ':' :: (after ++ (values ++ rest))).head?,
          continuesName c = false := by
        intro c hc
        cases before with
        | nil =>
          have hcolon : ':' = c := by simpa using hc
          subst hcolon
          decide
        | cons d before =>
          have hd : d = c := by simpa using hc
          subst hd
          exact not_continuesName_of_isBlank (hbefore.blank d List.mem_cons_self)
      have h := readName_append hkey hrest
      simpa using h
    have hcolon : skipLineBlanks (before ++ ':' :: (after ++ (values ++ rest))) =
        ':' :: (after ++ (values ++ rest)) :=
      skipLineBlanks_append hbefore (by simp; decide)
    -- Blanks behind the colon of an entry without tokens may be blanks of the rest.
    have hvalues : ∃ rest', readValues (skipLineBlanks (after ++ (values ++ rest))) =
        (tokens.map fun t => Value.ofToken t.toList, rest') ∧ Text.trim rest' = Text.trim rest := by
      cases htokens with
      | nil =>
        have hskip : skipLineBlanks (after ++ ([] ++ rest)) = skipLineBlanks rest :=
          List.dropWhile_append_of_pos hafter
        have hread := readValues_append .nil hrest.token (by
          rw [behind, if_pos rfl, skipLineBlanks_skipLineBlanks]
          exact hrest.comma)
        rw [hskip]
        exact ⟨skipLineBlanks rest, hread, trim_skipLineBlanks rest⟩
      | @cons token tokens more htoken hmore =>
        have hskip : skipLineBlanks (after ++ (token.toList ++ more ++ rest)) =
            token.toList ++ more ++ rest := by
          rw [List.append_assoc]
          exact skipLineBlanks_append hafter fun c hc =>
            not_isLineBlank_of_isTokenChar (htoken.head _ c hc)
        rw [hskip]
        exact ⟨rest, readValues_append (.cons htoken hmore) hrest.token hrest.comma, rfl⟩
    obtain ⟨rest', hvalues, htrim⟩ := hvalues
    simp only [readEntry, hname, hcolon, hvalues, htrim, bind, Except.bind, pure, Except.pure,
      Written.Entry.read]

/-- **Whatever is read as an entry is laid out as one.** -/
theorem laysEntry_of_readEntry {cs rest : List Char} {entry : Entry}
    (h : readEntry cs = .ok (entry, rest)) :
    ∃ e core tail, LaysEntry e core ∧ cs = core ++ tail ∧ entry = e.read ∧
      rest = Text.trim tail ∧ AfterToken (behind e.tokens tail) := by
  rw [readEntry, bind_eq_ok_iff] at h
  obtain ⟨⟨key, rest₁⟩, hname, h⟩ := h
  obtain ⟨hkey, rfl, -⟩ := isName_of_readName hname
  dsimp only at h
  split at h
  next rest₂ hcolon =>
    obtain ⟨before, hbefore, hrest₁⟩ := exists_skipLineBlanks rest₁
    obtain ⟨after, hafter, hrest₂⟩ := exists_skipLineBlanks rest₂
    obtain ⟨tokens, core, hlays, hcore, hvalues, hend⟩ :=
      laysTokens_of_readValues (skipLineBlanks rest₂)
    generalize readValues (skipLineBlanks rest₂) = read at h hcore hvalues hend
    cases h
    refine ⟨⟨key, tokens⟩, _, _, .mk hkey hbefore hafter hlays, ?_, ?_, rfl, ?_⟩
    · rw [hrest₁, hcolon, hrest₂, hcore]
      simp
    · rw [hvalues]
      rfl
    · rw [behind]
      split
      next htokens =>
        change tokens = [] at htokens
        subst htokens
        cases hlays
        rw [List.nil_append] at hcore
        rwa [← hcore, skipLineBlanks_skipLineBlanks, hcore]
      · exact hend
  · cases h

theorem LaysEntry.ne_nil {e : Written.Entry} {core : List Char} (h : LaysEntry e core) :
    core ≠ [] := by
  cases h with
  | mk hkey =>
    obtain ⟨c, more, hname, -⟩ := hkey
    simp [hname]

theorem LaysEntry.head {e : Written.Entry} {core : List Char} (h : LaysEntry e core)
    (rest : List Char) : AtName (core ++ rest) := by
  cases h with
  | mk hkey =>
    rw [List.append_assoc]
    exact hkey.head _

/-! ## White space behind an entry -/

theorem behind_append (tokens : List String) (gap cs : List Char) :
    behind tokens (gap ++ cs) =
      if behind tokens gap = [] then behind tokens cs else behind tokens gap ++ cs := by
  unfold behind
  split
  · rw [skipLineBlanks, skipLineBlanks, List.dropWhile_append]
    simp only [List.isEmpty_iff]
    rfl
  · cases gap <;> simp

/-- In front of a name stand no other marks. -/
theorem head?_skipLineBlanks_ne {gap cs : List Char} {mark : Char} (hgap : Blank gap)
    (hcs : AtName cs) (hblank : Text.isBlank mark = false) (hname : startsName mark = false) :
    (skipLineBlanks (gap ++ cs)).head? ≠ some mark := by
  intro hmark
  rw [skipLineBlanks, List.dropWhile_append] at hmark
  split at hmark
  · have hself : cs.dropWhile isLineBlank = cs := dropWhile_eq_self fun c hc =>
      not_isLineBlank_of_startsName (hcs c hc)
    rw [hself] at hmark
    rw [hcs mark hmark] at hname
    cases hname
  next hne =>
    obtain ⟨c, more, hmore⟩ := List.exists_cons_of_ne_nil fun hnil => hne (List.isEmpty_iff.mpr hnil)
    have hmem : c ∈ gap := (List.dropWhile_sublist _).subset (hmore ▸ List.mem_cons_self)
    rw [hmore] at hmark
    cases hmark
    rw [hgap mark hmem] at hblank
    cases hblank

/-- An entry ends where white space parts it from a name. -/
theorem Separates.ends {tokens : List String} {gap cs : List Char} (h : Separates tokens gap)
    (hcs : AtName cs) : Ends tokens (gap ++ cs) := by
  obtain ⟨hgap, c, hc, hblank⟩ := h
  refine ⟨?_, head?_skipLineBlanks_ne hgap hcs (by decide) (by decide)⟩
  have hne : behind tokens gap ≠ [] := by
    intro hnil
    rw [hnil] at hc
    cases hc
  rw [behind_append, if_neg hne]
  intro d hd
  rw [List.head?_append, Option.mem_def.mp hc] at hd
  cases hd
  exact isTokenChar_eq_false_iff.mpr (.inl hblank)

theorem separates_of_head {tokens : List String} {gap cs : List Char} (hgap : Blank gap)
    (hne : cs ≠ []) (hcs : AtName cs) (hstops : AfterToken (behind tokens (gap ++ cs))) :
    Separates tokens gap := by
  obtain ⟨c, cs, rfl⟩ := List.exists_cons_of_ne_nil hne
  have hc : isTokenChar c = true := isTokenChar_of_startsName (hcs c rfl)
  have hself : behind tokens (c :: cs) = c :: cs := by
    rw [behind, skipLineBlanks, List.dropWhile_cons_of_neg
      (by rw [not_isLineBlank_of_isTokenChar hc]; exact Bool.false_ne_true), ite_self]
  rw [behind_append, hself] at hstops
  split at hstops
  · rw [hstops c rfl] at hc
    cases hc
  next hbehind =>
    obtain ⟨d, more, hmore⟩ := List.exists_cons_of_ne_nil hbehind
    have hmem : d ∈ gap := by
      have hsub : behind tokens gap ⊆ gap := by
        unfold behind
        split
        · exact (List.dropWhile_sublist _).subset
        · exact fun _ h => h
      exact hsub (hmore ▸ List.mem_cons_self)
    rw [hmore] at hstops
    refine ⟨hgap, d, by rw [hmore]; rfl, ?_⟩
    rcases isTokenChar_eq_false_iff.mp (hstops d rfl) with hblank | rfl | rfl
    · exact hblank
    · exact absurd (hgap ',' hmem) (by decide)
    · exact absurd (hgap ';' hmem) (by decide)

end Document
end WorkedEquations
