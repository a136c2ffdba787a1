/-
How a document is laid out.

A section is a title and entries, an entry a key, a colon and tokens with
commas between them. A section or an entry may share a line with what stands
before it: only white space has to part them, a line end behind an entry
without tokens. `Lays sections cs` says that the text `cs`, without comments and
blank lines, lays the sections out; `Writes text sections` says so of a text with
them.

Nothing but white space is added to the names, colons, tokens and commas
(`spelling_of_lays`). Of several entries with one title and key the last counts
(`Written.values?_document_iff`).
-/
import WorkedEquations.Proofs.Document.Lines

namespace WorkedEquations
namespace Document

open Text (Blank Trimmed)

/-! ## Sections as they are written -/

namespace Written

/-- A key with the tokens of its values. -/
structure Entry where
  key : String
  tokens : List String
deriving DecidableEq

/-- A title with the entries below it. -/
structure Section where
  title : String
  entries : List Entry
deriving DecidableEq

/-- The entry with its tokens taken for values: whole numbers, numbers, truth values or text. -/
def Entry.read (e : Entry) : Document.Entry := ⟨e.key, e.tokens.map fun t => Value.ofToken t.toList⟩

def Section.read (s : Section) : Document.Section := ⟨s.title, s.entries.map Entry.read⟩

/-- The document that sections write. -/
def document (sections : List Section) : Document := ⟨sections.map Section.read⟩

/-- Every key in order, with the title above it and its tokens. -/
def keys (sections : List Section) : List (String × String × List String) :=
  sections.flatMap fun s => s.entries.map fun e => (s.title, e.key, e.tokens)

/-- The tokens of the last of all entries with a title and a key. -/
def LastTokens (sections : List Section) (title key : String) (tokens : List String) : Prop :=
  ∃ before after, keys sections = before ++ (title, key, tokens) :: after ∧
    ∀ tokens', (title, key, tokens') ∉ after

end Written

/-! ## Layout -/

/-- A letter or an underscore, and then letters, digits and underscores, all of ASCII. -/
def IsName (name : List Char) : Prop :=
  ∃ c rest, name = c :: rest ∧ startsName c = true ∧ ∀ d ∈ rest, continuesName d = true

theorem isName_iff {name : List Char} :
    IsName name ↔ name.head?.any startsName = true ∧ name.tail.all continuesName = true := by
  cases name with
  | nil => simp [IsName]
  | cons c rest =>
    rw [List.head?_cons, List.tail_cons, Option.any_some, List.all_eq_true]
    constructor
    · rintro ⟨_, _, hname, h⟩
      cases hname
      exact h
    · exact fun h => ⟨c, rest, rfl, h⟩

instance (name : List Char) : Decidable (IsName name) := decidable_of_iff _ isName_iff.symm

/-- A token has no blank, line end, comma or semicolon. -/
def IsToken (token : List Char) : Prop := token ≠ [] ∧ ∀ c ∈ token, isTokenChar c = true

instance (token : List Char) : Decidable (IsToken token) :=
  decidable_of_iff (token ≠ [] ∧ token.all isTokenChar = true) (by rw [IsToken, List.all_eq_true])

/-- Blanks within a line, perhaps none. -/
def LineBlanks (cs : List Char) : Prop := ∀ c ∈ cs, isLineBlank c = true

instance (cs : List Char) : Decidable (LineBlanks cs) :=
  decidable_of_iff (cs.all isLineBlank = true) List.all_eq_true

/-- Tokens behind the first: each behind a comma, with blanks around it. -/
inductive LaysMore : List String → List Char → Prop where
  | nil : LaysMore [] []
  | cons {token : String} {tokens : List String} {before after rest : List Char} :
      LineBlanks before → LineBlanks after → IsToken token.toList → LaysMore tokens rest →
      LaysMore (token :: tokens) (before ++ ',' :: (after ++ (token.toList ++ rest)))

/-- Tokens with commas between them. -/
inductive LaysTokens : List String → List Char → Prop where
  | nil : LaysTokens [] []
  | cons {token : String} {tokens : List String} {rest : List Char} :
      IsToken token.toList → LaysMore tokens rest →
      LaysTokens (token :: tokens) (token.toList ++ rest)

/-- A key, a colon with blanks around it, and tokens. -/
inductive LaysEntry : Written.Entry → List Char → Prop where
  | mk {key : String} {tokens : List String} {before after values : List Char} :
      IsName key.toList → LineBlanks before → LineBlanks after → LaysTokens tokens values →
      LaysEntry ⟨key, tokens⟩ (key.toList ++ (before ++ ':' :: (after ++ values)))

/-- What follows an entry. Blanks behind a colon without tokens are still its own. -/
def behind (tokens : List String) (rest : List Char) : List Char :=
  if tokens = [] then skipLineBlanks rest else rest

/-- White space that parts an entry from the next name: it starts with a blank or a line end. -/
def Separates (tokens : List String) (gap : List Char) : Prop :=
  Blank gap ∧ ∃ c ∈ (behind tokens gap).head?, isLayoutBlank c = true

/-- Entries one after the other at the start of a text, and the rest of it. Nothing has to follow
the last entry of a text. -/
inductive LaysEntries : List Written.Entry → (cs rest : List Char) → Prop where
  | nil {rest : List Char} : LaysEntries [] rest rest
  | cons {e : Written.Entry} {es : List Written.Entry} {core gap cs rest : List Char} :
      LaysEntry e core → (gap = [] ∧ cs = [] ∨ Separates e.tokens gap) → LaysEntries es cs rest →
      LaysEntries (e :: es) (core ++ (gap ++ cs)) rest

/-- Sections one after the other: a title, white space, and one or more entries each. -/
inductive LaysSections : List Written.Section → List Char → Prop where
  | nil : LaysSections [] []
  | cons {title : String} {es : List Written.Entry} {ss : List Written.Section} {gap cs rest : List Char} :
      IsName title.toList → Blank gap → gap ≠ [] → es ≠ [] → LaysEntries es cs rest →
      LaysSections ss rest → LaysSections (⟨title, es⟩ :: ss) (title.toList ++ (gap ++ cs))

/-- The text lays the sections out, with blanks before them and white space behind them. -/
def Lays (sections : List Written.Section) (cs : List Char) : Prop :=
  ∃ before body after, cs = before ++ body ++ after ∧ LineBlanks before ∧ Blank after ∧
    Trimmed body ∧ LaysSections sections body

/-- The text, without comments and blank lines, lays the sections out. -/
def Writes (text : String) (sections : List Written.Section) : Prop :=
  ∃ lines, Holds text.toList lines ∧ Lays sections (Text.join '\n' lines)

/-! ## What is written -/

/-- Titles, keys, colons, tokens and commas in order, with nothing between them. -/
def spelling (sections : List Written.Section) : List Char :=
  sections.flatMap fun s => s.title.toList ++ s.entries.flatMap fun e =>
    e.key.toList ++ ':' :: Text.join ',' (e.tokens.map String.toList)

/-- The text without white space. -/
def solid (cs : List Char) : List Char := cs.filter fun c => !Text.isBlank c

theorem solid_append (cs ds : List Char) : solid (cs ++ ds) = solid cs ++ solid ds :=
  List.filter_append ..

theorem solid_blank {cs : List Char} (h : Blank cs) : solid cs = [] := by
  rw [solid, List.filter_eq_nil_iff]
  intro c hc
  simp [h c hc]

theorem isBlank_of_isLineBlank {c : Char} (h : isLineBlank c = true) : Text.isBlank c = true := by
  simp only [isLineBlank, Bool.or_eq_true, beq_iff_eq] at h
  rcases h with rfl | rfl <;> decide

theorem LineBlanks.blank {cs : List Char} (h : LineBlanks cs) : Blank cs := fun c hc =>
  isBlank_of_isLineBlank (h c hc)

theorem join_cons (separator : Char) (part : List Char) (parts : List (List Char)) :
    Text.join separator (part :: parts) = part ++ parts.flatMap (separator :: ·) := by
  induction parts generalizing part with
  | nil => simp [Text.join, List.intercalate]
  | cons next parts ih =>
    have h := ih next
    rw [Text.join] at h ⊢
    rw [List.intercalate_cons_cons, h, List.flatMap_cons]
    simp only [List.append_assoc, List.cons_append, List.nil_append]

theorem LaysMore.solid_eq {tokens : List String} {cs : List Char} (h : LaysMore tokens cs) :
    solid cs = solid ((tokens.map String.toList).flatMap (',' :: ·)) := by
  have hcomma : ∀ cs, solid (',' :: cs) = ',' :: solid cs := fun cs => rfl
  induction h with
  | nil => rfl
  | cons hbefore hafter _ _ ih =>
    rw [solid_append, solid_blank hbefore.blank, hcomma, solid_append, solid_blank hafter.blank,
      solid_append, ih, List.map_cons, List.flatMap_cons, List.cons_append, hcomma, solid_append]
    rfl

theorem LaysTokens.solid_eq {tokens : List String} {cs : List Char} (h : LaysTokens tokens cs) :
    solid cs = solid (Text.join ',' (tokens.map String.toList)) := by
  cases h with
  | nil => rfl
  | cons _ hmore => rw [List.map_cons, join_cons, solid_append, solid_append, hmore.solid_eq]

theorem LaysEntry.solid_eq {e : Written.Entry} {cs : List Char} (h : LaysEntry e cs) :
    solid cs = solid (e.key.toList ++ ':' :: Text.join ',' (e.tokens.map String.toList)) := by
  have hcolon : ∀ cs, solid (':' :: cs) = ':' :: solid cs := fun cs => rfl
  cases h with
  | mk _ hbefore hafter htokens =>
    rw [solid_append, solid_append, solid_blank hbefore.blank, hcolon, solid_append,
      solid_blank hafter.blank, htokens.solid_eq, solid_append, hcolon]
    rfl

theorem LaysEntries.solid_eq {es : List Written.Entry} {cs rest : List Char}
    (h : LaysEntries es cs rest) : solid cs = solid (es.flatMap fun e =>
      e.key.toList ++ ':' :: Text.join ',' (e.tokens.map String.toList)) ++ solid rest := by
  induction h with
  | nil => rfl
  | @cons e _ _ gap _ _ hentry hgap _ ih =>
    have hblank : solid gap = [] := by
      rcases hgap with ⟨rfl, -⟩ | hgap
      · rfl
      · exact solid_blank hgap.1
    rw [solid_append, solid_append, hblank, ih, hentry.solid_eq, List.flatMap_cons, solid_append _
      (List.flatMap _ _), List.nil_append, List.append_assoc]

theorem spelling_cons (s : Written.Section) (ss : List Written.Section) :
    spelling (s :: ss) = s.title.toList ++ (s.entries.flatMap fun e =>
      e.key.toList ++ ':' :: Text.join ',' (e.tokens.map String.toList)) ++ spelling ss :=
  List.flatMap_cons

theorem LaysSections.solid_eq {ss : List Written.Section} {cs : List Char} (h : LaysSections ss cs) :
    solid cs = solid (spelling ss) := by
  induction h with
  | nil => rfl
  | cons _ hgap _ _ hentries _ ih =>
    rw [spelling_cons, solid_append, solid_append, solid_blank hgap, hentries.solid_eq, ih,
      solid_append, solid_append, List.nil_append, List.append_assoc]

/-- **Nothing is left out and nothing added** but white space. -/
theorem spelling_of_lays {sections : List Written.Section} {cs : List Char} (h : Lays sections cs) :
    solid cs = solid (spelling sections) := by
  obtain ⟨before, body, after, rfl, hbefore, hafter, -, hbody⟩ := h
  rw [solid_append, solid_append, solid_blank hbefore.blank, solid_blank hafter, hbody.solid_eq,
    List.nil_append, List.append_nil]

/-! ## Keys that come back -/

namespace Written

theorem keys_cons (s : Section) (sections : List Section) :
    keys (s :: sections) = (s.entries.map fun e => (s.title, e.key, e.tokens)) ++ keys sections :=
  List.flatMap_cons

theorem mem_keys {sections : List Section} {s : Section} {e : Entry} (hs : s ∈ sections)
    (he : e ∈ s.entries) : (s.title, e.key, e.tokens) ∈ keys sections :=
  List.mem_flatMap.mpr ⟨s, hs, List.mem_map.mpr ⟨e, he, rfl⟩⟩

theorem entriesOf_document (sections : List Section) (title : String) :
    (document sections).entriesOf title = ((keys sections).filter (·.1 == title)).map fun o =>
      (Entry.mk o.2.1 o.2.2).read := by
  induction sections with
  | nil => rfl
  | cons s sections ih =>
    have hcons : (document (s :: sections)).entriesOf title =
        (if s.title == title then s.entries.map Entry.read else []) ++
          (document sections).entriesOf title := by
      simp only [document, entriesOf, List.map_cons, List.filter_cons, Section.read]
      split <;> simp
    rw [hcons, ih, keys_cons, List.filter_append, List.map_append]
    congr 1
    by_cases htitle : s.title = title
    · rw [if_pos (by simpa using htitle), List.filter_eq_self.mpr (by simp [htitle]), List.map_map]
      rfl
    · rw [if_neg (by simpa using htitle), List.filter_eq_nil_iff.mpr (by simp [htitle]), List.map_nil]

theorem values?_document (sections : List Section) (title key : String) :
    (document sections).values? title key =
      ((keys sections).reverse.find? fun o => o.1 == title && o.2.1 == key).map fun o =>
        o.2.2.map fun t => Value.ofToken t.toList := by
  rw [values?, entriesOf_document, ← List.map_reverse, ← List.filter_reverse, List.find?_map,
    List.find?_filter, Option.map_map]
  simp only [Bool.decide_and, Bool.decide_eq_true]
  rfl

/-- **The last entry counts.** -/
theorem values?_document_iff {sections : List Section} {title key : String} {values : List Value} :
    (document sections).values? title key = some values ↔
      ∃ tokens, LastTokens sections title key tokens ∧
        values = tokens.map fun t => Value.ofToken t.toList := by
  rw [values?_document, Option.map_eq_some_iff]
  constructor
  · rintro ⟨⟨title', key', tokens⟩, hfind, rfl⟩
    rw [List.find?_eq_some_iff_append] at hfind
    obtain ⟨hkey, after, before, hkeys, hafter⟩ := hfind
    simp only [Bool.and_eq_true, beq_iff_eq] at hkey
    obtain ⟨rfl, rfl⟩ := hkey
    refine ⟨tokens, ⟨before.reverse, after.reverse, ?_, ?_⟩, rfl⟩
    · rw [← List.reverse_reverse (keys sections), hkeys]
      simp
    · intro tokens' hmem
      simpa using hafter _ (List.mem_reverse.mp hmem)
  · rintro ⟨tokens, ⟨before, after, hkeys, hafter⟩, rfl⟩
    refine ⟨(title, key, tokens), ?_, rfl⟩
    rw [List.find?_eq_some_iff_append]
    refine ⟨by simp, after.reverse, before.reverse, by simp [hkeys], ?_⟩
    rintro ⟨title', key', tokens'⟩ hmem
    rw [Bool.not_eq_true', Bool.and_eq_false_iff, beq_eq_false_iff_ne, beq_eq_false_iff_ne]
    by_contra hsame
    obtain ⟨rfl, rfl⟩ : title' = title ∧ key' = key := by
      rwa [not_or, not_not, not_not] at hsame
    exact hafter tokens' (List.mem_reverse.mp hmem)

theorem exists_lastTokens {sections : List Section} {title key : String} {tokens : List String}
    (h : (title, key, tokens) ∈ keys sections) : ∃ last, LastTokens sections title key last := by
  cases hvalues : (document sections).values? title key with
  | none =>
    rw [values?_document, Option.map_eq_none_iff, List.find?_eq_none] at hvalues
    exact absurd (by simp) (hvalues _ (List.mem_reverse.mpr h))
  | some values =>
    obtain ⟨last, hlast, -⟩ := values?_document_iff.mp hvalues
    exact ⟨last, hlast⟩

theorem LastTokens.mem {sections : List Section} {title key : String} {tokens : List String}
    (h : LastTokens sections title key tokens) : (title, key, tokens) ∈ keys sections := by
  obtain ⟨before, after, hkeys, -⟩ := h
  simp [hkeys]

end Written

end Document
end WorkedEquations
