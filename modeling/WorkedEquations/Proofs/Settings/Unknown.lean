/-
Titles and keys of a document that settings do not know.

Which of them is told depends on the order in which names are gone through,
and a document does not fix that order. All orders agree on whether there is
something to tell (`unknown?_eq_none_iff`), and what is told is unknown
(`unknown_of_unknown?`). So a text gives the same in all orders, but for one
thing: a text with several unknown names may be refused for any of them
(`ofText_order`, `ofFile_order`).
-/
import WorkedEquations.Settings.OfDocument

namespace WorkedEquations

namespace Document
variable {d : Document} {title key : String}

theorem mem_titles : title ∈ d.titles ↔ ∃ s ∈ d.sections, s.title = title := by
  rw [titles, List.mem_eraseDups, List.mem_map]

theorem mem_keys : key ∈ d.keys title ↔
    ∃ s ∈ d.sections, s.title = title ∧ ∃ e ∈ s.entries, e.key = key := by
  simp only [keys, entriesOf, List.mem_eraseDups, List.mem_map, List.mem_flatMap, List.mem_filter,
    beq_iff_eq]
  grind

end Document

namespace Settings
variable {d : Document} {order order' : Document.Order} {fault : Fault}

/-- A title of the document is not known, or a key below a title that is. -/
inductive Unknown (d : Document) : Fault → Prop where
  | title {title : String} : title ∈ d.titles → knownKeys.lookup title = none →
    Unknown d (.unknownTitle title)
  | key {title key : String} {known : List String} : title ∈ d.titles →
    knownKeys.lookup title = some known → key ∈ d.keys title → key ∉ known →
    Unknown d (.unknownKey title key)

theorem unknown_of_unknownAt? {keys : Document.Walk} {title : String} (htitle : title ∈ d.titles)
    (h : unknownAt? d keys title = some fault) : Unknown d fault := by
  unfold unknownAt? at h
  split at h
  next hnone =>
    cases h
    exact .title htitle hnone
  next known hknown =>
    obtain ⟨key, hkey, rfl⟩ := Option.map_eq_some_iff.mp h
    have hmem := (keys.perm _).mem_iff.mp (List.mem_of_find?_eq_some hkey)
    have hforeign := List.find?_some hkey
    exact .key htitle hknown hmem (by simpa using hforeign)

theorem unknownAt?_eq_none_iff {keys : Document.Walk} {title : String} :
    unknownAt? d keys title = none ↔
      ∃ known, knownKeys.lookup title = some known ∧ ∀ key ∈ d.keys title, key ∈ known := by
  unfold unknownAt?
  split
  next hnone => simp [hnone]
  next known hknown => simp [hknown, (keys.perm _).mem_iff]

/-- **What is told is unknown.** -/
theorem unknown_of_unknown? (h : unknown? d order = some fault) : Unknown d fault := by
  obtain ⟨title, hmem, htitle⟩ := List.exists_of_findSome?_eq_some h
  exact unknown_of_unknownAt? ((order.titles.perm _).mem_iff.mp hmem) htitle

/-- **All orders agree on whether there is something unknown.** -/
theorem unknown?_eq_none_iff : unknown? d order = none ↔ ∀ fault, ¬ Unknown d fault := by
  constructor
  · intro h fault hfault
    rw [unknown?, List.findSome?_eq_none_iff] at h
    have hknown : ∀ title ∈ d.titles,
        ∃ known, knownKeys.lookup title = some known ∧ ∀ key ∈ d.keys title, key ∈ known :=
      fun title htitle =>
        unknownAt?_eq_none_iff.mp (h title ((order.titles.perm _).mem_iff.mpr htitle))
    cases hfault with
    | title htitle hnone =>
      obtain ⟨known, hsome, -⟩ := hknown _ htitle
      cases hnone.symm.trans hsome
    | key htitle hsome hkey hforeign =>
      obtain ⟨known, hsome', hkeys⟩ := hknown _ htitle
      cases hsome.symm.trans hsome'
      exact hforeign (hkeys _ hkey)
  · intro h
    cases hfault : unknown? d order with
    | none => rfl
    | some fault => exact absurd (unknown_of_unknown? hfault) (h fault)

/-! ## Two orders -/

/-- The same comes of two orders, or both come upon something unknown. -/
def SameButUnknown (d : Document) (first second : Except Fault Settings) : Prop :=
  second = first ∨ ∃ fault fault', Unknown d fault ∧ Unknown d fault' ∧ first = .error fault ∧
    second = .error fault'

theorem read_order (d : Document) (order order' : Document.Order) :
    SameButUnknown d (read d order) (read d order') := by
  simp only [read]
  cases h : unknown? d order with
  | none =>
    have h' : unknown? d order' = none := unknown?_eq_none_iff.mpr (unknown?_eq_none_iff.mp h)
    rw [h']
    exact .inl rfl
  | some fault =>
    have hfault := unknown_of_unknown? h
    cases h' : unknown? d order' with
    | none => exact absurd hfault (unknown?_eq_none_iff.mp h' fault)
    | some fault' => exact .inr ⟨fault, fault', hfault, unknown_of_unknown? h', rfl, rfl⟩

theorem ofText_of_parse {text : String} {d : Document} {order : Document.Order}
    (hempty : ¬ (Text.trim (Document.contentOf text.toList)).isEmpty = true)
    (hparse : Document.parse text = .ok d) :
    ofText text order = (read d order).bind fun s => s.check.mapError .invalid := by
  rw [ofText, if_neg hempty, hparse]
  rfl

/-- **What a text gives, in two orders.** -/
theorem ofText_order (text : String) (order order' : Document.Order) :
    ofText text order' = ofText text order ∨ ∃ d, Document.parse text = .ok d ∧
      SameButUnknown d (ofText text order) (ofText text order') := by
  by_cases hempty : (Text.trim (Document.contentOf text.toList)).isEmpty = true
  · rw [ofText, ofText, if_pos hempty, if_pos hempty]
    exact .inl rfl
  cases hparse : Document.parse text with
  | error fault =>
    rw [ofText, ofText, if_neg hempty, if_neg hempty, hparse]
    exact .inl rfl
  | ok d =>
    rw [ofText_of_parse hempty hparse, ofText_of_parse hempty hparse]
    refine .inr ⟨d, rfl, ?_⟩
    rcases read_order d order order' with heq | ⟨fault, fault', hfault, hfault', hread, hread'⟩
    · rw [heq]
      exact .inl rfl
    · rw [hread, hread']
      exact .inr ⟨fault, fault', hfault, hfault', rfl, rfl⟩

theorem ofFile_order (path : String) (content : Except Files.Fault ByteArray)
    (order order' : Document.Order) :
    ofFile path content order' = ofFile path content order ∨
      ∃ text d, content.bind Files.decode = .ok text ∧ Document.parse text = .ok d ∧
        SameButUnknown d (ofFile path content order) (ofFile path content order') := by
  simp only [ofFile]
  cases content.bind Files.decode with
  | error fault => exact .inl rfl
  | ok text =>
    rcases ofText_order text order order' with heq | ⟨d, hparse, hsame⟩
    · exact .inl heq
    · exact .inr ⟨text, d, rfl, hparse, hsame⟩

end Settings
end WorkedEquations
