/-
Options among the words of a command line.

Each option is taken out with the word behind it, and the words that are left
keep their order (`takeOption_eq_iff`). Where options stand between other
words, one is taken out and the others stay (`Arranges.takeOption`), so after
three such steps their places are not to be seen any more, as long as their
names are nowhere else (`run_arranged`).
-/
import Mathlib.Logic.Function.Basic
import WorkedEquations.Proofs.CommandLine.Run

namespace WorkedEquations
namespace CommandLine

open Directory (Surroundings host)

variable {name word value : String} {words before after others : List String}

/-! ## One option, any words -/

theorem takeOption_self (name : String) (rest : List String) :
    takeOption name (name :: rest) = (rest.head?, rest.drop 1) := by
  rw [takeOption, if_pos rfl]

theorem takeOption_of_ne (h : word ≠ name) (rest : List String) :
    takeOption name (word :: rest) =
      ((takeOption name rest).1, word :: (takeOption name rest).2) := by
  rw [takeOption, if_neg h]

inductive OptionName where
  | config
  | plot
  | csv
deriving DecidableEq

def OptionName.text : OptionName → String
  | config => "--config"
  | plot => "--plot"
  | csv => "--csv"

theorem OptionName.text_injective : Function.Injective OptionName.text := by
  intro o o' h
  cases o <;> cases o' <;> first | rfl | exact absurd h (by decide)

/-- The word is the name of an option. -/
def NamesOption (word : String) : Prop := ∃ o : OptionName, word = o.text

/-- The words are the positional ones in their order, and between them, in any places and any order,
each option that has a value, its value behind it. -/
inductive Arranges : (OptionName → Option String) → List String → List String → Prop where
  | nil {values} : (∀ o, values o = none) → Arranges values [] []
  | word {values} {positional words : List String} {w : String} : ¬ NamesOption w →
    Arranges values positional words → Arranges values (w :: positional) (w :: words)
  | option {values} {positional words : List String} {o : OptionName} {v : String} :
    values o = some v → ¬ NamesOption v →
    Arranges (Function.update values o none) positional words →
    Arranges values positional (o.text :: v :: words)

namespace Arranges
variable {values : OptionName → Option String} {positional : List String}

/-- **One option is taken out**, the words keep their order and the other options stay. -/
theorem takeOption (h : Arranges values positional words) (o : OptionName) :
    ∃ others, CommandLine.takeOption o.text words = (values o, others) ∧
      Arranges (Function.update values o none) positional others := by
  induction h with
  | nil hnone =>
    refine ⟨[], by rw [hnone]; rfl, .nil fun p => ?_⟩
    rw [Function.update_apply, hnone, ite_self]
  | word hword _ ih =>
    obtain ⟨others, htaken, hothers⟩ := ih
    refine ⟨_, ?_, .word hword hothers⟩
    rw [takeOption_of_ne fun heq => hword ⟨o, heq⟩, htaken]
  | @option values _ words p v hv hvalue hrest ih =>
    by_cases hp : p = o
    · subst hp
      exact ⟨words, by rw [takeOption_self, hv]; rfl, hrest⟩
    · obtain ⟨others, htaken, hothers⟩ := ih
      rw [Function.update_of_ne (Ne.symm hp)] at htaken
      refine ⟨p.text :: v :: others, ?_, .option ?_ hvalue ?_⟩
      · rw [takeOption_of_ne fun heq => hp (OptionName.text_injective heq),
          takeOption_of_ne fun heq => hvalue ⟨o, heq⟩, htaken]
      · rw [Function.update_of_ne hp, hv]
      · rwa [Function.update_comm hp] at hothers

theorem eq_positional (h : Arranges values positional words) (hnone : ∀ o, values o = none) :
    words = positional := by
  induction h with
  | nil _ => rfl
  | word _ _ ih => rw [ih hnone]
  | option hv _ _ _ =>
    rw [hnone] at hv
    cases hv

/-- Where the options stand is not to be seen in the arguments. -/
theorem ofWords_eq (h : Arranges values positional words) :
    Arguments.ofWords words = ⟨values .config, values .plot, values .csv, positional⟩ := by
  obtain ⟨afterConfig, hconfig, h⟩ := h.takeOption .config
  obtain ⟨afterPlot, hplot, h⟩ := h.takeOption .plot
  obtain ⟨afterCsv, hcsv, h⟩ := h.takeOption .csv
  have hwords := h.eq_positional fun o => by cases o <;> rfl
  simp only [OptionName.text] at hconfig hplot hcsv
  simp only [Arguments.ofWords, hconfig, hplot, hcsv, hwords]
  rfl

end Arranges

/-- **The places of the options are of no account.** Words that have the same positional words and
the same options with the same values give the same arguments, these values and positional words,
and on every host the same run.

The order in which names are gone through may be another one in each of two runs. Over a directory
they have the same code, print the same and leave the same files all the same, and say the same of
what went wrong, but for one thing: if the file for the settings names several things that settings
do not know, each run tells of one of them. -/
theorem run_arranged {values : OptionName → Option String} {positional words words' : List String}
    (h : Arranges values positional words) (h' : Arranges values positional words') :
    Arguments.ofWords words = ⟨values .config, values .plot, values .csv, positional⟩ ∧
    (∀ {m : Type → Type} [Monad m] (host : Host m), run host words' = run host words) ∧
    ∀ (around : Surroundings) (order : Document.Order) (d : Directory),
      let o := (run (host around) words).run d
      let o' := (run (host { around with order }) words').run d
      o'.2 = o.2 ∧ o'.1.code = o.1.code ∧ o'.1.stdout = o.1.stdout ∧ o'.1.log = o.1.log ∧
        (o'.1.stderr = o.1.stderr ∨
          ∃ fault fault', ConfigUnknown d (values .config) fault fault' ∧ fault ≠ fault' ∧
            o.1 = failure 2 fault.message ∧ o'.1 = failure 2 fault'.message) := by
  have hrun : ∀ {m : Type → Type} [Monad m] (host : Host m), run host words' = run host words := by
    intro m _ host
    rw [run, run, h.ofWords_eq, h'.ofWords_eq]
  refine ⟨h.ofWords_eq, hrun, fun around order d => ?_⟩
  rw [hrun]
  rcases run_order around order words d with hsame | ⟨fault, fault', hunknown, hfirst, hsecond⟩
  · rw [hsame]
    exact ⟨rfl, rfl, rfl, rfl, .inl rfl⟩
  · rw [hfirst, hsecond]
    refine ⟨rfl, rfl, rfl, rfl, ?_⟩
    by_cases heq : fault = fault'
    · rw [heq]
      exact .inl rfl
    · rw [h.ofWords_eq] at hunknown
      exact .inr ⟨fault, fault', hunknown, heq, rfl, rfl⟩

/-- Two options in front of the other words, or between and behind them, one of which has a minus
at its start; and names gone through backwards in the second run. -/
theorem run_arranged_between :
    Arguments.ofWords ["--config", "c.txt", "--csv", "out.csv", "quad", "-x^2+4=0"] =
      ⟨some "c.txt", none, some "out.csv", ["quad", "-x^2+4=0"]⟩ ∧
    ∀ d : Directory,
      let words := ["--config", "c.txt", "--csv", "out.csv", "quad", "-x^2+4=0"]
      let words' := ["quad", "--csv", "out.csv", "-x^2+4=0", "--config", "c.txt"]
      let backwards : Document.Walk := ⟨List.reverse, List.reverse_perm⟩
      let o := (run Directory.access words).run d
      let o' := (run (host { Surroundings.bare with order := ⟨backwards, fun _ => backwards⟩ })
        words').run d
      (run Directory.access words').run d = o ∧
        o'.2 = o.2 ∧ o'.1.code = o.1.code ∧ o'.1.stdout = o.1.stdout := by
  let values : OptionName → Option String := fun
    | .config => some "c.txt"
    | .plot => none
    | .csv => some "out.csv"
  have hplain : ∀ w ∈ ["c.txt", "out.csv", "quad", "-x^2+4=0"], ¬ NamesOption w := by
    rintro w hw ⟨o, rfl⟩
    cases o <;> exact absurd hw (by decide)
  simp only [List.forall_mem_cons, List.not_mem_nil, false_imp_iff, implies_true,
    and_true] at hplain
  obtain ⟨hc, hout, hquad, htext⟩ := hplain
  have hfront : Arranges values ["quad", "-x^2+4=0"]
      ["--config", "c.txt", "--csv", "out.csv", "quad", "-x^2+4=0"] :=
    .option (o := .config) rfl hc <| .option (o := .csv) rfl hout <| .word hquad <| .word htext <|
      .nil fun o => by cases o <;> rfl
  have hbetween : Arranges values ["quad", "-x^2+4=0"]
      ["quad", "--csv", "out.csv", "-x^2+4=0", "--config", "c.txt"] :=
    .word hquad <| .option (o := .csv) rfl hout <| .word htext <| .option (o := .config) rfl hc <|
      .nil fun o => by cases o <;> rfl
  obtain ⟨harguments, hrun, horders⟩ := run_arranged hfront hbetween
  refine ⟨harguments, fun d => ?_⟩
  obtain ⟨hfiles, hcode, hstdout, -, -⟩ := horders .bare _ d
  exact ⟨congrArg (StateT.run · d) (hrun Directory.access), hfiles, hcode, hstdout⟩

end CommandLine
end WorkedEquations
