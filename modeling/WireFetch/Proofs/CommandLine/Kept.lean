import WireFetch.CommandLine.Basic

/-!
# What is kept while a command line is read

However many arguments there are, and in whatever order, the options are changed in two ways only:
a switch is added, or a setting reads a value. All else that is done concerns the order of things.
So a property of options that both ways keep is one of all options that are ever read
(`CommandLine.options_of_parse`).

## Main definitions

* `Options.IsKept` — a property that switches and settings keep
* `CommandLine.Gives` — what is read, if it can be read, has options with a property

## Main results

* `CommandLine.Gathered.gives_read`, `gives_readAll` — one argument, and all
* `CommandLine.options_of_parse` — a whole command line
-/

namespace WireFetch

/-- A property of options that switches and settings keep. -/
structure Options.IsKept (P : Options → Prop) : Prop where
  switch {o : Options} (s : Switch) (h : P o) : P { o with switches := s :: o.switches }
  setting {o o' : Options} {setting : Setting} {value : String} (h : P o)
    (hset : o.set setting value = .ok o') : P o'

namespace CommandLine

variable {P : Options → Prop}

/-- What is read, if it can be read, has options with the property `P`. -/
def Gives (P : Options → Prop) (x : Except UsageError Gathered) : Prop :=
  ∀ g, x = .ok g → P g.options

/-- What is read has first been read in part. -/
theorem exists_of_bind_eq_ok {ε α β : Type} {x : Except ε α} {f : α → Except ε β} {b : β}
    (h : (x >>= f) = .ok b) : ∃ a, x = .ok a ∧ f a = .ok b := by
  cases x with
  | ok a => exact ⟨a, rfl, h⟩
  | error e => cases h

theorem gives_ok {g : Gathered} (hg : P g.options) : Gives P (.ok g) := by
  rintro _ ⟨⟩
  exact hg

theorem gives_error (e : UsageError) : Gives P (.error e) := by
  intro g h
  cases h

theorem Gives.bind {x : Except UsageError Gathered} {f : Gathered → Except UsageError Gathered}
    (h : Gives P x) (hf : ∀ g, P g.options → Gives P (f g)) : Gives P (x >>= f) := by
  cases x with
  | ok g => exact hf g (h g rfl)
  | error e => exact gives_error e

namespace Gathered

variable (hP : Options.IsKept P) {g : Gathered} (hg : P g.options)
include hP hg

theorem gives_put (setting : Setting) (value : String) : Gives P (g.put setting value) := by
  unfold put
  split
  · exact gives_error _
  · cases hset : g.options.set setting value with
    | ok options => exact gives_ok (hP.setting hg hset)
    | error e => exact gives_error e

theorem gives_settle : Gives P g.settle := by
  unfold settle
  split
  · exact gives_ok hg
  · exact gives_error _
  · next setting value _ => exact gives_put hP (g := { g with latest := none }) hg setting value

theorem gives_readSetting (setting : Setting) (attached : Option String) :
    Gives P (g.readSetting setting attached) := by
  refine (gives_settle hP hg).bind fun g' hg' => ?_
  cases attached with
  | some value => exact gives_put hP hg' setting value
  | none => exact gives_ok hg'

theorem gives_readSwitch (s : Switch) : Gives P (g.readSwitch s) := by
  refine (gives_settle hP hg).bind fun g' hg' => ?_
  split
  · exact gives_error _
  · exact gives_ok (hP.switch s hg')

theorem gives_readHelp : Gives P g.readHelp :=
  (gives_settle hP hg).bind fun _ _ => gives_error _

theorem gives_readOption (name : Option OptionName) (attached : Option String) :
    Gives P (g.readOption name attached) := by
  unfold readOption
  split
  · exact gives_error _
  · exact gives_readSetting hP hg _ _
  · exact gives_error _
  · exact gives_readSwitch hP hg _
  · exact gives_readHelp hP hg

theorem gives_readLetters (letters : List Char) : Gives P (g.readLetters letters) := by
  unfold readLetters
  split
  · exact gives_ok hg
  · split
    · exact gives_readSetting hP hg _ _
    · exact gives_readOption hP hg _ _

theorem gives_readUrl (text : String) : Gives P (g.readUrl text) := by
  unfold readUrl
  split
  · exact gives_error _
  · exact (gives_settle hP hg).bind fun _ hg' => gives_ok hg'

theorem gives_read (text : String) : Gives P (g.read text) := by
  have hvalue : Gives P (.ok (g.giveValue text)) := gives_ok hg
  unfold read
  split <;> split
  · exact hvalue
  · exact gives_readUrl hP hg text
  · exact hvalue
  · exact gives_readOption hP hg _ _
  · exact hvalue
  · exact gives_readLetters hP hg _

omit hg in
theorem gives_readUrls (arguments : List String) :
    ∀ g : Gathered, P g.options → Gives P (g.readUrls arguments) := by
  induction arguments with
  | nil => exact fun g hg => gives_ok hg
  | cons text more ih => exact fun g hg => (gives_readUrl hP hg text).bind ih

omit hg in
theorem gives_readAll (arguments : List String) :
    ∀ g : Gathered, P g.options → Gives P (g.readAll arguments) := by
  induction arguments with
  | nil => exact fun g hg => gives_ok hg
  | cons text more ih =>
    intro g hg
    unfold readAll
    split
    · exact gives_readUrls hP more g hg
    · exact (gives_read hP hg text).bind ih

end Gathered

/-- The options of a command line have every property that the usual ones have and that switches and
settings keep. -/
theorem options_of_parse (hP : Options.IsKept P) (husual : P {}) {arguments : List String}
    {c : CommandLine} (h : parse arguments = .ok c) : P c.options := by
  obtain ⟨g, hread, h⟩ := exists_of_bind_eq_ok h
  obtain ⟨g', hsettle, h⟩ := exists_of_bind_eq_ok h
  have hg := Gathered.gives_readAll hP arguments {} husual g hread
  have hg' := Gathered.gives_settle hP hg g' hsettle
  split at h
  · cases h
    exact hg'
  · cases h

end CommandLine

end WireFetch
