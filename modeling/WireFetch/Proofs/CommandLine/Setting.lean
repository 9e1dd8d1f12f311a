import WireFetch.CommandLine.Basic

/-!
# A setting on a command line

A setting whose value stands apart takes effect only with what comes behind it; one that has its
value behind an equals sign takes effect at once. Behind options that are settled it does what its
value asks for, and it counts as given, so that it cannot be given again.

## Main results

* `CommandLine.Gathered.readAll_setting` — a setting and its value
* `CommandLine.Gathered.readAll_attached` — a setting with its value behind an equals sign
-/

namespace WireFetch

theorem Argument.ofText_name (setting : Setting) :
    ofText ("--" ++ setting.name) = .long setting.name none := by
  cases setting <;> decide +kernel

/-- No name has an equals sign, so the first one announces the value. -/
theorem Argument.ofText_attached (setting : Setting) (value : String) :
    ofText ("--" ++ setting.name ++ "=" ++ value) = .long setting.name (some value) := by
  have hall : setting.name.toList.all (· ≠ '=') := by
    cases setting <;> decide +kernel
  have hname := List.all_eq_true.1 hall
  have htext : ("--" ++ setting.name ++ "=" ++ value).toList
      = '-' :: '-' :: (setting.name.toList ++ '=' :: value.toList) := by
    simp only [String.toList_append, List.append_assoc]
    rfl
  rw [ofText, htext]
  simp only
  rw [List.dropWhile_append_of_pos hname, List.takeWhile_append_of_pos hname]
  simp

theorem Argument.attached_ne_dashes (setting : Setting) (value : String) :
    "--" ++ setting.name ++ "=" ++ value ≠ "--" := by
  intro heq
  have htext := ofText_attached setting value
  have hnone : ofText "--" = .long "" none := by decide
  rw [heq, hnone] at htext
  exact nomatch (Argument.long.inj htext).2

theorem Argument.ne_dashes_of_plain {text : String} (h : ofText text = .plain) : text ≠ "--" := by
  rintro rfl
  exact absurd h (by decide)

namespace CommandLine.Gathered

variable {g g' : Gathered} {setting : Setting} {value : String} {options : Options}

/-- Two dashes apart, an argument is read for itself. -/
theorem readAll_cons {text : String} (hdashes : text ≠ "--") (h : g.readAll [text] = .ok g')
    (more : List String) : g.readAll (text :: more) = g'.readAll more := by
  simp only [readAll, hdashes, decide_false, Bool.false_and, Bool.false_eq_true, if_false] at h ⊢
  cases hread : g.read text with
  | ok g'' =>
    rw [hread] at h
    cases h
    rfl
  | error e =>
    rw [hread] at h
    cases h

/-- No value is awaited when the latest setting takes effect. -/
theorem awaitsValue_of_settle (h : g.settle = .ok g') (dashes : Bool) :
    g.awaitsValue dashes = false := by
  unfold settle at h
  unfold awaitsValue
  split at h
  · next hnone => rw [hnone]
  · cases h
  · next hsome => rw [hsome]

theorem read_name (h : g.settle = .ok g') (setting : Setting) :
    g.read ("--" ++ setting.name) = .ok { g' with latest := some (setting, none) } := by
  rw [read, Argument.ofText_name]
  simp only [awaitsValue_of_settle h, OptionName.ofLong?_name_setting]
  rw [if_neg (by decide), readOption, readSetting, h]
  rfl

theorem read_value (g : Gathered) (setting : Setting) (h : Argument.ofText value = .plain) :
    ({ g with latest := some (setting, none) } : Gathered).read value
      = .ok { g with latest := some (setting, some value) } := by
  rw [read, h]
  rfl

theorem put_eq (hnew : setting ∉ g.given) (hset : g.options.set setting value = .ok options) :
    g.put setting value = .ok { g with options, given := setting :: g.given } := by
  have hgiven : g.given.contains setting = false := by simpa using hnew
  rw [put, hgiven, hset]
  rfl

/-- **A setting with its value.** Behind options that are settled, a setting that has not been given
takes effect with its value. -/
theorem readAll_setting (h : g.settle = .ok g') (hnew : setting ∉ g'.given)
    (hplain : Argument.ofText value = .plain)
    (hset : g'.options.set setting value = .ok options) :
    ∃ g'', g.readAll ["--" ++ setting.name, value] = .ok g'' ∧
      g''.settle = .ok { g' with latest := none, options, given := setting :: g'.given } := by
  have hname : "--" ++ setting.name ≠ "--" := by
    cases setting <;> decide +kernel
  refine ⟨{ g' with latest := some (setting, some value) }, ?_, ?_⟩
  · simp only [readAll, hname, Argument.ne_dashes_of_plain hplain, decide_false, Bool.false_and,
      Bool.false_eq_true, if_false]
    rw [read_name h]
    change ({ g' with latest := some (setting, none) } : Gathered).read value >>= _ = _
    rw [read_value g' setting hplain]
    rfl
  · exact put_eq (g := { g' with latest := none }) hnew hset

theorem latest_of_settle (h : g.settle = .ok g') : g'.latest = none := by
  unfold settle at h
  split at h
  · next hnone =>
    cases h
    exact hnone
  · cases h
  · next setting value _ =>
    unfold put at h
    split at h
    · cases h
    · cases hset : g.options.set setting value with
      | error e =>
        rw [hset] at h
        cases h
      | ok options =>
        rw [hset] at h
        cases h
        rfl

/-- **A setting with its value attached.** It takes effect at once, whatever the value begins
with. -/
theorem readAll_attached (h : g.settle = .ok g') (hnew : setting ∉ g'.given)
    (hset : g'.options.set setting value = .ok options) :
    ∃ g'', g.readAll ["--" ++ setting.name ++ "=" ++ value] = .ok g'' ∧
      g''.settle = .ok { g' with latest := none, options, given := setting :: g'.given } := by
  have hlatest := latest_of_settle h
  have htext := Argument.ofText_attached setting value
  have hdashes := Argument.attached_ne_dashes setting value
  refine ⟨{ g' with options, given := setting :: g'.given }, ?_, ?_⟩
  · simp only [readAll, hdashes, decide_false, Bool.false_and, Bool.false_eq_true, if_false]
    rw [read, htext]
    simp only [awaitsValue_of_settle h, OptionName.ofLong?_name_setting]
    rw [if_neg (by decide), readOption, readSetting, h]
    change g'.put setting value >>= _ = _
    rw [put_eq hnew hset]
    rfl
  · unfold settle
    dsimp only
    rw [hlatest]

end CommandLine.Gathered

end WireFetch
