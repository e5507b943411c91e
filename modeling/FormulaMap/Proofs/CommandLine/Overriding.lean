import FormulaMap.CommandLine.Run
import Mathlib.Tactic.MkIffOfInductiveProp

/-!
# Overrides and printed answers

An override that is given takes the place of its setting, and every setting without one stays as it
is.  What becomes of settings in this way can be spoiled after all, so it is checked once more
whether the oracle can be asked with them.  An answer is printed in the form that its format names.
-/

namespace FormulaMap

/-- Whether settings of the oracle are filled in: it has an address, a model and a key, and both
limits are at least one. -/
@[mk_iff]
structure OracleSettings.Filled (s : OracleSettings) : Prop where
  endpoint : s.endpoint ≠ ""
  model : s.model ≠ ""
  apiKey : s.apiKey ≠ ""
  timeoutSeconds : 1 ≤ s.timeoutSeconds
  concurrency : 1 ≤ s.concurrency

theorem OracleSettings.requireConfigured_eq_ok_iff {s : OracleSettings} :
    s.requireConfigured = .ok () ↔ s.Filled := by
  rw [filled_iff]
  unfold requireConfigured validate
  by_cases htimeout : s.timeoutSeconds = 0
  · simp [htimeout]
  · by_cases hconcurrency : s.concurrency = 0
    · simp [htimeout, hconcurrency]
    · have htimeout' : 1 ≤ s.timeoutSeconds := Nat.pos_of_ne_zero htimeout
      have hconcurrency' : 1 ≤ s.concurrency := Nat.pos_of_ne_zero hconcurrency
      by_cases hkey : s.apiKey = ""
      · simp [htimeout, hconcurrency, hkey]
      · by_cases hendpoint : s.endpoint = ""
        · simp [htimeout, hconcurrency, hkey, hendpoint]
        · simp [htimeout, hconcurrency, htimeout', hconcurrency', hkey, hendpoint]

namespace CommandLine

/-! ## Overrides -/

/-- Whether a value takes the place of another: the one that is given, if one is. -/
structure Replaces {α : Type} (given : Option α) (before after : α) : Prop where
  replaced : ∀ v, given = some v → after = v
  kept : given = none → after = before

theorem replaces_iff {α : Type} {given : Option α} {before after : α} :
    Replaces given before after ↔ after = given.getD before := by
  cases given with
  | none => exact ⟨fun h => h.kept rfl, fun h => ⟨nofun, fun _ => h⟩⟩
  | some v =>
      refine ⟨fun h => h.replaced v rfl, fun h => ⟨fun w hw => ?_, nofun⟩⟩
      rw [h, Option.getD_some]
      exact Option.some.inj hw

/-- Whether settings of the oracle are what overrides make of others. -/
structure Overridden (o : Overrides) (s t : OracleSettings) : Prop where
  endpoint : Replaces o.endpoint s.endpoint t.endpoint
  model : Replaces o.model s.model t.model
  concurrency : Replaces o.concurrency s.concurrency t.concurrency
  contract : Replaces o.contract s.contract t.contract
  apiKey : t.apiKey = s.apiKey
  temperature : t.temperature = s.temperature
  timeoutSeconds : t.timeoutSeconds = s.timeoutSeconds

theorem overridden_apply (o : Overrides) (s : OracleSettings) : Overridden o s (o.apply s) where
  endpoint := replaces_iff.mpr rfl
  model := replaces_iff.mpr rfl
  concurrency := replaces_iff.mpr rfl
  contract := replaces_iff.mpr rfl
  apiKey := rfl
  temperature := rfl
  timeoutSeconds := rfl

theorem overridden_iff {o : Overrides} {s t : OracleSettings} :
    Overridden o s t ↔ t = o.apply s := by
  constructor
  · rintro ⟨hendpoint, hmodel, hconcurrency, hcontract, hkey, htemperature, htimeout⟩
    rw [replaces_iff] at hendpoint hmodel hconcurrency hcontract
    obtain ⟨_, _, _, _, _, _, _⟩ := t
    subst hendpoint hmodel hconcurrency hcontract hkey htemperature htimeout
    rfl
  · rintro rfl
    exact overridden_apply o s

/-- Whether settings of the reader are what the flags beside a source make of others: a policy that
is given takes the place of another, and counters are asked for by either. -/
structure Source.Selects (source : Source) (s t : ReaderSettings) : Prop where
  policy : Replaces source.policy s.policy t.policy
  counters : t.counters = true ↔ s.counters = true ∨ source.counters = true

theorem Source.selects_iff {source : Source} {s t : ReaderSettings} :
    source.Selects s t ↔ t = source.apply s := by
  constructor
  · rintro ⟨hpolicy, hcounters⟩
    rw [replaces_iff] at hpolicy
    rw [← Bool.or_eq_true, Bool.coe_iff_coe] at hcounters
    obtain ⟨_, _⟩ := t
    subst hpolicy hcounters
    rfl
  · rintro rfl
    exact ⟨replaces_iff.mpr rfl, Bool.or_eq_true_iff⟩

/-! ## Printed answers -/

/-- Whether a text is what is printed of a value in a format: the value in the form that the format
names, and a newline. -/
structure Format.Prints (f : Format) (v : Json.Value) (text : String) : Prop where
  indented : f = .indented → text = v.indented ++ "\n"
  compact : f = .compact → text = v.compact ++ "\n"

theorem prints_iff {i : Invocation} {v : Json.Value} {text : String} :
    i.format.Prints v text ↔ text = i.printed v := by
  rw [Invocation.printed]
  cases i.format with
  | indented => exact ⟨fun h => h.indented rfl, fun h => ⟨fun _ => h, nofun⟩⟩
  | compact => exact ⟨fun h => h.compact rfl, fun h => ⟨nofun, fun _ => h⟩⟩

end CommandLine
end FormulaMap
