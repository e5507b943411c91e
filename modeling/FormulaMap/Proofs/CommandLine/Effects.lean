import FormulaMap.Proofs.CommandLine.Requests
import FormulaMap.Proofs.Oracle.Faults

/-!
# What an analysis leaves behind

An analysis that is refused beforehand sends nothing, writes nothing and prints nothing.  What goes
off goes off with settings that are filled in after all that overrides them, and once it does
nothing the oracle answers makes the analysis fail.
-/

namespace FormulaMap

namespace Oracle

end Oracle

namespace Analysis

end Analysis

namespace CommandLine

/-- Whether a run leaves nothing behind but remarks and an exit code. -/
structure Ending.Silent (e : Ending) : Prop where
  posted : e.posted = []
  sent : e.sent = []
  written : e.written = none
  output : e.output = ""

section Kinds

variable (tree : List Char → Code.Forest) (w : World) (i : Invocation) (o : Overrides)

/-- Why an analysis is refused before anybody is asked: its source text cannot be read or is blank,
the settings cannot be loaded, the text gives no records, or the settings do not do after all that
overrides them. -/
inductive Refused : Failure → Prop where
  | unprepared {f : Failure} (h : Unprepared tree w i.source f) : Refused f
  | unconfigured {text : String} {s : Settings} {records : List MethodRecord}
      {t : OracleSettings} {fault : SettingsFault}
      (hprepared : Prepared tree w i.source text s records) (hover : Overridden o s.oracle t)
      (h : t.requireConfigured = .error fault) : Refused (.oracle fault)

end Kinds

variable {tree : List Char → Code.Forest} {w : World} {i : Invocation} {o : Overrides}

/-- A refused analysis ends with its failure and with nothing else. -/
theorem Refused.run {f : Failure} (h : Refused tree w i o f) (hcommand : i.command = .analyze o) :
    ∃ remarks, i.runWith tree w = .ofFailure remarks f := by
  cases h with
  | unprepared h => exact h.run
  | unconfigured hprepared hover h =>
      obtain ⟨remarks, hrun⟩ := hprepared.analyze hcommand
      rw [hrun, analyze_of_error hover h]
      exact ⟨remarks, rfl⟩

namespace Ready

variable {text : String} {s : Settings} {records : List MethodRecord} {t : OracleSettings}

end Ready

end CommandLine
end FormulaMap
