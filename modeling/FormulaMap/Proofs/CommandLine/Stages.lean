import FormulaMap.Proofs.Analysis.Turns
import FormulaMap.Proofs.CommandLine.Overriding
import FormulaMap.Proofs.Settings.Files

/-!
# The stages of a run

Before a command does anything its source text is read, the settings are loaded and the text is
parsed, in this order.  Either one of these fails, which ends the run, or the command goes on with
the settings and the records.  An analysis then checks the settings once more, builds its client and
makes its permits before it asks.

All this holds however the syntax tree of a text is read.
-/

namespace FormulaMap

namespace Settings

end Settings

namespace CommandLine

variable {tree : List Char → Code.Forest} {w : World}

theorem runWith_of_read {arguments : List String} {i : Invocation}
    (h : Invocation.read arguments = .ok i) : runWith tree w arguments = i.runWith tree w := by
  rw [runWith, h]

/-! ## Source texts and settings -/

/-- Whether a text is what is read from where a source says: from the standard input or under a
path. -/
def Source.Finds (source : Source) (w : World) (text : String) : Prop :=
  source.path = "-" ∧ w.input = .ok text ∨ source.path ≠ "-" ∧ w.read source.path = .ok text

theorem found_eq_ok_iff {source : Source} {text : String} :
    source.found w = .ok text ↔ source.Finds w text := by
  rw [Source.found, Source.Finds]
  split
  · next hinput =>
      cases w.input with
      | error fault => simp [hinput, Except.mapError]
      | ok read => simp [hinput, Except.mapError]
  · next hfile =>
      cases w.read source.path with
      | error fault => simp [hfile, Except.mapError]
      | ok read => simp [hfile, Except.mapError]

/-- Whether a text is found and has anything in it but blanks. -/
structure Source.Reads (source : Source) (w : World) (text : String) : Prop where
  found : source.Finds w text
  shown : ∃ c ∈ text.toList, Text.isBlank c = false

theorem Source.Reads.text_eq {source : Source} {text : String} (h : source.Reads w text) :
    source.text w = .ok text := by
  have hshown : ¬text.toList.all Text.isBlank = true := by
    simpa using h.shown
  rw [Source.text, found_eq_ok_iff.mpr h.found]
  exact if_neg hshown

/-- Whether settings are loaded in a world, with what the flags beside a source make of those of the
reader. -/
def Source.Loads (source : Source) (w : World) (s : Settings) : Prop :=
  ∃ found, Settings.load (w.sources w.fullEnvironment) = .ok found ∧
    s.oracle = found.oracle ∧ source.Selects found.reader s.reader

theorem Source.Loads.settings_eq {source : Source} {s : Settings} (h : source.Loads w s) :
    source.settings w = .ok s := by
  obtain ⟨found, hload, horacle, hreader⟩ := h
  obtain ⟨oracle, reader⟩ := s
  obtain rfl : oracle = found.oracle := horacle
  obtain rfl : reader = source.apply found.reader := Source.selects_iff.mp hreader
  delta Source.settings
  rw [hload]

theorem settings_of_load_eq_error {source : Source} {fault : Settings.LoadFault}
    (h : Settings.load (w.sources w.fullEnvironment) = .error fault) :
    source.settings w = .error (.settings fault) := by
  delta Source.settings
  rw [h]

/-- The source text, the settings and the records with which a command goes on. -/
structure Prepared (tree : List Char → Code.Forest) (w : World) (source : Source) (text : String)
    (s : Settings) (records : List MethodRecord) : Prop where
  read : source.Reads w text
  loaded : source.Loads w s
  parsed : Code.recordsOfTree text (selectionOf s.reader) (tree text.toList) = .ok records

/-- Why no command goes on: the standard input or the file cannot be read, there are only blanks in
it, the settings cannot be loaded, or the text gives no records. -/
inductive Unprepared (tree : List Char → Code.Forest) (w : World) (source : Source) :
    Failure → Prop where
  | input {fault : AccessFault} (hpath : source.path = "-") (h : w.input = .error fault) :
      Unprepared tree w source (.input fault)
  | file {fault : AccessFault} (hpath : source.path ≠ "-")
      (h : w.read source.path = .error fault) :
      Unprepared tree w source (.file source.path fault)
  | blank {text : String} (hfound : source.Finds w text)
      (h : ∀ c ∈ text.toList, Text.isBlank c = true) : Unprepared tree w source .blank
  | settings {text : String} {fault : Settings.LoadFault} (hread : source.Reads w text)
      (h : Settings.load (w.sources w.fullEnvironment) = .error fault) :
      Unprepared tree w source (.settings fault)
  | parsed {text : String} {s : Settings} {failure : Code.ReadFailure}
      (hread : source.Reads w text) (hloaded : source.Loads w s)
      (h : Code.recordsOfTree text (selectionOf s.reader) (tree text.toList) = .error failure) :
      Unprepared tree w source (.source source.path failure)

/-- A source text that is not there or blank gives the failure that says so. -/
theorem runWith_of_text_eq_error {i : Invocation} {f : Failure}
    (h : i.source.text w = .error f) : i.runWith tree w = .ofFailure [] f := by
  rw [Invocation.runWith, h]

/-- A run that is not prepared fails. -/
theorem Unprepared.run {i : Invocation} {f : Failure} (h : Unprepared tree w i.source f) :
    ∃ remarks, i.runWith tree w = .ofFailure remarks f := by
  cases h with
  | input hpath h =>
      refine ⟨[], runWith_of_text_eq_error ?_⟩
      rw [Source.text, Source.found, if_pos hpath, h]
      rfl
  | file hpath h =>
      refine ⟨[], runWith_of_text_eq_error ?_⟩
      rw [Source.text, Source.found, if_neg hpath, h]
      rfl
  | blank hfound h =>
      refine ⟨[], runWith_of_text_eq_error ?_⟩
      rw [Source.text, found_eq_ok_iff.mpr hfound]
      exact if_pos (List.all_eq_true.mpr h)
  | settings hread h =>
      rw [Invocation.runWith, hread.text_eq]
      simp only [settings_of_load_eq_error h]
      exact ⟨_, rfl⟩
  | parsed hread hloaded h =>
      rw [Invocation.runWith, hread.text_eq]
      simp only [hloaded.settings_eq, h]
      exact ⟨_, rfl⟩

namespace Prepared

variable {i : Invocation} {source : Source} {text : String} {s : Settings}
  {records : List MethodRecord}

theorem prompt (h : Prepared tree w i.source text s records) {method : Option String}
    (hcommand : i.command = .prompt method) :
    ∃ remarks, i.runWith tree w = promptFor i method s.oracle records remarks := by
  rw [Invocation.runWith, h.read.text_eq]
  simp only [h.loaded.settings_eq, h.parsed, hcommand]
  exact ⟨_, rfl⟩

theorem analyze (h : Prepared tree w i.source text s records) {o : Overrides}
    (hcommand : i.command = .analyze o) :
    ∃ remarks, i.runWith tree w =
      CommandLine.analyze w i o s records (i.filter w.environment) remarks := by
  rw [Invocation.runWith, h.read.text_eq]
  simp only [h.loaded.settings_eq, h.parsed, hcommand]
  exact ⟨_, rfl⟩

end Prepared

/-! ## Asking the oracle -/

/-- Whether an analysis can ask with some settings: they are filled in, a client can be built, and
there can be as many permits as they say. -/
structure Able (w : World) (t : OracleSettings) : Prop where
  filled : t.Filled
  client : w.clientFault? = none
  permits : t.concurrency ≤ Analysis.maxPermits

section Analyze

variable {i : Invocation} {o : Overrides} {s : Settings} {t : OracleSettings}
  {records : List MethodRecord} {filter : Filter} {remarks : List Remark}

/-- Nobody is asked with settings that do not do. -/
theorem analyze_of_error (hover : Overridden o s.oracle t) {fault : SettingsFault}
    (h : t.requireConfigured = .error fault) :
    analyze w i o s records filter remarks = .ofFailure remarks (.oracle fault) := by
  rw [overridden_iff.mp hover] at h
  rw [analyze]
  simp only [h]

/-- Otherwise everybody is asked, whatever becomes of the results. -/
theorem posted_analyze (hover : Overridden o s.oracle t) (h : Able w t) :
    (analyze w i o s records filter remarks).posted = (askedAbout w o s records).posted := by
  obtain ⟨hfilled, hclient, hpermits⟩ := h
  rw [← OracleSettings.requireConfigured_eq_ok_iff, overridden_iff.mp hover] at hfilled
  rw [overridden_iff.mp hover] at hpermits
  rw [analyze]
  simp only [hfilled, hclient, if_neg (Nat.not_lt.mpr hpermits)]
  split
  · rfl
  · split
    · rfl
    · rfl

/-- What is answered is part of what goes off. -/
theorem sent_analyze :
    (analyze w i o s records filter remarks).sent =
      (analyze w i o s records filter remarks).posted.filter fun p => (w.transport p).isSome := by
  rw [analyze]
  simp only
  split
  · rfl
  · rfl
  · split
    · rfl
    · split
      · rfl
      · split
        · rfl
        · rfl

end Analyze

/-! ## What an analysis posts -/

/-- The post of the request about a method, as settings have it. -/
def postAbout (t : OracleSettings) (r : MethodRecord) : Except Http.PostFault Http.Post :=
  Http.Post.build t.completionsUrl t.apiKey
    (Oracle.Request.ofRecord r t.model t.temperature).toJson.compact

/-- What comes of asking about the record at each place, where calls about equal records may be
answered in different ways, and calls may break down once their answer is there. -/
def callsAt (o : Overrides) (s : Settings) (transports : Nat → Http.Transport)
    (breaks : Nat → Option Analysis.Payload) (place : Nat) : Analysis.Asking :=
  (analyzerOf o s).ask fun r => do
    let answer ← (endpointOf o s).complete (transports place) r
    match breaks place with
    | some payload => pure (.error payload)
    | none => pure (.ok answer)

section Posts

variable {o : Overrides} {s : Settings} {t : OracleSettings}

theorem post_endpointOf (hover : Overridden o s.oracle t) (r : MethodRecord) :
    (endpointOf o s).post ((analyzerOf o s).client.requestFor r) = postAbout t r := by
  rw [overridden_iff.mp hover]
  rfl

/-- A call posts the request about its method, whatever is answered and also if it breaks down. -/
theorem posts_callsAt (hover : Overridden o s.oracle t) (transports : Nat → Http.Transport)
    (breaks : Nat → Option Analysis.Payload) (place : Nat) (r : MethodRecord) :
    (callsAt o s transports breaks place r).posts = (postAbout t r).toOption.toList := by
  rw [callsAt, Analysis.Analyzer.posts_ask, Http.Posting.posts_bind,
    Oracle.Endpoint.posts_complete, post_endpointOf hover]
  cases breaks place with
  | none => exact List.append_nil _
  | some payload => exact List.append_nil _

/-- An analysis posts the requests about all methods, each once. -/
theorem posted_askedAbout_perm (hover : Overridden o s.oracle t) (records : List MethodRecord) :
    (askedAbout w o s records).posted.Perm
      (records.flatMap fun r => (postAbout t r).toOption.toList) := by
  let ask := (analyzerOf o s).ask fun r => .ok <$> (endpointOf o s).complete w.transport r
  have hposts : ∀ r, (ask r).posts = (postAbout t r).toOption.toList := by
    intro r
    rw [Analysis.Analyzer.posts_ask, Http.Posting.posts_map, Oracle.Endpoint.posts_complete,
      post_endpointOf hover]
  have hperm := Analysis.posted_fanOut_perm ask (analyzerOf o s).concurrency w.turns records
  simp only [hposts] at hperm
  exact hperm

end Posts

end CommandLine
end FormulaMap
