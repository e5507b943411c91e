import FormulaMap.Analysis.Analyzer
import FormulaMap.CommandLine.Events
import FormulaMap.CommandLine.Failure
import FormulaMap.CommandLine.Filter
import FormulaMap.CommandLine.Invocation
import FormulaMap.Oracle.Endpoint

/-!
# Runs

What comes of an invocation in a world: what is printed, the remarks made meanwhile, what is put
under a path, which posts are sent, and the exit code.  Nothing is sent or put anywhere before all
that can be checked beforehand has been checked.

How the syntax tree of a text is read is given to a run, so that what is said about runs need not
depend on it.  The program reads it by the grammar.
-/

namespace FormulaMap
namespace CommandLine

/-- What a run says beside its output. -/
inductive Remark where
  | event (e : Event)
  | line (text : String)
  deriving DecidableEq, Repr

/-- A remark as text. -/
def Remark.text : Remark → String
  | event e => e.text
  | line text => text

/-- What comes of a run. -/
structure Ending where
  code : Nat
  /-- What is printed. -/
  output : String
  remarks : List Remark
  /-- What is put under which path. -/
  written : Option (String × String)
  /-- The posts that were sent off, in the order in which they were. -/
  posted : List Http.Post
  /-- Those of them that arrived and were answered. -/
  sent : List Http.Post
  deriving DecidableEq, Repr

namespace Ending

/-- The end of a run that has sent nothing. -/
def ofOutput (remarks : List Remark) (output : String) : Ending :=
  ⟨0, output, remarks, none, [], []⟩

/-- The end of a run that has sent nothing and fails. -/
def ofFailure (remarks : List Remark) (f : Failure) : Ending :=
  ⟨f.code, "", remarks ++ [.line ("fmap error: " ++ f.message)], none, [], []⟩

/-- The end of a run that has sent nothing and breaks down because more permits are asked for than
there can be. -/
def ofTooManyPermits (remarks : List Remark) : Ending :=
  let line := "a semaphore may not have more than MAX_PERMITS permits (" ++
    Decimal.text Analysis.maxPermits ++ ")"
  ⟨101, "", remarks ++ [.line line], none, [], []⟩

/-- The words that say how a command line is to look. -/
def usage : String := "Usage: fmap [OPTIONS] <COMMAND>"

/-- The end of a run whose arguments ask for nothing that can be done. -/
def ofStop : Stop → Ending
  | .fault e => ⟨2, "", [.line ("error: " ++ e.message)], none, [], []⟩
  | .version => .ofOutput [] "fmap 0.1.0\n"
  | .help => .ofOutput [] (usage ++ "\n")
  | .nothing => ⟨2, "", [.line usage], none, [], []⟩

end Ending

/-- The settings of the oracle after what overrides them. -/
def Overrides.apply (o : Overrides) (s : OracleSettings) : OracleSettings :=
  { s with
    endpoint := o.endpoint.getD s.endpoint
    model := o.model.getD s.model
    concurrency := o.concurrency.getD s.concurrency
    contract := o.contract.getD s.contract }

/-- The settings of the reader after what overrides them. -/
def Source.apply (source : Source) (s : ReaderSettings) : ReaderSettings where
  policy := source.policy.getD s.policy
  counters := s.counters || source.counters

/-- What the settings of the reader select. -/
def selectionOf (s : ReaderSettings) : Code.Selection :=
  ⟨s.policy, s.counters⟩

/-- What is read from where a path says. -/
def Source.found (source : Source) (w : World) : Except Failure String :=
  if source.path = "-" then w.input.mapError Failure.input
  else (w.read source.path).mapError (Failure.file source.path)

/-- The source text that a path stands for. -/
def Source.text (source : Source) (w : World) : Except Failure String :=
  match source.found w with
  | .error f => .error f
  | .ok text => if text.toList.all Text.isBlank then .error .blank else .ok text

/-- The settings of a run. -/
def Source.settings (source : Source) (w : World) : Except Failure Settings :=
  match Settings.load (w.sources w.fullEnvironment) with
  | .error fault => .error (.settings fault)
  | .ok s => .ok { s with reader := source.apply s.reader }

namespace Invocation

/-- A value as an invocation wants it printed. -/
def printed (i : Invocation) (v : Json.Value) : String :=
  i.format.text v ++ "\n"

/-- A line that is said unless an invocation wants quiet. -/
def aside (i : Invocation) (text : String) : List Remark :=
  if i.quiet then [] else [.line text]

/-- The variable that may hold a filter of the log. -/
def filterVariable : String := "FMAP_LOG"

/-- The filter of the log: that of the environment, or one for how much is to be said. -/
def filter (i : Invocation) (environment : List (String × String)) : Filter :=
  ((environment.lookup filterVariable).bind Filter.read?).getD
    (.upTo (if i.quiet then .error else if i.verbose then .debug else .warning))

end Invocation

/-- The requests about the methods of a name, or about all. -/
def requestsAbout (method : Option String) (s : OracleSettings) (records : List MethodRecord) :
    List Oracle.Request :=
  (records.filter fun r => method.all fun name => r.name == name).map fun r =>
    .ofRecord r s.model s.temperature

/-- Prints the requests about the methods of a name, or about all. -/
def promptFor (i : Invocation) (method : Option String) (s : OracleSettings)
    (records : List MethodRecord) (remarks : List Remark) : Ending :=
  let requests := requestsAbout method s records
  match method with
  | some name =>
    if requests.isEmpty then .ofFailure remarks (.method name i.source.path)
    else .ofOutput remarks (i.printed (.array (requests.map (·.toJson))))
  | none => .ofOutput remarks (i.printed (.array (requests.map (·.toJson))))

/-- How the methods of a source text are asked about. -/
def analyzerOf (o : Overrides) (s : Settings) : Analysis.Analyzer :=
  let oracle := o.apply s.oracle
  ⟨selectionOf s.reader, .ofSettings oracle, oracle.concurrency⟩

/-- Where they are asked about. -/
def endpointOf (o : Overrides) (s : Settings) : Oracle.Endpoint :=
  .ofSettings (o.apply s.oracle)

/-- The state in which all methods have been asked about. -/
def askedAbout (w : World) (o : Overrides) (s : Settings) (records : List MethodRecord) :
    Analysis.State :=
  (analyzerOf o s).mapRecordsInTurns
    (fun r => .ok <$> (endpointOf o s).complete w.transport r) w.turns records

/-- Asks the oracle about all methods, writes the results where they are wanted and prints
them. -/
def analyze (w : World) (i : Invocation) (o : Overrides) (s : Settings)
    (records : List MethodRecord) (filter : Filter) (remarks : List Remark) : Ending :=
  let oracle := o.apply s.oracle
  match oracle.requireConfigured, w.clientFault? with
  | .error fault, _ => .ofFailure remarks (.oracle fault)
  | .ok (), some cause => .ofFailure remarks (.client cause)
  | .ok (), none =>
    if Analysis.maxPermits < oracle.concurrency then .ofTooManyPermits remarks else
    let final := askedAbout w o s records
    let report := Report.ofOutcomes final.outcomes
    let events := final.asked.flatMap fun r =>
      Event.ofAnswer oracle.contract r
        ((endpointOf o s).ask w.transport ((analyzerOf o s).client.requestFor r))
    let results := Json.Value.array (final.outcomes.map (·.toJson))
    let noted := (events ++ [Event.finished report]).filter filter.admits
    let remarks := remarks ++ noted.map .event ++ i.aside report.text
    let answered := final.posted.filter fun p => (w.transport p).isSome
    let ending : Ending := ⟨0, i.printed results, remarks, none, final.posted, answered⟩
    match o.out with
    | none => ending
    | some path =>
      match w.writeFault? path with
      | some fault =>
        { Ending.ofFailure remarks (.results path fault) with
          posted := ending.posted
          sent := ending.sent }
      | none =>
        { ending with
          remarks := remarks ++ i.aside ("results written to " ++ path)
          written := some (path, results.indented ++ "\n") }

/-- What comes of an invocation in a world, given how syntax trees are read. -/
def Invocation.runWith (tree : List Char → Code.Forest) (i : Invocation) (w : World) : Ending :=
  let filter := i.filter w.environment
  let noted := fun events => ((events : List Event).filter filter.admits).map Remark.event
  match i.source.text w with
  | .error f => .ofFailure [] f
  | .ok text =>
    match i.source.settings w with
    | .error f => .ofFailure [] f
    | .ok s =>
      match Code.recordsOfTree text (selectionOf s.reader) (tree text.toList) with
      | .error e => .ofFailure (noted [.loaded s]) (.source i.source.path e)
      | .ok records =>
        let remarks := noted (.loaded s :: records.map .methodRead)
        match i.command with
        | .parse => .ofOutput remarks (i.printed (.array (records.map (·.toJson))))
        | .prompt method => promptFor i method s.oracle records remarks
        | .analyze o => analyze w i o s records filter remarks

/-- What comes of a command line in a world, given how syntax trees are read. -/
def runWith (tree : List Char → Code.Forest) (w : World) (arguments : List String) : Ending :=
  match Invocation.read arguments with
  | .error stop => .ofStop stop
  | .ok i => i.runWith tree w

/-- What comes of a command line in a world. -/
def run (w : World) (arguments : List String) : Ending :=
  runWith Code.syntaxTree w arguments

end CommandLine
end FormulaMap
