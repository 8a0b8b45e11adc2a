import TypedClient.Command
import TypedClient.Filter.StandIns
import TypedClient.Proofs.Document.Read
import TypedClient.Proofs.Files
import TypedClient.Proofs.Text.Utf8

/-!
# Nothing is written unless everything succeeds

The code of a client is made before anything is written.  So a job that fails on the way to the code
leaves all files as they were, those of earlier runs included, and a job that succeeds stores the
code and changes nothing else.  This holds for whatever is found on the web and whatever filters
make of a text; and what the command does is what the job does that its arguments ask for, with the
web and the programs of the machine (`Command.careful`).
-/

namespace TypedClient

variable {files files' : Files} {fetch : String → Except Source.WebError String}
  {run : Filter → String → Except Fault String} {job : Job}

/-- What comes of loading a source. -/
def Source.loaded (fetch : String → Except WebError String) (files : Files) :
    Source → Except Failure String
  | .url address => (fetch address).mapError (.remote address)
  | .file path => textOf path (files.read (Path.ofText path))

/-- To load a source leaves the files as they are. -/
lemma Source.load_run (source : Source) (files : Files) :
    (source.load Files.disk (fun address => pure (fetch address))).run files =
      pure (source.loaded fetch files, files) := by
  cases source <;> rfl

namespace Job

/-- What comes of a job on files in memory, and the files after it. -/
def effect (fetch : String → Except Source.WebError String)
    (run : Filter → String → Except Fault String) (files : Files) (job : Job) :
    Except Fault Unit × Files :=
  (job.execute Files.disk (fun address => pure (fetch address))
    (fun filter text => pure (run filter text))).run files

/-! ## The code -/

/-- What comes of loading the description of a job. -/
def loaded (fetch : String → Except Source.WebError String) (files : Files) (job : Job) :
    Except Source.Failure String :=
  (Source.ofText job.input).loaded fetch files

/-- A job makes a code: that of the description, which the filter turns into another one, if there
is a filter. -/
inductive Makes (fetch : String → Except Source.WebError String)
    (run : Filter → String → Except Fault String) (files : Files) (job : Job) :
    String → Prop where
  | plain {text code : String} (hload : job.loaded fetch files = .ok text)
    (hcode : clientCode job.strict text = .ok code) (hfilter : job.filter = none) :
    Makes fetch run files job code
  | filtered {text source code : String} {filter : Filter}
    (hload : job.loaded fetch files = .ok text)
    (hsource : clientCode job.strict text = .ok source) (hfilter : job.filter = some filter)
    (hcode : run filter source = .ok code) : Makes fetch run files job code

/-- A job fails on the way to its code: nothing is loaded, or what is loaded is no description, or
no client can be made of it, or the filter fails. -/
inductive Fails (fetch : String → Except Source.WebError String)
    (run : Filter → String → Except Fault String) (files : Files) (job : Job) :
    Fault → Prop where
  | loading {failure : Source.Failure} (hload : job.loaded fetch files = .error failure) :
    Fails fetch run files job failure.toFault
  | reading {text : String} {unreadable : Document.Unreadable}
    (hload : job.loaded fetch files = .ok text)
    (hread : Document.read text = .error unreadable) : Fails fetch run files job unreadable.toFault
  | generating {text : String} {document : Document} {failure : Blueprint.Failure}
    (hload : job.loaded fetch files = .ok text) (hread : Document.read text = .ok document)
    (hblueprint : Blueprint.ofDocument job.strict document = .error failure) :
    Fails fetch run files job failure.toFault
  | filtering {text source : String} {filter : Filter} {fault : Fault}
    (hload : job.loaded fetch files = .ok text) (hsource : clientCode job.strict text = .ok source)
    (hfilter : job.filter = some filter) (hfault : run filter source = .error fault) :
    Fails fetch run files job fault

/-- No client is made of a text for one of two reasons. -/
lemma clientCode_eq_error {strict : Bool} {text : String} {fault : Fault}
    (h : clientCode strict text = .error fault) :
    (∃ unreadable, Document.read text = .error unreadable ∧ unreadable.toFault = fault) ∨
      ∃ document failure, Document.read text = .ok document ∧
        Blueprint.ofDocument strict document = .error failure ∧ failure.toFault = fault := by
  unfold clientCode at h
  split at h
  · next unreadable hread => exact Or.inl ⟨unreadable, hread, Except.error.inj h⟩
  · next document hread =>
    split at h
    · next failure hblueprint =>
      exact Or.inr ⟨document, failure, hread, hblueprint, Except.error.inj h⟩
    · cases h

/-- A job makes a code, or it fails on the way to it. -/
lemma makes_or_fails (job : Job) (fetch : String → Except Source.WebError String)
    (run : Filter → String → Except Fault String) (files : Files) :
    (∃ code, job.Makes fetch run files code) ∨ ∃ fault, job.Fails fetch run files fault := by
  cases hload : job.loaded fetch files with
  | error failure => exact Or.inr ⟨_, .loading hload⟩
  | ok text =>
    cases hsource : clientCode job.strict text with
    | error fault =>
      obtain ⟨unreadable, hread, -⟩ | ⟨document, failure, hread, hblueprint, -⟩ :=
        clientCode_eq_error hsource
      · exact Or.inr ⟨_, .reading hload hread⟩
      · exact Or.inr ⟨_, .generating hload hread hblueprint⟩
    | ok source =>
      cases hfilter : job.filter with
      | none => exact Or.inl ⟨source, .plain hload hsource hfilter⟩
      | some filter =>
        cases hcode : run filter source with
        | error fault => exact Or.inr ⟨fault, .filtering hload hsource hfilter hcode⟩
        | ok code => exact Or.inl ⟨code, .filtered hload hsource hfilter hcode⟩

/-! ## The files -/

/-- A job does nothing before its description is loaded, which leaves the files as they are. -/
lemma effect_eq :
    job.effect fetch run files =
      match job.code (job.loaded fetch files) with
      | .error fault => (.error fault, files)
      | .ok source =>
        match job.filter with
        | none => (job.store Files.disk source).run files
        | some filter =>
          match run filter source with
          | .error fault => (.error fault, files)
          | .ok code => (job.store Files.disk code).run files := by
  have hload : ((Source.ofText job.input).load Files.disk (fun address => pure (fetch address))).run
      files = pure (job.loaded fetch files, files) := Source.load_run _ files
  rw [effect, execute, StateT.run_bind, hload, pure_bind]
  cases job.code (job.loaded fetch files) with
  | error fault => rfl
  | ok source =>
    dsimp only
    unfold filtered
    cases job.filter with
    | none => rfl
    | some filter =>
      dsimp only
      rw [pure_bind]
      cases run filter source with
      | error fault => rfl
      | ok code => rfl

/-- A job that fails on the way to its code changes nothing. -/
lemma Fails.effect_eq {fault : Fault} (h : job.Fails fetch run files fault) :
    job.effect fetch run files = (.error fault, files) := by
  rw [Job.effect_eq]
  cases h with
  | loading hload => simp only [hload, code]
  | reading hload hread => simp only [hload, code, clientCode, hread]
  | generating hload hread hblueprint => simp only [hload, code, clientCode, hread, hblueprint]
  | filtering hload hsource hfilter hfault => simp only [hload, code, hsource, hfilter, hfault]

/-- A job that makes a code stores it. -/
lemma Makes.effect_eq {code : String} (h : job.Makes fetch run files code) :
    job.effect fetch run files = (job.store Files.disk code).run files := by
  rw [Job.effect_eq]
  cases h with
  | plain hload hcode hfilter => simp only [hload, Job.code, hcode, hfilter]
  | filtered hload hsource hfilter hcode => simp only [hload, Job.code, hsource, hfilter, hcode]

/-- To make room for the file of the client adds directories on the way to it. -/
lemma adds_of_makeRoom (h : (makeRoom Files.disk job).run files = (.ok (), files')) :
    files.Adds (files.Passes (Path.ofText job.output)) files' := by
  unfold makeRoom at h
  split at h
  · cases h
    exact Files.adds_refl
  · next parent hparent =>
    obtain ⟨hresult, hfiles⟩ := Prod.mk.inj h
    exact Files.adds_of_makeDirs hparent (Prod.ext hfiles hresult)

/-- To write to the files in memory is to write to them, or to leave them. -/
lemma write_run (path : Path) (content : List UInt8) (files : Files) :
    (Files.disk.write path content).run files =
      match files.write path content with
      | .ok files' => (.ok (), files')
      | .error e => (.error e, files) :=
  rfl

/-- To store a code stores its bytes under the path to the file of the client. -/
lemma stored_of_store {code : String}
    (h : (job.store Files.disk code).run files = (.ok (), files')) :
    files.Stored files' (Path.ofText job.output) (Text.Utf8.encode code.toList) := by
  unfold store at h
  rw [StateT.run_bind] at h
  generalize hroom : (makeRoom Files.disk job).run files = room at h
  obtain ⟨result, mid⟩ := room
  cases result with
  | error e => cases h
  | ok _ =>
    change StateT.run (Files.disk.write _ _ >>= _) mid = _ at h
    rw [StateT.run_bind, write_run] at h
    generalize hwrite : mid.write _ _ = written at h
    cases written with
    | error e => cases h
    | ok written =>
      cases h
      exact (adds_of_makeRoom hroom).stored hwrite

end Job

/-! ## The command -/

namespace Command

/-- The arguments ask for a job. -/
def Asks (environment : String → Option String) (arguments : List String) (job : Job) : Prop :=
  ∃ options, Options.read environment arguments = .ok options ∧ options.job? = some job

/-- What the command does to files, with a web and programs around them.  What is said of jobs holds
for whatever filters make of a text, and not only for filters that are programs. -/
structure Careful (surroundings : Surroundings) (files : Files) : Prop where
  /-- Where no job is asked for, nothing is changed. -/
  idle : ∀ environment arguments, (∀ job, ¬Asks environment arguments job) →
    ((Command.run surroundings.machine environment arguments).run files).2 = files
  /-- A job that is asked for is done and reported. -/
  asked : ∀ environment arguments job, Asks environment arguments job →
    (Command.run surroundings.machine environment arguments).run files =
      (job.effect surroundings.fetch surroundings.rewrite files).map (jobReport job) id
  /-- A job that fails on the way to its code changes nothing. -/
  failed : ∀ run (job : Job) fault, job.Fails surroundings.fetch run files fault →
    job.effect surroundings.fetch run files = (.error fault, files)
  /-- A job that is done has stored the code that it makes. -/
  done : ∀ run (job : Job) files', job.effect surroundings.fetch run files = (.ok (), files') →
    ∃ code : String, job.Makes surroundings.fetch run files code ∧
      files.Stored files' (Path.ofText job.output) (Text.Utf8.encode code.toList)
  /-- Any other job has made its code. -/
  stopped : ∀ run (job : Job) fault files',
    job.effect surroundings.fetch run files = (.error fault, files') →
      job.Fails surroundings.fetch run files fault ∨
        ∃ code, job.Makes surroundings.fetch run files code

/-- On the machine, a job does what it does with the web and the programs of the surroundings. -/
lemma execute_machine (surroundings : Surroundings) (files : Files) (job : Job) :
    (job.execute surroundings.machine.toDisk surroundings.machine.fetch
        (Filter.rewrite surroundings.machine.start)).run files =
      pure (job.effect surroundings.fetch surroundings.rewrite files) := by
  have hdisk : surroundings.machine.toDisk = Files.disk := rfl
  have hfetch : surroundings.machine.fetch = fun address => pure (surroundings.fetch address) := rfl
  have hrewrite : Filter.rewrite surroundings.machine.start =
      fun filter text => pure (surroundings.rewrite filter text) := by
    funext filter text
    unfold Surroundings.rewrite Filter.rewrite Filter.run
    split <;> rfl
  rw [hdisk, hfetch, hrewrite, Job.effect]
  rfl

/-- Nothing is changed unless everything up to the code succeeds, and then nothing but the file of
the client and the directories that it needs. -/
theorem careful (surroundings : Surroundings) (files : Files) : Careful surroundings files := by
  constructor
  case idle =>
    intro environment arguments hidle
    unfold Command.run
    split
    · rfl
    · rfl
    · rfl
    · next options hoptions =>
      split
      · rfl
      · next job hjob => exact absurd ⟨options, hoptions, hjob⟩ (hidle job)
  case asked =>
    rintro environment arguments job ⟨options, hoptions, hjob⟩
    unfold Command.run
    rw [hoptions]
    dsimp only
    rw [hjob]
    dsimp only
    rw [StateT.run_bind, execute_machine, pure_bind, StateT.run_pure]
    generalize job.effect _ _ _ = result
    rfl
  case failed => exact fun run job fault hfails => hfails.effect_eq
  case done =>
    intro run job files' h
    obtain ⟨code, hmakes⟩ | ⟨fault, hfails⟩ := job.makes_or_fails surroundings.fetch run files
    · rw [hmakes.effect_eq] at h
      exact ⟨code, hmakes, Job.stored_of_store h⟩
    · rw [hfails.effect_eq] at h
      cases h
  case stopped =>
    intro run job fault files' h
    obtain hmakes | ⟨fault', hfails⟩ := job.makes_or_fails surroundings.fetch run files
    · exact Or.inr hmakes
    · rw [hfails.effect_eq] at h
      cases h
      exact Or.inl hfails

/-- The text of a description without schemas and operations. -/
def bareText : String := "\x7b\"components\": \x7b\"schemas\": \x7b\x7d\x7d\x7d"

/-- The events of the text. -/
def bareEvents : List (Yaml.Event String) :=
  let key := fun text => Yaml.Event.scalar {} text false
  [.mappingStart {}, key "components", .mappingStart {}, key "schemas", .mappingStart {},
    .mappingEnd, .mappingEnd, .mappingEnd]

/-- The value of the events. -/
def bareValue : Yaml.Value :=
  .mapping [(.string "components", .mapping [(.string "schemas", .mapping [])])]

/-- The description that the text spells. -/
def bareDocument : Document where
  components := some { schemas := some [] }

/-- The blueprint of the description. -/
def bareBlueprint : Blueprint where
  components := []
  inline := []
  tree := .empty

/-- The code of the client. -/
lemma clientCode_bareText :
    clientCode true bareText = .ok (Layout.tidy (TypeScript.render bareBlueprint)) := by
  have hevents : (Yaml.tokens? bareText.toList).bind Yaml.Event.ofTokens? = some bareEvents := by
    decide +kernel
  have hvalue : Yaml.Value.ofEvents? bareEvents = some bareValue := by cbv
  have hread : Document.read bareText = .ok bareDocument :=
    Document.read_eq_ok_of_steps hevents hvalue rfl
  have hblueprint : Blueprint.ofDocument true bareDocument = .ok bareBlueprint := by cbv
  simp only [clientCode, hread, hblueprint]

/-- A directory with the description and a client from an earlier time. -/
def workFiles : Files :=
  ((Files.empty ["work"]).putFile ["work", "api.json"] (Text.Utf8.encode bareText.toList)).putFile
    ["work", "client.ts"] []

/-- The description is found at one address on the web, and at no other one.  The programs are those
that stand in for the ones of a machine. -/
def workSurroundings : Surroundings where
  fetch address :=
    if address = "https://example.com/api.json" then .ok bareText
    else .error (.unanswered "not found")
  start := Filter.StandIn.start

/-- The client is made of what is found on the web, and written to a directory that is not there, by
a detour over another one. -/
def webJob : Job := ⟨"https://example.com/api.json", "out/../new/client.ts", true, some ⟨"cat", []⟩⟩

/-- The client from an earlier time is to be replaced, by way of a program that is not there. -/
def brokenJob : Job := ⟨"api.json", "client.ts", true, some ⟨"missing", []⟩⟩

/-- The client from an earlier time is to be replaced by one for a description that is not there. -/
def lostJob : Job := ⟨"https://example.com/none.json", "client.ts", true, some ⟨"cat", []⟩⟩

/-- What the command does to the directory, with arguments that ask for a job. -/
def workRun (job : Job) : Report × Files :=
  let formatter := job.filter.elim [] fun filter => ["--formatter", filter.program]
  (Command.run workSurroundings.machine (fun _ => none)
    (["-i", job.input, "-o", job.output, "--strict"] ++ formatter)).run workFiles

/-- The program that passes its input on makes the same text of a text. -/
lemma rewrite_cat (text : String) : workSurroundings.rewrite ⟨"cat", []⟩ text = .ok text := by
  have hrun : workSurroundings.rewrite ⟨"cat", []⟩ text =
      ((Filter.textOf ⟨"cat", []⟩ (.ok { output := Text.Utf8.encode text.toList })).mapError
        Filter.Failure.toFault) := rfl
  rw [hrun, Filter.textOf, if_pos rfl, Text.Utf8.decode_encode]
  dsimp only
  rw [String.ofList_toList]
  rfl

/-- One job is done, with both directories made; the other two leave the earlier client. -/
theorem workFiles_careful :
    Careful workSurroundings workFiles ∧
      (∃ files', workRun webJob =
          ({ code := 0, output := "Generated client at \"out/../new/client.ts\"\n" }, files') ∧
        files'.node? ["work", "out"] = some .directory ∧
        files'.node? ["work", "new"] = some .directory ∧
        files'.node? ["work", "client.ts"] = some (.file [])) ∧
      workRun brokenJob =
        ({ code := 1, errors := "Error: General Error: Failed to run formatter 'missing': " ++
            "No such file or directory (os error 2)\n" }, workFiles) ∧
      workRun lostJob =
        ({ code := 1, errors := "Error: Input Error: Failed to fetch OpenAPI from " ++
            "https://example.com/none.json: not found\n" }, workFiles) := by
  have hcareful := careful workSurroundings workFiles
  have hweb : workRun webJob = (webJob.effect workSurroundings.fetch workSurroundings.rewrite
      workFiles).map (jobReport webJob) id := hcareful.asked _ _ _ ⟨_, rfl, rfl⟩
  have hbroken : workRun brokenJob = (brokenJob.effect workSurroundings.fetch
      workSurroundings.rewrite workFiles).map (jobReport brokenJob) id :=
    hcareful.asked _ _ _ ⟨_, rfl, rfl⟩
  have hlost : workRun lostJob = (lostJob.effect workSurroundings.fetch workSurroundings.rewrite
      workFiles).map (jobReport lostJob) id := hcareful.asked _ _ _ ⟨_, rfl, rfl⟩
  refine ⟨hcareful, ?_, ?_, ?_⟩
  · have hmakes : webJob.Makes workSurroundings.fetch workSurroundings.rewrite workFiles
        (Layout.tidy (TypeScript.render bareBlueprint)) :=
      .filtered rfl clientCode_bareText rfl (rewrite_cat _)
    have hquoted : Text.quoted webJob.output = "\"out/../new/client.ts\"" := by decide +kernel
    rw [hweb, hmakes.effect_eq]
    generalize Layout.tidy (TypeScript.render bareBlueprint) = code
    obtain ⟨files', hstore, hnodes⟩ : ∃ files', (webJob.store Files.disk code).run workFiles =
        (.ok (), files') ∧ files'.node? ["work", "out"] = some .directory ∧
          files'.node? ["work", "new"] = some .directory ∧
          files'.node? ["work", "client.ts"] = some (.file []) := ⟨_, rfl, rfl, rfl, rfl⟩
    refine ⟨files', ?_, hnodes⟩
    rw [hstore, Prod.map, jobReport, hquoted]
    rfl
  · rw [hbroken, hcareful.failed _ brokenJob _ (.filtering rfl clientCode_bareText rfl rfl)]
    rfl
  · rw [hlost, hcareful.failed _ lostJob _ (.loading rfl)]
    rfl

end Command

end TypedClient
