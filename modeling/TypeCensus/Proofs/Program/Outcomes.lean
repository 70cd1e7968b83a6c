import TypeCensus.Proofs.Program.Agreement

/-!
# Outcomes — what a run leaves, for all arguments

Arguments that are read ask for a session, or for a report, or leave no choice but to complain.  Which of these it is
follows from them and from the directory that they name; what a session leaves follows from the lines of its input.

* `Mode.mem_problems_iff`, `Mode.ofArguments_eq`: the problems that are found, and the mode if there is none.
* `Console.ending_ne_invalid_iff`, `Console.exists_split_of_invalid`: the first line that is no valid text.
* `run_eq_ask`: the program, with what it asks for made visible.
* `ask_of_problems`, `ask_of_request`, `run_of_interactive`: the three kinds of runs.
* `outcome_of_arguments`: all of them, for all arguments.
-/

namespace TypeCensus

/-! ## Problems -/

namespace Mode

/-- Whether a problem is about the directory. -/
def Problem.aboutDir : Problem → Bool
  | dirMissing | notDirectory _ => true
  | queryMissing | unknownQuery _ => false

/-- A problem with the arguments of a batch run. -/
inductive Found (isDir : String → Bool) (a : Arguments) : Problem → Prop
  | dirMissing (h : a.dir? = none) : Found isDir a .dirMissing
  | notDirectory {dir : String} (h : a.dir? = some dir) (hdir : isDir dir = false) :
      Found isDir a (.notDirectory dir)
  | queryMissing (h : a.query? = none) : Found isDir a .queryMissing
  | unknownQuery {name : String} (h : a.query? = some name) (hname : name ∉ ["mc", "mcp", "st"]) :
      Found isDir a (.unknownQuery name)

theorem ofName?_eq_none_iff {name : String} :
    Report.Query.ofName? name = none ↔ name ∉ ["mc", "mcp", "st"] := by
  rw [Report.Query.ofName?, List.find?_eq_none, ← not_iff_not]
  simp [Report.Query.all, Report.Query.name, @eq_comm _ name]

theorem name_of_ofName? {name : String} {q : Report.Query} (h : Report.Query.ofName? name = some q) :
    name = q.name := by
  have hq := List.find?_some h
  exact (eq_of_beq hq).symm

variable {isDir : String → Bool} {a : Arguments}

theorem mem_problems_iff {p : Problem} :
    p ∈ dirProblems isDir a.dir? ++ queryProblems a.query? ↔ Found isDir a p := by
  constructor
  · intro hp
    rcases List.mem_append.mp hp with hp | hp
    · unfold dirProblems at hp
      split at hp
      · next hdir => exact List.mem_singleton.mp hp ▸ .dirMissing hdir
      · next dir hdir =>
        split_ifs at hp with hthere
        · simp at hp
        · exact List.mem_singleton.mp hp ▸ .notDirectory hdir (by simpa using hthere)
    · unfold queryProblems at hp
      split at hp
      · next hquery => exact List.mem_singleton.mp hp ▸ .queryMissing hquery
      · next name hquery =>
        split_ifs at hp with hknown
        · simp at hp
        · rw [Option.not_isSome_iff_eq_none, ofName?_eq_none_iff] at hknown
          exact List.mem_singleton.mp hp ▸ .unknownQuery hquery hknown
  · intro hp
    rw [List.mem_append]
    cases hp with
    | dirMissing h => exact .inl (by simp [dirProblems, h])
    | notDirectory h hdir => exact .inl (by simp [dirProblems, h, hdir])
    | queryMissing h => exact .inr (by simp [queryProblems, h])
    | unknownQuery h hname =>
      exact .inr (by simp [queryProblems, h, ofName?_eq_none_iff.mpr hname])

/-- There is at most one problem of each kind, and the one with the directory comes first. -/
theorem pairwise_problems (isDir : String → Bool) (a : Arguments) :
    (dirProblems isDir a.dir? ++ queryProblems a.query?).Pairwise fun p q =>
      p.aboutDir = true ∧ q.aboutDir = false := by
  have hdir : (dirProblems isDir a.dir?).length ≤ 1 ∧
      ∀ p ∈ dirProblems isDir a.dir?, p.aboutDir = true := by
    unfold dirProblems
    split
    · simp [Problem.aboutDir]
    · split <;> simp [Problem.aboutDir]
  have hquery : (queryProblems a.query?).length ≤ 1 ∧
      ∀ p ∈ queryProblems a.query?, p.aboutDir = false := by
    unfold queryProblems
    split
    · simp [Problem.aboutDir]
    · split <;> simp [Problem.aboutDir]
  have hshort {ps : List Problem} (h : ps.length ≤ 1) : ps.Pairwise fun p q =>
      p.aboutDir = true ∧ q.aboutDir = false := by
    match ps, h with
    | [], _ => exact .nil
    | [p], _ => exact List.pairwise_singleton _ _
  exact List.pairwise_append.mpr ⟨hshort hdir.1, hshort hquery.1,
    fun p hp q hq => ⟨hdir.2 p hp, hquery.2 q hq⟩⟩

/-- Without a problem, the arguments name a directory and a query. -/
theorem exists_request (h : dirProblems isDir a.dir? ++ queryProblems a.query? = []) :
    ∃ dir q, a.dir? = some dir ∧ a.query? = some q.name ∧
      a.query?.bind Report.Query.ofName? = some q := by
  obtain ⟨hdir, hquery⟩ := List.append_eq_nil_iff.mp h
  unfold dirProblems at hdir
  unfold queryProblems at hquery
  split at hdir
  · simp at hdir
  · next dir hgiven =>
    split at hquery
    · simp at hquery
    · next name hname =>
      split_ifs at hdir hquery with hthere hknown
      obtain ⟨q, hq⟩ := Option.isSome_iff_exists.mp hknown
      exact ⟨dir, q, hgiven, hname.trans (congrArg some (name_of_ofName? hq)), by simp [hname, hq]⟩

/-- The mode that arguments ask for if no session is asked for. -/
theorem ofArguments_eq (isDir : String → Bool) (ha : a.interactive = false) :
    (dirProblems isDir a.dir? ++ queryProblems a.query? ≠ [] ∧
        ofArguments isDir a = .error (dirProblems isDir a.dir? ++ queryProblems a.query?)) ∨
      ∃ dir q, a.dir? = some dir ∧ a.query? = some q.name ∧
        dirProblems isDir a.dir? ++ queryProblems a.query? = [] ∧
        ofArguments isDir a = .ok (.batch { dir, query := q, threshold := a.threshold }) := by
  rw [ofArguments, if_neg (by simp [ha])]
  by_cases hnone : dirProblems isDir a.dir? ++ queryProblems a.query? = []
  · obtain ⟨dir, q, hdir, hquery, hq⟩ := exists_request hnone
    refine .inr ⟨dir, q, hdir, hquery, hnone, ?_⟩
    rw [hnone, hq, hdir]
  · refine .inl ⟨hnone, ?_⟩
    split
    · next heq _ _ => exact absurd heq hnone
    · rfl

end Mode

/-! ## Lines that are no text -/

namespace Console

/-- The lines up to the first exit command, with that line itself. -/
def upToExit : List (List UInt8) → List (List UInt8)
  | [] => []
  | l :: ls => if (decode? (content l)).any (· ∈ Command.exitWords) then [l] else l :: upToExit ls

/-- A session is cut short just when one of the lines up to the first exit command is no valid text. -/
theorem ending_ne_invalid_iff (ls : List (List UInt8)) :
    (script ls).ending ≠ .invalid ↔ ∀ l ∈ upToExit ls, (decode? l).isSome = true := by
  induction ls with
  | nil => simp [script, upToExit]
  | cons l ls ih =>
    have hl := isSome_decode?_content l
    cases hd : decode? (content l) with
    | none =>
      rw [hd, Option.isSome_none] at hl
      simp [script, upToExit, hd, ← hl]
    | some text =>
      rw [hd, Option.isSome_some] at hl
      by_cases hends : text ∈ Command.exitWords
      · simp [script, upToExit, hd, hends, ← hl]
      · simp [script, upToExit, hd, hends, ← hl, ih]

/-- A session that is cut short has performed the lines before the first one that is no valid text. -/
theorem exists_split_of_invalid {ls : List (List UInt8)} (h : (script ls).ending = .invalid) :
    ∃ before bad after, ls = before ++ bad :: after ∧ decode? bad = none ∧
      (∀ l ∈ before, ∃ text, decode? (content l) = some text ∧ text ∉ Command.exitWords) ∧
      (script ls).texts = before.filterMap fun l => decode? (content l) := by
  induction ls with
  | nil => simp [script] at h
  | cons l ls ih =>
    cases hd : decode? (content l) with
    | none =>
      refine ⟨[], l, ls, rfl, ?_, by simp, by simp [script, hd]⟩
      have hl := isSome_decode?_content l
      simpa [hd] using hl
    | some text =>
      by_cases hends : text ∈ Command.exitWords
      · simp [script, hd, hends] at h
      · have hscript : script (l :: ls) = { script ls with texts := text :: (script ls).texts } := by
          simp [script, hd, hends]
        rw [hscript] at h
        obtain ⟨before, bad, after, rfl, hbad, hgood, htexts⟩ := ih h
        refine ⟨l :: before, bad, after, rfl, hbad, ?_, ?_⟩
        · exact List.forall_mem_cons.mpr ⟨⟨text, hd, hends⟩, hgood⟩
        · rw [hscript, List.filterMap_cons, hd]
          exact congrArg (text :: ·) htexts

end Console

namespace Program

open Sink (bytesOf)

/-! ## What a run asks for -/

/-- The program, with any provider of units in the place of its disk. -/
def ask {m : Type → Type} {ε : Type} [Monad m] (provider : Provider m ε) (d : Disk)
    (args : List String) (input : List UInt8) : m Result :=
  match modeOf d args with
  | .error r => pure r
  | .ok .interactive => ofOutcome <$> Console.run provider {} input
  | .ok (.batch request) => ofReport <$> Batch.run provider request {}

theorem run_eq_ask (d : Disk) (args : List String) (input : List UInt8) :
    run d args input = (ask (d.provider (settings d)) d args input).run := by
  rw [run, runWith, ask]
  cases modeOf d args with
  | error r => rfl
  | ok mode => cases mode <;> rfl

/-- The text about unusable arguments. -/
theorem complaint_eq (message : String) :
    complaint (configurationMessage message) =
      "error: Configuration error: " ++ message ++
        "\n\nUsage: classlens [OPTIONS]\n\nFor more information, try '--help'.\n" := by
  have hrest : "\n" ++ "\n".intercalate ["", usage, "", "For more information, try '--help'.", ""] =
      "\n\nUsage: classlens [OPTIONS]\n\nFor more information, try '--help'.\n" := by
    decide +kernel
  have hstart : "error: Configuration error: " = "error: " ++ "Configuration error: " := rfl
  unfold complaint configurationMessage
  rw [String.intercalate_cons_of_ne_nil (by simp), hstart, ← hrest]
  simp only [String.append_assoc]

/-! ## The three kinds of runs -/

/-- A run that holds a session: it leaves what the session writes, and fails just when a line up to the first exit
command is no valid text. Then it has written the answers to the lines before that one, and its prompt. -/
structure HoldsSession (d : Disk) (input : List UInt8) (r : Result) : Prop where
  output : r.output = (Console.run (d.provider (settings d)) {} input).run.sink.written
  code : r.code = 0 ↔
    ∀ l ∈ Console.upToExit (Console.lines input), (Console.decode? l).isSome = true
  errors : r.code = 0 → r.errors = ""
  cut : r.code ≠ 0 → ∃ before bad after, Console.lines input = before ++ bad :: after ∧
    Console.decode? bad = none ∧
    (∀ l ∈ before, ∃ text,
      Console.decode? (Console.content l) = some text ∧ text ∉ Command.exitWords) ∧
    let texts := before.filterMap fun l => Console.decode? (Console.content l)
    let turns := (Session.turns (d.provider (settings d)) {} (texts.map .line)).run
    r = { code := 1
          output := bytesOf (String.join (turns.map Console.spoken) ++ "> ")
          errors := "Error: Interactive session failed: stream did not contain valid UTF-8\n" }

/-- A run that complains: it names the problems with its arguments, the one with the directory first, and how the
program is used. No provider is asked for anything. -/
structure Complains (d : Disk) (args : List String) (a : Arguments) (input : List UInt8)
    (problems : List Mode.Problem) (r : Result) : Prop where
  some_problem : problems ≠ []
  found : ∀ p, p ∈ problems ↔ Mode.Found d.isDir a p
  dir_first : problems.Pairwise fun p q => p.aboutDir = true ∧ q.aboutDir = false
  result : r = {
    code := 1
    output := []
    errors := "error: Configuration error: " ++ "; ".intercalate (problems.map (·.message)) ++
      "\n\nUsage: classlens [OPTIONS]\n\nFor more information, try '--help'.\n" }
  asks_nothing : ∀ {m : Type → Type} {ε : Type} [Monad m] (provider : Provider m ε),
    ask provider d args input = pure r

/-- A run that reports: it asks once, for the directory, and leaves the report on the units among the answers. -/
structure Reports (d : Disk) (args : List String) (a : Arguments) (input : List UInt8)
    (dir : String) (q : Report.Query) (r : Result) : Prop where
  names_dir : a.dir? = some dir
  names_query : a.query? = some q.name
  result : r = {
    code := 0
    output := bytesOf (Report.render (q.run (keptUnits (d.load (settings d) dir)) a.threshold))
    errors := "" }
  asks_once : ∀ {m : Type → Type} {ε : Type} [Monad m] [LawfulMonad m] (provider : Provider m ε),
    ask provider d args input = (fun answers =>
      { code := 0
        output := bytesOf (Report.render (q.run (keptUnits answers) a.threshold))
        errors := "" }) <$> provider dir

section Runs

variable {d : Disk} {args : List String} {a : Arguments}

theorem modeOf_of_read (h : Arguments.read args = .ok a) :
    modeOf d args =
      match Mode.ofArguments d.isDir a with
      | .ok mode => .ok mode
      | .error problems =>
        .error
          { code := exitConfigError
            errors := complaint (configurationMessage (Mode.problemsMessage problems)) } := by
  unfold modeOf
  exact h ▸ rfl

theorem ask_of_problems (h : Arguments.read args = .ok a) {problems : List Mode.Problem}
    (hproblems : Mode.ofArguments d.isDir a = .error problems) {m : Type → Type} {ε : Type} [Monad m]
    (provider : Provider m ε) (input : List UInt8) :
    ask provider d args input = pure {
      code := 1
      output := []
      errors := "error: Configuration error: " ++ "; ".intercalate (problems.map (·.message)) ++
        "\n\nUsage: classlens [OPTIONS]\n\nFor more information, try '--help'.\n" } := by
  rw [ask, modeOf_of_read h, hproblems, ← complaint_eq]
  rfl

theorem ask_of_request (h : Arguments.read args = .ok a) {request : Batch.Request}
    (hmode : Mode.ofArguments d.isDir a = .ok (.batch request)) {m : Type → Type} {ε : Type} [Monad m]
    [LawfulMonad m] (provider : Provider m ε) (input : List UInt8) :
    ask provider d args input = (fun answers =>
      { code := 0
        output := bytesOf
          (Report.render (request.query.run (keptUnits answers) request.threshold))
        errors := "" }) <$> provider request.dir := by
  rw [ask, modeOf_of_read h, hmode]
  dsimp only
  rw [Batch.run_eq_writeBytes, Functor.map_map]
  simp only [ofReport_writeBytes]
  rfl

theorem run_of_interactive (h : Arguments.read args = .ok a) (ha : a.interactive = true)
    (input : List UInt8) :
    run d args input = ofOutcome (Console.run (d.provider (settings d)) {} input).run := by
  have hmode : Mode.ofArguments d.isDir a = .ok .interactive := by simp [Mode.ofArguments, ha]
  rw [run, runWith, modeOf_of_read h, hmode]
  rfl

theorem output_ofOutcome (o : Console.Outcome) : (ofOutcome o).output = o.sink.written := by
  unfold ofOutcome
  split <;> rfl

theorem code_ofOutcome_eq_zero_iff (o : Console.Outcome) :
    (ofOutcome o).code = 0 ↔ o.failure = none := by
  unfold ofOutcome
  split
  · next hnone => exact iff_of_true rfl hnone
  · next hsome => exact iff_of_false (show exitFailure ≠ 0 by decide) (by simp [hsome])

theorem failure_eq_none_iff (e : Console.Ending) : e.failure = none ↔ e ≠ .invalid := by
  cases e <;> simp [Console.Ending.failure]

theorem holdsSession (d : Disk) (input : List UInt8) :
    HoldsSession d input (ofOutcome (Console.run (d.provider (settings d)) {} input).run) := by
  have hrun : (Console.run (d.provider (settings d)) {} input).run =
      let sc := Console.script (Console.lines input)
      Console.outcome [] sc
        (Session.turns (d.provider (settings d)) {} (sc.texts.map .line)).run := by
    rw [Console.run, Console.runFrom_eq_outcome]
    rfl
  have hfailure : (Console.run (d.provider (settings d)) {} input).run.failure =
      (Console.script (Console.lines input)).ending.failure := by
    rw [hrun]
    rfl
  refine ⟨output_ofOutcome _, ?_, fun hcode => ?_, fun hcode => ?_⟩
  · rw [code_ofOutcome_eq_zero_iff, hfailure, failure_eq_none_iff, Console.ending_ne_invalid_iff]
  · rw [code_ofOutcome_eq_zero_iff] at hcode
    simp [ofOutcome, hcode]
  · rw [ne_eq, code_ofOutcome_eq_zero_iff, hfailure, failure_eq_none_iff, not_not] at hcode
    obtain ⟨before, bad, after, hlines, hbad, hgood, htexts⟩ :=
      Console.exists_split_of_invalid hcode
    refine ⟨before, bad, after, hlines, hbad, hgood, ?_⟩
    rw [hrun]
    dsimp only
    rw [← htexts, Console.outcome, hcode]
    rfl

end Runs

/-- **What a run leaves**, for all arguments that are read.  If a session is asked for, it is held, whatever else is
given.  Otherwise the run fails just when there is a problem with the directory or the query; it names all problems
and asks for no units.  Without a problem it succeeds with the report on the units of the directory. -/
theorem outcome_of_arguments (d : Disk) {args : List String} {a : Arguments}
    (h : Arguments.read args = .ok a) (input : List UInt8) :
    (a.interactive = true → HoldsSession d input (run d args input)) ∧
      (a.interactive = false →
        ((run d args input).code = 1 ↔ ∃ p, Mode.Found d.isDir a p) ∧
        ((∃ p, Mode.Found d.isDir a p) →
          ∃ problems, Complains d args a input problems (run d args input)) ∧
        ((¬ ∃ p, Mode.Found d.isDir a p) →
          ∃ dir q, Reports d args a input dir q (run d args input))) := by
  refine ⟨fun ha => run_of_interactive h ha input ▸ holdsSession d input, fun ha => ?_⟩
  obtain ⟨hproblems, hmode⟩ | ⟨dir, q, hdir, hquery, hnone, hmode⟩ := Mode.ofArguments_eq d.isDir ha
  · obtain ⟨p, hp⟩ := List.exists_mem_of_ne_nil _ hproblems
    have hfound : ∃ p, Mode.Found d.isDir a p := ⟨p, Mode.mem_problems_iff.mp hp⟩
    have hrun := (run_eq_ask d args input).trans
      (congrArg Id.run (ask_of_problems h hmode (d.provider (settings d)) input))
    refine ⟨iff_of_true (congrArg Result.code hrun) hfound, fun _ => ?_, fun hnot => absurd hfound hnot⟩
    refine ⟨_, hproblems, fun _ => Mode.mem_problems_iff, Mode.pairwise_problems _ _, hrun, ?_⟩
    intro m ε _ provider
    rw [hrun, ask_of_problems h hmode provider input]
    rfl
  · have hnot : ¬ ∃ p, Mode.Found d.isDir a p := by
      rintro ⟨p, hp⟩
      have hmem := Mode.mem_problems_iff.mpr hp
      simp [hnone] at hmem
    have hrun := (run_eq_ask d args input).trans
      (congrArg Id.run (ask_of_request h hmode (d.provider (settings d)) input))
    have hcode : (run d args input).code = 0 := congrArg Result.code hrun
    refine ⟨iff_of_false (by simp [hcode]) hnot, fun hfound => absurd hfound hnot, fun _ => ?_⟩
    exact ⟨dir, q, hdir, hquery, hrun, fun provider => ask_of_request h hmode provider input⟩

/-- A session that ignores its query and stops at a line that is no text, a directory that is a file, and a report. -/
theorem outcome_sampleDisk :
    (∀ input, HoldsSession sampleDisk input
      (run sampleDisk ["--query", "xx", "--interactive"] input)) ∧
      (run sampleDisk ["--query", "xx", "--interactive"] [0xff, 10]).code ≠ 0 ∧
      (run sampleDisk ["--dir=a b/A.java", "--query", "MC"] []).code = 1 ∧
      ∃ dir q, Reports sampleDisk ["--dir", "a b", "--query=mcp", "--threshold", "+2"]
        { dir? := some "a b", query? := some "mcp", threshold? := some 2 } [] dir q
        (run sampleDisk ["--dir", "a b", "--query=mcp", "--threshold", "+2"] []) := by
  have hsession : Arguments.read ["--query", "xx", "--interactive"] =
      .ok { query? := some "xx", interactive := true } := by decide +kernel
  have hfile : Arguments.read ["--dir=a b/A.java", "--query", "MC"] =
      .ok { dir? := some "a b/A.java", query? := some "MC" } := by decide +kernel
  have hreport : Arguments.read ["--dir", "a b", "--query=mcp", "--threshold", "+2"] =
      .ok { dir? := some "a b", query? := some "mcp", threshold? := some 2 } := by decide +kernel
  have hsessions (input : List UInt8) :=
    (outcome_of_arguments sampleDisk hsession input).1 rfl
  refine ⟨hsessions, fun hcode => ?_, ?_, ?_⟩
  · exact absurd ((hsessions [0xff, 10]).code.mp hcode) (by decide +kernel)
  · have hname : "MC" ∉ ["mc", "mcp", "st"] := by decide
    exact ((outcome_of_arguments sampleDisk hfile []).2 rfl).1.mpr ⟨_, .unknownQuery rfl hname⟩
  · refine ((outcome_of_arguments sampleDisk hreport []).2 rfl).2.2 ?_
    have hdir : sampleDisk.isDir "a b" = true := by decide +kernel
    rintro ⟨p, hp⟩
    cases hp with
    | dirMissing h => simp at h
    | notDirectory h hnot =>
      obtain rfl := Option.some.inj h
      simp [hdir] at hnot
    | queryMissing h => simp at h
    | unknownQuery h hname =>
      obtain rfl := Option.some.inj h
      simp at hname

end Program

end TypeCensus
