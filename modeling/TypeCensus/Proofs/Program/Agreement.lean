import TypeCensus.Proofs.Batch.Capacity
import TypeCensus.Proofs.CommandLine.Options
import TypeCensus.Proofs.Console.Texts
import TypeCensus.Proofs.Loading.Isolation

/-!
# Agreement — a batch run and a session that asks the same

A batch run writes the report that a session gives, once it has loaded the same directory, to the same question.  This
is so however sources are read, so it is stated of any reader.

* `run_request`: what a batch run leaves.
* `run_interactive`: what a session leaves whose input is written line by line.
* `batch_agrees_with_session`: both, for every directory and every threshold.
-/

namespace TypeCensus.Program

open Command (Digits numeral)
open Report (render_eq_textOf)
open Sink (bytesOf textOf)

variable (reader : Reader)

/-! ## Batch runs -/

/-- What is left of a report that is written without a limit. -/
theorem ofReport_writeBytes (bs : List UInt8) :
    ofReport (Sink.writeBytes {} bs) = { code := exitSuccess, output := bs } := rfl

/-- What a batch run leaves. -/
theorem run_request {d : Disk} {dir value : String} (hdir : d.isDir dir = true)
    (hplain : Arguments.Plain dir) (hvalue : Arguments.Plain value) (q : Report.Query)
    (input : List UInt8) :
    runWith reader d ["--dir", dir, "--query", q.name, "--threshold", value] input =
      match Arguments.readThreshold value with
      | .ok t =>
        { code := exitSuccess
          output := bytesOf (Report.render (q.run (keptUnits (d.loadWith reader (settings d) dir)) t)) }
      | .error fault => stopped (.refused (.invalidNumber value fault)) := by
  have hne : dir ≠ "" := by
    rintro rfl
    simp [Disk.isDir, Disk.find?, Disk.resolve?] at hdir
  have hquery : Arguments.Plain q.name := by cases q <;> decide
  rw [runWith, modeOf, Arguments.read_request hplain hne hquery hvalue]
  cases Arguments.readThreshold value with
  | error fault => rfl
  | ok t =>
    dsimp only
    rw [Mode.ofArguments_request hdir]
    dsimp only [runModeWith]
    rw [Batch.run_eq_writeBytes]
    exact ofReport_writeBytes _

/-! ## Sessions -/

/-- What a session leaves whose input is written line by line. -/
theorem run_interactive (d : Disk) {texts : List String} (h : ∀ text ∈ texts, Console.Heeded text) :
    runWith reader d ["--interactive"] (bytesOf (textOf texts)) =
      { code := exitSuccess
        output := bytesOf
          (String.join (((Session.turns (d.providerWith reader (settings d)) {} (texts.map .line)).run).map
            Console.spoken) ++ "> Bye!\n") } := by
  have hmode : modeOf d ["--interactive"] = .ok .interactive := by
    have hread : Arguments.read ["--interactive"] = .ok { interactive := true } := by rfl
    rw [modeOf, hread]
    rfl
  rw [runWith, hmode]
  dsimp only [runModeWith, Console.run]
  rw [Console.runFrom_eq_outcome, Console.script_textOf h]
  rfl

theorem not_exitWord {text : String} {c : Char} (hc : c ∈ text.toList)
    (hword : ∀ w ∈ Command.exitWords, c ∉ w.toList) : text ∉ Command.exitWords :=
  fun h => hword text h hc

theorem heeded_load {dir : String} (hbreak : '\n' ∉ dir.toList) :
    Console.Heeded ("load \"" ++ dir ++ "\"") where
  oneLine := by simpa using hbreak
  noReturn := by simp [List.getLast?_cons]
  goesOn := not_exitWord (c := '"') (by simp) (by decide)

theorem heeded_count {s : String} (hs : Digits s.toList) : Console.Heeded ("mc th " ++ s) where
  oneLine := by
    have hbreak : '\n' ∉ s.toList := fun h => absurd (hs.2 _ h) (by decide)
    simpa using hbreak
  noReturn := by
    obtain ⟨c, hc⟩ := Option.ne_none_iff_exists'.mp (mt List.getLast?_eq_none_iff.mp hs.1)
    have hreturn : c ≠ '\r' := by
      rintro rfl
      exact absurd (hs.2 _ (List.mem_of_getLast? hc)) (by decide)
    rw [String.toList_append, List.getLast?_append, hc]
    simpa using hreturn
  goesOn := not_exitWord (c := 'm') (by simp) (by decide)

theorem reading_load {dir : String} (hquote : '"' ∉ dir.toList) :
    (Session.Entry.line ("load \"" ++ dir ++ "\"")).reading = .ok (.load dir) := by
  have hline : "load \"" ++ dir ++ "\"" = "load" ++ " " ++ "\"" ++ dir ++ "\"" := rfl
  rw [Session.Entry.reading, hline, Command.read_eq_ok_iff]
  exact .load (by simp [Command.Gap]) hquote

/-- A query whose threshold is not too large. -/
theorem reading_count {s : String} (hs : Digits s.toList) (hn : numeral s.toList < 2 ^ 64) :
    (Session.Entry.line ("mc th " ++ s)).reading =
      .ok (.manyConstructors (.ofNat (numeral s.toList))) := by
  have hline : "mc th " ++ s = "mc" ++ " " ++ "th" ++ " " ++ s := rfl
  have hgap : Command.Gap " ".toList := by simp [Command.Gap]
  rw [Session.Entry.reading, hline, Command.read_eq_ok_iff]
  exact .manyConstructors (.inl rfl) hgap hgap hs hn

/-- A query whose threshold is too large. -/
theorem reading_count_outOfRange {s : String} (hs : Digits s.toList)
    (hn : 2 ^ 64 ≤ numeral s.toList) :
    (Session.Entry.line ("mc th " ++ s)).reading =
      .error { line := "mc th " ++ s, cause := .outOfRange s, offset := 6 } := by
  have hline : "mc th " ++ s = "mc" ++ " " ++ "th" ++ " " ++ s := rfl
  have hgap : Command.Gap " ".toList := by simp [Command.Gap]
  have hoffset : Command.byteLength ("mc" ++ " " ++ "th" ++ " ").toList = 6 := by decide
  rw [Session.Entry.reading, hline, Command.read_outOfRange (.inl rfl) hgap hgap hs hn, hoffset]

/-- What a session leaves that loads a directory and then reads one more line. -/
theorem run_load_then (d : Disk) {dir text : String} (hquote : '"' ∉ dir.toList)
    (hbreak : '\n' ∉ dir.toList) (htext : Console.Heeded text)
    (hpath : (Session.Entry.line text).path? = none) :
    let units := keptUnits (d.loadWith reader (settings d) dir)
    runWith reader d ["--interactive"] (bytesOf (textOf ["load \"" ++ dir ++ "\"", text])) =
      { code := exitSuccess
        output := bytesOf ("> Loaded " ++ toString units.length ++ " files from " ++ dir ++ "\n> " ++
          textOf ((Session.Entry.line text).answer (some units)) ++ "> Bye!\n") } := by
  have hload := reading_load hquote
  have hloads : (Session.Entry.line ("load \"" ++ dir ++ "\"")).path? = some dir := by
    rw [Session.Entry.path?, hload]
  have hends : (Session.Entry.line text).ends = false := by
    rw [Bool.eq_false_iff, ne_eq, Console.ends_line_iff]
    exact htext.goesOn
  have hloaded (us : List CompilationUnit) :
      (Session.Entry.line ("load \"" ++ dir ++ "\"")).turn (some us) =
        .goOn [Session.loadedMessage us.length dir] ⟨some us⟩ := by
    simp [Session.Entry.turn, Session.Entry.ends_of_path? hloads, Session.Entry.answer, hload]
  have hanswered (us : List CompilationUnit) :
      Session.turns (d.providerWith reader (settings d)) ⟨some us⟩ [.line text] =
        pure [.goOn ((Session.Entry.line text).answer (some us)) ⟨some us⟩] := by
    rw [Session.turns_cons_of_stays _ _ hends hpath]
    simp [Session.turns, Session.Entry.turn, hends]
  have hturns : (Session.turns (d.providerWith reader (settings d)) {}
      [.line ("load \"" ++ dir ++ "\""), .line text]).run =
      let units := keptUnits (d.loadWith reader (settings d) dir)
      [.goOn [Session.loadedMessage units.length dir] ⟨some units⟩,
        .goOn ((Session.Entry.line text).answer (some units)) ⟨some units⟩] := by
    rw [Session.turns_cons_of_loads _ _ hloads]
    simp only [hloaded, hanswered]
    rfl
  have hheeded : ∀ t ∈ ["load \"" ++ dir ++ "\"", text], Console.Heeded t := by
    simpa using ⟨heeded_load hbreak, htext⟩
  rw [run_interactive reader d hheeded, List.map_cons, List.map_singleton, hturns]
  refine congrArg (fun text => ({ code := exitSuccess, output := bytesOf text } : Result)) ?_
  apply String.toList_inj.mp
  simp [Console.spoken, Turn.output, Console.prompt, Session.loadedMessage, textOf]

/-- How a threshold that is too large is refused. -/
theorem message_outOfRange (s : String) :
    ({ line := "mc th " ++ s, cause := .outOfRange s, offset := 6 } : Command.Rejection).message =
      "Invalid command \"mc th " ++ s ++ "\": integer `" ++ s ++ "` is out of range at column 7" := by
  have hcolumn : toString (6 + 1) = "7" := rfl
  have hline : "Invalid command \"mc th " = "Invalid command \"" ++ "mc th " := rfl
  have hinteger : "\": integer `" = "\": " ++ "integer `" := rfl
  have hrange : "` is out of range at column 7" = "` is out of range" ++ " at column " ++ "7" := rfl
  unfold Command.Rejection.message Command.Rejection.detail Command.Cause.message
  dsimp only
  rw [hcolumn, hline, hinteger, hrange]
  simp only [String.append_assoc]

/-- **A batch run and a session that asks the same agree**, however sources are read.  Digits name the same threshold
to both.  If it is not too large, the session writes the report of the batch run between its second and its third
prompt, and otherwise neither writes a report: the batch run refuses its arguments, and the session refuses the
line. -/
theorem batch_agrees_with_session (d : Disk) (dir s : String) (input : List UInt8)
    (hdir : d.isDir dir = true) (hquote : '"' ∉ dir.toList) (hbreak : '\n' ∉ dir.toList)
    (hdash : Arguments.Plain dir) (hs : Digits s.toList) :
    let batch := runWith reader d ["--dir", dir, "--query", "mc", "--threshold", s] input
    let session := runWith reader d ["--interactive"] (bytesOf ("load \"" ++ dir ++ "\"\nmc th " ++ s ++ "\n"))
    let units := keptUnits (d.loadWith reader (settings d) dir)
    let opening := "> Loaded " ++ toString units.length ++ " files from " ++ dir ++ "\n> "
    (numeral s.toList < 2 ^ 64 →
      ∃ report,
        report = Report.render (Report.manyConstructors units (.ofNat (numeral s.toList))) ∧
        batch = { code := 0, output := bytesOf report } ∧
        session = { code := 0, output := bytesOf (opening ++ report ++ "> Bye!\n") }) ∧
    (2 ^ 64 ≤ numeral s.toList →
      batch.code = 1 ∧ batch.output = [] ∧
        session =
          { code := 0
            output := bytesOf (opening ++ "Invalid command \"mc th " ++ s ++ "\": integer `" ++ s ++
              "` is out of range at column 7\n> Bye!\n") }) := by
  have hinput : "load \"" ++ dir ++ "\"\nmc th " ++ s ++ "\n" =
      textOf ["load \"" ++ dir ++ "\"", "mc th " ++ s] := by
    apply String.toList_inj.mp
    simp
  have hbatch := run_request reader hdir hdash (Arguments.plain_of_digits hs) .manyConstructors input
  rw [Arguments.readThreshold_of_digits hs] at hbatch
  have hsession := run_load_then reader d hquote hbreak (heeded_count hs)
  dsimp only at hsession ⊢
  rw [hinput]
  generalize keptUnits (d.loadWith reader (settings d) dir) = units at hbatch hsession ⊢
  constructor
  · intro hn
    have hreading := reading_count hs hn
    rw [if_pos hn] at hbatch
    refine ⟨_, rfl, hbatch, ?_⟩
    rw [hsession (by rw [Session.Entry.path?, hreading]), Session.Entry.answer, hreading,
      render_eq_textOf]
    rfl
  · intro hn
    have hreading := reading_count_outOfRange hs hn
    rw [if_neg (by omega)] at hbatch
    refine ⟨congrArg Result.code hbatch, congrArg Result.output hbatch, ?_⟩
    have hanswer (opening : String) :
        opening ++ textOf ((Session.Entry.line ("mc th " ++ s)).answer units) ++ "> Bye!\n" =
          opening ++ "Invalid command \"mc th " ++ s ++ "\": integer `" ++ s ++
            "` is out of range at column 7\n> Bye!\n" := by
      have hend : "` is out of range at column 7\n> Bye!\n" =
          "` is out of range at column 7" ++ "\n" ++ "> Bye!\n" := rfl
      rw [Session.Entry.answer, hreading, Sink.textOf_cons, Sink.textOf_nil, message_outOfRange, hend]
      simp only [String.append_assoc, String.empty_append]
    refine (hsession (by rw [Session.Entry.path?, hreading])).trans ?_
    simp only [hanswer]
    rfl

/-- The concrete syntax of a class with a constructor. -/
def sampleTree : Syntax.Node :=
  .mk { kind := "program", named := true, text := "class D \x7b D() \x7b\x7d \x7d", stop := ⟨18, 0, 18⟩ }
    [.mk { kind := "class_declaration", named := true, text := "class D \x7b D() \x7b\x7d \x7d"
           stop := ⟨18, 0, 18⟩ }
      [.mk { kind := "class", named := false, text := "class", stop := ⟨5, 0, 5⟩ } [],
        .mk { kind := "identifier", named := true, label := some "name", text := "D", start := ⟨6, 0, 6⟩
              stop := ⟨7, 0, 7⟩ } [],
        .mk { kind := "class_body", named := true, label := some "body", text := "\x7b D() \x7b\x7d \x7d"
              start := ⟨8, 0, 8⟩, stop := ⟨18, 0, 18⟩ }
          [.mk { kind := "\x7b", named := false, text := "\x7b", start := ⟨8, 0, 8⟩, stop := ⟨9, 0, 9⟩ } [],
            .mk { kind := "constructor_declaration", named := true, text := "D() \x7b\x7d"
                  start := ⟨10, 0, 10⟩, stop := ⟨16, 0, 16⟩ }
              [.mk { kind := "identifier", named := true, label := some "name", text := "D"
                     start := ⟨10, 0, 10⟩, stop := ⟨11, 0, 11⟩ } [],
                .mk { kind := "formal_parameters", named := true, label := some "parameters", text := "()"
                      start := ⟨11, 0, 11⟩, stop := ⟨13, 0, 13⟩ }
                  [.mk { kind := "(", named := false, text := "(", start := ⟨11, 0, 11⟩
                         stop := ⟨12, 0, 12⟩ } [],
                    .mk { kind := ")", named := false, text := ")", start := ⟨12, 0, 12⟩
                          stop := ⟨13, 0, 13⟩ } []],
                .mk { kind := "constructor_body", named := true, label := some "body", text := "\x7b\x7d"
                      start := ⟨14, 0, 14⟩, stop := ⟨16, 0, 16⟩ }
                  [.mk { kind := "\x7b", named := false, text := "\x7b", start := ⟨14, 0, 14⟩
                         stop := ⟨15, 0, 15⟩ } [],
                    .mk { kind := "\x7d", named := false, text := "\x7d", start := ⟨15, 0, 15⟩
                          stop := ⟨16, 0, 16⟩ } []]],
            .mk { kind := "\x7d", named := false, text := "\x7d", start := ⟨17, 0, 17⟩
                  stop := ⟨18, 0, 18⟩ } []]]]

/-- A directory with a source that is no text and a class. -/
def sampleDisk : Disk where
  top := .dir [("a b", .dir [
    ("A.java", .file [0xff]),
    ("D.java", .file "class D \x7b D() \x7b\x7d \x7d".toUTF8.data.toList)])]

/-- The unit of the class. -/
def sampleUnit : CompilationUnit :=
  ⟨"a b/D.java", none,
    [.classLike .ordinary { Members.named "D" none with constructors := [⟨.package, "D", []⟩] }]⟩

theorem load_sampleDisk :
    keptUnits (sampleDisk.loadWith (fun _ => sampleTree) (settings sampleDisk) "a b") = [sampleUnit] := by
  have hsettings : settings sampleDisk = {} := by decide +kernel
  have hresolve : sampleDisk.resolve? "a b" = some ["a b"] := by decide +kernel
  have hwalk : sampleDisk.walk? {} [] "a b" = some ["a b/A.java", "a b/D.java"] := by
    rw [Walk.walk?_of_dir hresolve rfl, Walk.sourcesOf_dir_of_sorted _ _ _ _ _ (by decide +kernel)]
    decide +kernel
  rw [hsettings, load_of_walk _ rfl hwalk]
  decide +kernel

/-- The report that both write, for a threshold with zeros before it, and one that is too large. -/
theorem agreement_sampleDisk :
    let run := runWith (fun _ => sampleTree) sampleDisk
    run ["--dir", "a b", "--query", "mc", "--threshold", "001"] [] =
        { code := 0, output := bytesOf "D : 1\n" } ∧
      run ["--interactive"] (bytesOf "load \"a b\"\nmc th 001\n") =
        { code := 0, output := bytesOf "> Loaded 1 files from a b\n> D : 1\n> Bye!\n" } ∧
      (run ["--dir", "a b", "--query", "mc", "--threshold", "18446744073709551616"] []).code = 1 := by
  have hdir : sampleDisk.isDir "a b" = true := by decide +kernel
  have hinput : "load \"" ++ "a b" ++ "\"\nmc th " ++ "001" ++ "\n" =
      "load \"a b\"\nmc th 001\n" := rfl
  obtain ⟨hsmall, -⟩ := batch_agrees_with_session (fun _ => sampleTree) sampleDisk "a b" "001" [] hdir
    (by decide) (by decide) (by decide) ⟨by decide, by simp⟩
  obtain ⟨-, hlarge⟩ := batch_agrees_with_session (fun _ => sampleTree) sampleDisk "a b"
    "18446744073709551616" [] hdir (by decide) (by decide) (by decide) ⟨by decide, by simp⟩
  obtain ⟨report, hreport, hbatch, hsession⟩ := hsmall (by decide)
  rw [load_sampleDisk] at hreport hsession
  obtain rfl : report = "D : 1\n" := hreport.trans (by decide +kernel)
  rw [hinput] at hsession
  exact ⟨hbatch, hsession.trans (by decide +kernel), (hlarge (by decide)).1⟩

end TypeCensus.Program
