import TypeCensus.Session

/-!
# Run — the turns of a session

A session takes lines and commands, one after the other, until an exit command.  All that it does is settled by the
entries and by what the provider answers to the loads among them.

* `perform_eq`: what one step does.  Only a load asks the provider and replaces the units.
* `turns_eq`: a run asks the provider once for every load, in order, and for nothing else; every turn follows from
  its own entry and from the units of the last load.
* `turns_kept`: entries that only ask, and refused lines, can be left out.
-/

namespace TypeCensus.Session

/-! ## Entries -/

/-- What is given to a session. -/
inductive Entry where
  | line (text : String)
  | command (c : Command)
deriving DecidableEq, Repr

namespace Entry

/-- The command of an entry, or why its line is refused. -/
def reading : Entry → Except Command.Rejection Command
  | line text => Command.read text
  | command c => .ok c

/-- The path that an entry loads. -/
def path? (e : Entry) : Option String :=
  match e.reading with
  | .ok (.load path) => some path
  | _ => none

/-- Whether an entry is an exit command. -/
def ends (e : Entry) : Bool :=
  match e.reading with
  | .ok .exit => true
  | _ => false

/-- Whether an entry is a refused line or a command that neither loads nor ends. -/
def idle (e : Entry) : Bool :=
  match e.reading with
  | .error _ | .ok .help | .ok .list | .ok (.manyConstructors _) => true
  | .ok .exit | .ok (.load _) => false

/-- The answer to an entry when some units are loaded; a load itself counts. -/
def answer (e : Entry) (loaded : Option (List CompilationUnit)) : List String :=
  match e.reading with
  | .error r => [r.message]
  | .ok .help => [helpText]
  | .ok .exit => [farewell]
  | .ok .list => listing ⟨loaded⟩
  | .ok (.load path) => [loadedMessage (loaded.getD []).length path]
  | .ok (.manyConstructors t) =>
    (Report.manyConstructors (loaded.getD []) t).map Report.Line.render

/-- The turn of an entry when some units are loaded. -/
def turn (e : Entry) (loaded : Option (List CompilationUnit)) : Turn :=
  if e.ends then .halt (e.answer loaded) else .goOn (e.answer loaded) ⟨loaded⟩

theorem path?_of_ends {e : Entry} (h : e.ends = true) : e.path? = none := by
  unfold ends at h
  unfold path?
  split at h
  · next hr => rw [hr]
  · simp at h

theorem ends_of_path? {e : Entry} {path : String} (h : e.path? = some path) : e.ends = false := by
  cases hends : e.ends with
  | false => rfl
  | true => simp [path?_of_ends hends] at h

theorem path?_of_idle {e : Entry} (h : e.idle = true) : e.path? = none := by
  unfold idle at h
  unfold path?
  split at h <;> simp_all

theorem ends_of_idle {e : Entry} (h : e.idle = true) : e.ends = false := by
  unfold idle at h
  unfold ends
  split at h <;> simp_all

end Entry

/-! ## Steps -/

section Steps

variable {m : Type → Type} {ε : Type} [Monad m] (provider : Provider m ε)

/-- One step of a session. -/
def perform (s : Session) : Entry → m Turn
  | .line text => s.step provider text
  | .command c => s.execute provider c

/-- What one step does: only a load asks the provider, and only a load replaces the units. -/
theorem perform_eq [LawfulMonad m] (s : Session) (e : Entry) :
    s.perform provider e =
      match e.path? with
      | some path => (fun answers => e.turn (some (keptUnits answers))) <$> provider path
      | none => pure (e.turn s.units?) := by
  have hcommand (c : Command) (h : e.reading = .ok c) : s.execute provider c =
      match e.path? with
      | some path => (fun answers => e.turn (some (keptUnits answers))) <$> provider path
      | none => pure (e.turn s.units?) := by
    cases c with
    | load path =>
      simp only [execute, Entry.path?, Entry.turn, Entry.ends, Entry.answer, h]
      rw [bind_pure_comp]
      rfl
    | _ => simp [execute, Entry.path?, Entry.turn, Entry.ends, Entry.answer, h, farewellTurn, units]
  cases e with
  | command c => exact hcommand c rfl
  | line text =>
    simp only [perform, step]
    split
    · next c h => exact hcommand c h
    · next r h => simp [Entry.path?, Entry.turn, Entry.ends, Entry.answer, Entry.reading, h]

/-- The turns of some entries, from a session on, up to the first that halts. -/
def turns : Session → List Entry → m (List Turn)
  | _, [] => pure []
  | s, e :: es => do
    match ← s.perform provider e with
    | .goOn output s => (Turn.goOn output s :: ·) <$> turns s es
    | .halt output => pure [.halt output]

variable {provider} [LawfulMonad m]

theorem perform_of_ends (s : Session) {e : Entry} (h : e.ends = true) :
    s.perform provider e = pure (.halt (e.answer s.units?)) := by
  simp [perform_eq, Entry.path?_of_ends h, Entry.turn, h]

theorem turns_cons_of_ends (s : Session) {e : Entry} (es : List Entry) (h : e.ends = true) :
    turns provider s (e :: es) = pure [e.turn s.units?] := by
  simp [turns, perform_of_ends s h, Entry.turn, h]

theorem turns_cons_of_stays (s : Session) {e : Entry} (es : List Entry) (hends : e.ends = false)
    (hpath : e.path? = none) :
    turns provider s (e :: es) = (e.turn s.units? :: ·) <$> turns provider s es := by
  simp [turns, perform_eq, hpath, Entry.turn, hends]

theorem turns_cons_of_loads (s : Session) {e : Entry} (es : List Entry) {path : String}
    (h : e.path? = some path) :
    turns provider s (e :: es) = provider path >>= fun answers =>
      (e.turn (some (keptUnits answers)) :: ·) <$> turns provider ⟨some (keptUnits answers)⟩ es := by
  simp [turns, perform_eq, h, Entry.turn, Entry.ends_of_path? h]

/-- An entry that is no exit command lets the session go on. -/
theorem exists_perform_eq_goOn (provider : Provider m ε) (s : Session) {e : Entry}
    (h : e.ends = false) :
    ∃ x : m (List String × Session), s.perform provider e = (fun p => .goOn p.1 p.2) <$> x := by
  rw [perform_eq]
  cases e.path? with
  | none =>
    refine ⟨pure (e.answer s.units?, s), ?_⟩
    simp [Entry.turn, h]
  | some path =>
    refine ⟨(fun answers => (e.answer (some (keptUnits answers)), ⟨some (keptUnits answers)⟩)) <$>
      provider path, ?_⟩
    simp [Entry.turn, h]

theorem turns_cons_of_perform {s : Session} {e : Entry} {x : m (List String × Session)}
    (h : s.perform provider e = (fun p => .goOn p.1 p.2) <$> x) (es : List Entry) :
    turns provider s (e :: es) =
      x >>= fun p => (Turn.goOn p.1 p.2 :: ·) <$> turns provider p.2 es := by
  rw [turns, h, bind_map_left]

end Steps

/-! ## Runs -/

/-- The entries that are performed: those up to the first exit command. -/
def heeded : List Entry → List Entry
  | [] => []
  | e :: es => if e.ends then [e] else e :: heeded es

/-- The paths that some entries load. -/
def paths (es : List Entry) : List String := es.filterMap Entry.path?

/-- The units loaded once the entry of a number is performed: what is kept of the answer to the last load up to
there, or else the units loaded at the start. -/
def loadedAt {ε : Type} (start : Option (List CompilationUnit)) (es : List Entry)
    (answers : List (List (Except ε CompilationUnit))) (i : Nat) : Option (List CompilationUnit) :=
  ((answers.take (paths (es.take (i + 1))).length).getLast?.map keptUnits) <|> start

/-- The turns that follow from the answers to the loads. -/
def turnsOf {ε : Type} (start : Option (List CompilationUnit)) (es : List Entry)
    (answers : List (List (Except ε CompilationUnit))) : List Turn :=
  es.mapIdx fun i e => e.turn (loadedAt start es answers i)

section Runs

variable {ε : Type} {start : Option (List CompilationUnit)} {e : Entry} {es : List Entry}
  {answers : List (List (Except ε CompilationUnit))}

theorem turnsOf_cons_of_stays (h : e.path? = none) :
    turnsOf start (e :: es) answers = e.turn start :: turnsOf start es answers := by
  have hat (i : Nat) : loadedAt start (e :: es) answers (i + 1) = loadedAt start es answers i := by
    simp [loadedAt, paths, h]
  simp only [turnsOf, List.mapIdx_cons, hat]
  simp [loadedAt, paths, h]

theorem turnsOf_cons_of_loads {path : String} (h : e.path? = some path)
    {a : List (Except ε CompilationUnit)} :
    turnsOf start (e :: es) (a :: answers) =
      e.turn (some (keptUnits a)) :: turnsOf (some (keptUnits a)) es answers := by
  have hat (i : Nat) : loadedAt start (e :: es) (a :: answers) (i + 1) =
      loadedAt (some (keptUnits a)) es answers i := by
    simp only [loadedAt, paths, List.take_succ_cons, List.filterMap_cons_some h, List.length_cons,
      List.getLast?_cons]
    cases (answers.take (paths (es.take (i + 1))).length).getLast? <;> simp
  simp only [turnsOf, List.mapIdx_cons, hat]
  simp [loadedAt, paths, h]

end Runs

/-- A run asks the provider for the path of every load, in order, and for nothing else; all turns follow from the
answers. -/
theorem turns_eq {m : Type → Type} {ε : Type} [Monad m] [LawfulMonad m] (provider : Provider m ε)
    (s : Session) (es : List Entry) :
    turns provider s es =
      turnsOf s.units? (heeded es) <$> (paths (heeded es)).mapM provider := by
  induction es generalizing s with
  | nil => simp [turns, heeded, paths, turnsOf]
  | cons e es ih =>
    by_cases hends : e.ends = true
    · have hpath := Entry.path?_of_ends hends
      have hheeded : heeded (e :: es) = [e] := by simp [heeded, hends]
      have hpaths : paths [e] = [] := by simp [paths, hpath]
      rw [turns_cons_of_ends s es hends, hheeded, hpaths, List.mapM_nil, map_pure,
        turnsOf_cons_of_stays hpath]
      rfl
    · have hheeded : heeded (e :: es) = e :: heeded es := by simp [heeded, hends]
      rw [Bool.not_eq_true] at hends
      rw [hheeded]
      cases hpath : e.path? with
      | none =>
        have hpaths : paths (e :: heeded es) = paths (heeded es) := by simp [paths, hpath]
        rw [turns_cons_of_stays s es hends hpath, ih, hpaths, Functor.map_map]
        congr 1
        funext answers
        exact (turnsOf_cons_of_stays hpath).symm
      | some path =>
        have hpaths : paths (e :: heeded es) = path :: paths (heeded es) := by simp [paths, hpath]
        rw [turns_cons_of_loads s es hpath, hpaths, List.mapM_cons, map_bind]
        congr 1
        funext a
        rw [ih, Functor.map_map, bind_pure_comp, Functor.map_map]
        simp only [turnsOf_cons_of_loads hpath]

/-! ## Leaving out idle entries -/

/-- The session that some turns lead to; none after the end. -/
def sessionAfter (s : Session) (ts : List Turn) : Option Session :=
  match ts.getLast? with
  | none => some s
  | some (.goOn _ s) => some s
  | some (.halt _) => none

/-- The entries of a script that are not left out. -/
def kept (script : List (Entry × Bool)) : List Entry := (script.filter (·.2)).map (·.1)

/-- The turns of a whole script that belong to entries that are not left out. -/
def keptTurns (script : List (Entry × Bool)) (ts : List Turn) : List Turn :=
  ((script.zip ts).filter (·.1.2)).map (·.2)

theorem sessionAfter_cons_goOn (s s' : Session) (output : List String) (ts : List Turn) :
    sessionAfter s (.goOn output s' :: ts) = sessionAfter s' ts := by
  cases ts with
  | nil => rfl
  | cons t ts =>
    simp only [sessionAfter, List.getLast?_cons, Option.getD_some]
    cases ts.getLast?.getD t <;> rfl

theorem turn_of_stays {e : Entry} (h : e.ends = false) (loaded : Option (List CompilationUnit)) :
    e.turn loaded = .goOn (e.answer loaded) ⟨loaded⟩ := by
  simp [Entry.turn, h]

section Kept

variable {m : Type → Type} {ε : Type} [Monad m] [LawfulMonad m] {provider : Provider m ε}

/-- One more turn before two runs that agree. -/
theorem map_cons_goOn_congr {s s' : Session} {output : List String} {es : List Entry}
    {script : List (Entry × Bool)}
    (h : (fun ts => (ts, sessionAfter s' ts)) <$> turns provider s' (kept script) =
      (fun ts => (keptTurns script ts, sessionAfter s' ts)) <$> turns provider s' es) (e : Entry) :
    (fun ts => (ts, sessionAfter s ts)) <$>
        ((Turn.goOn output s' :: ·) <$> turns provider s' (kept script)) =
      (fun ts => (keptTurns ((e, true) :: script) ts, sessionAfter s ts)) <$>
        ((Turn.goOn output s' :: ·) <$> turns provider s' es) := by
  have hmap := congrArg (fun x => (fun p => (Turn.goOn output s' :: p.1, p.2)) <$> x) h
  simp only [Functor.map_map] at hmap
  simpa [sessionAfter_cons_goOn, keptTurns] using hmap

/-- Idle entries may be left out: the other turns and the session at the end stay the same. -/
theorem turns_kept (s : Session) (script : List (Entry × Bool))
    (h : ∀ p ∈ script, p.2 = false → p.1.idle = true) :
    (fun ts => (ts, sessionAfter s ts)) <$> turns provider s (kept script) =
      (fun ts => (keptTurns script ts, sessionAfter s ts)) <$>
        turns provider s (script.map (·.1)) := by
  induction script generalizing s with
  | nil => simp [kept, turns, keptTurns]
  | cons p script ih =>
    obtain ⟨e, keep⟩ := p
    have htail (s : Session) := ih s fun p hp => h p (List.mem_cons_of_mem _ hp)
    cases keep with
    | false =>
      have hidle : e.idle = true := h (e, false) List.mem_cons_self rfl
      have hends := Entry.ends_of_idle hidle
      have hkept : kept ((e, false) :: script) = kept script := by simp [kept]
      rw [hkept, htail, List.map_cons,
        turns_cons_of_stays s _ hends (Entry.path?_of_idle hidle), Functor.map_map]
      congr 1
      funext ts
      rw [turn_of_stays hends, sessionAfter_cons_goOn]
      simp [keptTurns]
    | true =>
      have hkept : kept ((e, true) :: script) = e :: kept script := by simp [kept]
      rw [hkept, List.map_cons]
      by_cases hends : e.ends = true
      · rw [turns_cons_of_ends s _ hends, turns_cons_of_ends s _ hends]
        simp [keptTurns]
      · obtain ⟨x, hx⟩ := exists_perform_eq_goOn provider s (by simpa using hends)
        rw [turns_cons_of_perform hx, turns_cons_of_perform hx, map_bind, map_bind]
        congr 1
        funext p
        exact map_cons_goOn_congr (htail p.2) e

end Kept

/-- **Runs from the empty session.**  The provider is asked for the loads that precede the first exit command, and
for nothing else.  The turn of every entry up to that command follows from the entry and from what is kept of the
answer to the last load.  Leaving out idle entries changes no other turn and not the session at the end. -/
theorem turns_determined_by_loads {m : Type → Type} {ε : Type} [Monad m] [LawfulMonad m]
    (provider : Provider m ε) :
    (∀ es, turns provider {} es =
      (fun answers => (heeded es).mapIdx fun i e => e.turn (loadedAt none (heeded es) answers i)) <$>
        (paths (heeded es)).mapM provider) ∧
    ∀ script : List (Entry × Bool), (∀ p ∈ script, p.2 = false → p.1.idle = true) →
      (fun ts => (ts, sessionAfter {} ts)) <$> turns provider {} (kept script) =
        (fun ts => (keptTurns script ts, sessionAfter {} ts)) <$>
          turns provider {} (script.map (·.1)) :=
  ⟨fun es => turns_eq provider {} es, fun script h => turns_kept {} script h⟩

/-- A provider that finds one more unit whenever it is asked. -/
def growing : Provider (StateM Nat) String := fun path => do
  let n ← getModify (· + 1)
  pure (.error path :: List.replicate n (.ok ⟨path, none, []⟩))

/-- A script with refused lines and questions between its loads. -/
def sampleScript : List (Entry × Bool) := [
  (.line "lst", false), (.line "load \"a\"", true), (.line "list", true), (.command .help, false),
  (.line "load \"b", false), (.command (.load "b"), true), (.line "mc th 0", false),
  (.line "list", true), (.line "q", true), (.line "list", false)]

theorem turns_sampleScript :
    (∀ p ∈ sampleScript, p.2 = false → p.1.idle = true) ∧
      (fun ts => (ts, sessionAfter {} ts)) <$> turns growing {} (kept sampleScript) =
        (fun ts => (keptTurns sampleScript ts, sessionAfter {} ts)) <$>
          turns growing {} (sampleScript.map (·.1)) := by
  have h : ∀ p ∈ sampleScript, p.2 = false → p.1.idle = true := by decide
  exact ⟨h, (turns_determined_by_loads growing).2 sampleScript h⟩

end TypeCensus.Session
