import TypeCensus.Proofs.Console.Transcript

/-!
# Capacity — a session whose sink fills up

A sink that takes only so many bytes cuts a session off in the middle.  `timeline` says of every byte of a session's
output how many lines had been read when it was written, and so where the session is cut off.

* `resultFrom_runFrom`: the loop with a sink of limited capacity, from any session on.
* `run_within_capacity`: a whole session, compared with the same session and a sink that takes everything.
-/

namespace TypeCensus.Console

/-! ## Providers with a memory -/

section State

variable {σ α β : Type}

/-- What a computation gives from a state on, and the state that it leaves. -/
def resultFrom (start : σ) (x : StateM σ α) : α × σ := (x.run start).run

@[simp] theorem resultFrom_pure (start : σ) (a : α) :
    resultFrom start (pure a) = (a, start) := rfl

@[simp] theorem resultFrom_map (start : σ) (f : α → β) (x : StateM σ α) :
    resultFrom start (f <$> x) = (f (resultFrom start x).1, (resultFrom start x).2) := rfl

@[simp] theorem resultFrom_bind (start : σ) (x : StateM σ α) (f : α → StateM σ β) :
    resultFrom start (x >>= f) = resultFrom (resultFrom start x).2 (f (resultFrom start x).1) := rfl

end State

/-! ## When each byte is written -/

/-- The bytes of a text, all written when so many lines had been read. -/
def stamp (k : Nat) (text : String) : List (UInt8 × Nat) := (Sink.bytesOf text).map (·, k)

/-- Bytes that are written one line later. -/
def later (bs : List (UInt8 × Nat)) : List (UInt8 × Nat) := bs.map fun b => (b.1, b.2 + 1)

/-- The bytes that a session writes, each with the number of lines that had been read then: the prompt comes before
its line is read, and the answer after that. -/
def timeline (e : Ending) : List Turn → List (UInt8 × Nat)
  | [] => stamp 0 e.lastWords
  | t :: ts => stamp 0 prompt ++ (stamp 1 (Sink.textOf t.output) ++ later (timeline e ts))

theorem map_fst_stamp (k : Nat) (text : String) :
    (stamp k text).map (·.1) = Sink.bytesOf text := by
  simp [stamp, Function.comp_def]

theorem map_fst_later (bs : List (UInt8 × Nat)) : (later bs).map (·.1) = bs.map (·.1) := by
  simp [later, Function.comp_def]

/-- All that is written, in order. -/
theorem map_fst_timeline (e : Ending) (ts : List Turn) :
    (timeline e ts).map (·.1) = Sink.bytesOf (String.join (ts.map spoken) ++ e.lastWords) := by
  induction ts with
  | nil => simp [timeline, map_fst_stamp]
  | cons t ts ih => simp [timeline, map_fst_stamp, map_fst_later, ih, spoken, Sink.textOf]

/-! ## Cutting off -/

section Limit

variable {σ : Type}

/-- What a session leaves, with the input that is unread and the state of the provider, if its sink takes only `n` bytes
more.  It is what the whole session leaves if they are enough, and otherwise what there was at the moment when the first
byte was written that does not fit. -/
def limit (written : List UInt8) (n : Nat) (bytes : List (UInt8 × Nat)) (whole : List UInt8 × σ)
    (failure : Option Failure) (moment : Nat → List UInt8 × σ) : Outcome × σ :=
  let sink := ((⟨written, some n⟩ : Sink).writeBytes (bytes.map (·.1))).1
  match bytes[n]? with
  | none => (⟨sink, whole.1, failure⟩, whole.2)
  | some (_, k) => (⟨sink, (moment k).1, some .sinkFull⟩, (moment k).2)

variable {written : List UInt8} {n : Nat} {whole : List UInt8 × σ} {failure : Option Failure}
  {moment : Nat → List UInt8 × σ}

theorem limit_nil :
    limit written n [] whole failure moment = (⟨⟨written, some n⟩, whole.1, failure⟩, whole.2) := by
  simp [limit, Sink.writeBytes]

/-- A text that does not fit. -/
theorem limit_stamp_of_lt {k : Nat} {text : String} (h : n < (Sink.bytesOf text).length)
    (rest : List (UInt8 × Nat)) :
    limit written n (stamp k text ++ rest) whole failure moment =
      (⟨((⟨written, some n⟩ : Sink).write text).1, (moment k).1, some .sinkFull⟩, (moment k).2) := by
  have hat : (stamp k text ++ rest)[n]? = some ((Sink.bytesOf text)[n], k) := by
    rw [List.getElem?_append_left (by simpa [stamp] using h)]
    simp [stamp, h]
  have hfull : ((⟨written, some n⟩ : Sink).write text).2 = false := by
    rw [Sink.write, Sink.writeBytes_of_lt h]
  simp only [limit, hat, List.map_append, map_fst_stamp, Sink.writeBytes_append]
  rw [Sink.writeBytes_of_full hfull]
  rfl

/-- A text that fits. -/
theorem limit_stamp_of_le {k : Nat} {text : String} (h : (Sink.bytesOf text).length ≤ n)
    (rest : List (UInt8 × Nat)) :
    limit written n (stamp k text ++ rest) whole failure moment =
      limit (written ++ Sink.bytesOf text) (n - (Sink.bytesOf text).length) rest whole failure
        moment := by
  have hat : (stamp k text ++ rest)[n]? = rest[n - (Sink.bytesOf text).length]? := by
    rw [List.getElem?_append_right (by simpa [stamp] using h)]
    simp [stamp]
  simp only [limit, hat, List.map_append, map_fst_stamp, Sink.writeBytes_append,
    Sink.writeBytes_of_le h]

/-- What comes one line later finds one more line read. -/
theorem limit_later (bs : List (UInt8 × Nat)) :
    limit written n (later bs) whole failure moment =
      limit written n bs whole failure fun k => moment (k + 1) := by
  simp only [limit, map_fst_later]
  simp only [later, List.getElem?_map]
  cases bs[n]? <;> rfl

end Limit

/-! ## The script of a session that is cut off -/

section Script

variable {σ ε : Type} (provider : Provider (StateM σ) ε)

/-- The input that is unread once so many lines are read, and the state of the provider once their texts are
performed. -/
def moment (s : Session) (start : σ) (ls : List (List UInt8)) (k : Nat) : List UInt8 × σ :=
  ((ls.drop k).flatten,
    (resultFrom start (s.turns provider (((script ls).texts.take k).map .line))).2)

/-- What is left of some lines, performed from a session on, by a sink that takes only so many bytes more. -/
def cutOff (s : Session) (start : σ) (written : List UInt8) (n : Nat) (ls : List (List UInt8)) :
    Outcome × σ :=
  let played := resultFrom start (s.turns provider ((script ls).texts.map .line))
  limit written n (timeline (script ls).ending played.1) ((script ls).unread, played.2)
    (script ls).ending.failure (moment provider s start ls)

variable {provider} {s : Session} {start : σ} {written : List UInt8} {n : Nat} {l : List UInt8}
  {ls : List (List UInt8)} {text : String}

theorem moment_zero : moment provider s start ls 0 = (ls.flatten, start) := by
  simp [moment, Session.turns]

/-- No more lines. -/
theorem cutOff_nil (hp : (Sink.bytesOf prompt).length ≤ n) :
    cutOff provider s start written n [] =
      limit (written ++ Sink.bytesOf prompt) (n - (Sink.bytesOf prompt).length)
        (stamp 0 (Sink.textOf [Session.farewell])) ([], start) none fun _ => ([], start) := by
  have htimeline : timeline .dry [] =
      stamp 0 prompt ++ stamp 0 (Sink.textOf [Session.farewell]) := by
    simp [timeline, Ending.lastWords, stamp]
  have hmoment : moment provider s start [] = fun _ => ([], start) := by
    funext k
    simp [moment, script, Session.turns]
  rw [cutOff, hmoment]
  simp only [script, List.map_nil, Session.turns, resultFrom_pure]
  rw [htimeline, limit_stamp_of_le hp]
  rfl

/-- A line that is no valid text. -/
theorem cutOff_of_invalid (hd : decode? (content l) = none)
    (hp : (Sink.bytesOf prompt).length ≤ n) :
    cutOff provider s start written n (l :: ls) =
      (⟨⟨written ++ Sink.bytesOf prompt, some (n - (Sink.bytesOf prompt).length)⟩, ls.flatten,
        some .invalidText⟩, start) := by
  have hs : script (l :: ls) = { ending := .invalid, unread := ls.flatten } := by simp [script, hd]
  have htimeline : timeline .invalid [] = stamp 0 prompt ++ [] := by
    simp [timeline, Ending.lastWords]
  rw [cutOff, hs]
  simp only [List.map_nil, Session.turns, resultFrom_pure]
  rw [htimeline, limit_stamp_of_le hp, limit_nil]
  rfl

/-- A line that ends the session. -/
theorem cutOff_of_ends (hd : decode? (content l) = some text) (hends : text ∈ Command.exitWords)
    (hp : (Sink.bytesOf prompt).length ≤ n) :
    cutOff provider s start written n (l :: ls) =
      limit (written ++ Sink.bytesOf prompt) (n - (Sink.bytesOf prompt).length)
        (stamp 1 (Sink.textOf ((Session.Entry.line text).answer s.units?))) (ls.flatten, start) none
        (moment provider s start (l :: ls)) := by
  have hs : script (l :: ls) = { texts := [text], ending := .halted, unread := ls.flatten } := by
    simp [script, hd, hends]
  have hline : (Session.Entry.line text).ends = true := ends_line_iff.mpr hends
  rw [cutOff, hs]
  simp only [List.map_singleton, Session.turns_cons_of_ends s [] hline, resultFrom_pure, timeline]
  rw [limit_stamp_of_le hp]
  simp [Session.Entry.turn, hline, Turn.output, Ending.lastWords, Ending.failure, stamp, later]

/-- After one more line that is performed. -/
theorem moment_succ (hd : decode? (content l) = some text) (hstays : text ∉ Command.exitWords)
    {x : StateM σ (List String × Session)}
    (hx : s.perform provider (.line text) = (fun p => .goOn p.1 p.2) <$> x) (k : Nat) :
    moment provider s start (l :: ls) (k + 1) =
      moment provider (resultFrom start x).1.2 (resultFrom start x).2 ls k := by
  have hs : (script (l :: ls)).texts = text :: (script ls).texts := by simp [script, hd, hstays]
  simp [moment, hs, Session.turns_cons_of_perform hx]

/-- After the line that ends the session. -/
theorem moment_one (hd : decode? (content l) = some text) (hends : text ∈ Command.exitWords) :
    moment provider s start (l :: ls) 1 = (ls.flatten, start) := by
  have hs : script (l :: ls) = { texts := [text], ending := .halted, unread := ls.flatten } := by
    simp [script, hd, hends]
  have hline : (Session.Entry.line text).ends = true := ends_line_iff.mpr hends
  simp [moment, hs, Session.turns_cons_of_ends s [] hline]

/-- A line after which the session goes on. -/
theorem cutOff_of_stays (hd : decode? (content l) = some text) (hstays : text ∉ Command.exitWords)
    {x : StateM σ (List String × Session)}
    (hx : s.perform provider (.line text) = (fun p => .goOn p.1 p.2) <$> x)
    (hp : (Sink.bytesOf prompt).length ≤ n) :
    cutOff provider s start written n (l :: ls) =
      let p := resultFrom start x
      let played := resultFrom p.2 (p.1.2.turns provider ((script ls).texts.map .line))
      limit (written ++ Sink.bytesOf prompt) (n - (Sink.bytesOf prompt).length)
        (stamp 1 (Sink.textOf p.1.1) ++ later (timeline (script ls).ending played.1))
        ((script ls).unread, played.2) (script ls).ending.failure
        (moment provider s start (l :: ls)) := by
  have hs : script (l :: ls) = { script ls with texts := text :: (script ls).texts } := by
    simp [script, hd, hstays]
  rw [cutOff, hs]
  simp only [List.map_cons, Session.turns_cons_of_perform hx, resultFrom_bind, resultFrom_map,
    timeline]
  rw [limit_stamp_of_le hp]
  rfl

theorem turns_cons_ne_nil (e : Session.Entry) (es : List Session.Entry) :
    (resultFrom start (s.turns provider (e :: es))).1 ≠ [] := by
  rw [Session.turns, resultFrom_bind]
  cases (resultFrom start (s.perform provider e)).1 <;> simp

theorem texts_ne_nil_of_halted (h : (script ls).ending = .halted) : (script ls).texts ≠ [] := by
  cases ls with
  | nil => simp [script] at h
  | cons l ls =>
    cases hd : decode? (content l) with
    | none => simp [script, hd] at h
    | some text => by_cases hends : text ∈ Command.exitWords <;> simp [script, hd, hends]

variable (provider s start) in
/-- Whatever a session makes of its input, it begins with a prompt. -/
theorem exists_timeline_eq (ls : List (List UInt8)) :
    ∃ rest, timeline (script ls).ending
      (resultFrom start (s.turns provider ((script ls).texts.map .line))).1 =
        stamp 0 prompt ++ rest := by
  cases hts : (resultFrom start (s.turns provider ((script ls).texts.map .line))).1 with
  | cons t ts => exact ⟨_, rfl⟩
  | nil =>
    have htexts : (script ls).texts = [] := by
      cases h : (script ls).texts with
      | nil => rfl
      | cons text texts =>
        rw [h, List.map_cons] at hts
        exact absurd hts (turns_cons_ne_nil _ _)
    cases he : (script ls).ending with
    | halted => exact absurd htexts (texts_ne_nil_of_halted he)
    | dry => exact ⟨stamp 0 (Sink.textOf [Session.farewell]), by
        simp [timeline, Ending.lastWords, stamp]⟩
    | invalid => exact ⟨[], by simp [timeline, Ending.lastWords]⟩

/-- Not even the first prompt fits. -/
theorem cutOff_of_lt (hp : n < (Sink.bytesOf prompt).length) (ls : List (List UInt8)) :
    cutOff provider s start written n ls =
      (⟨((⟨written, some n⟩ : Sink).write prompt).1, ls.flatten, some .sinkFull⟩, start) := by
  obtain ⟨rest, hrest⟩ := exists_timeline_eq provider s start ls
  rw [cutOff, hrest, limit_stamp_of_lt hp, moment_zero]

end Script

/-! ## The loop -/

section Loop

theorem write_of_le {written : List UInt8} {n : Nat} {text : String}
    (h : (Sink.bytesOf text).length ≤ n) :
    (⟨written, some n⟩ : Sink).write text =
      (⟨written ++ Sink.bytesOf text, some (n - (Sink.bytesOf text).length)⟩, true) :=
  Sink.writeBytes_of_le h

theorem write_of_lt {written : List UInt8} {n : Nat} {text : String}
    (h : n < (Sink.bytesOf text).length) :
    (⟨written, some n⟩ : Sink).write text = (((⟨written, some n⟩ : Sink).write text).1, false) := by
  rw [Sink.write, Sink.writeBytes_of_lt h]

theorem writeLines_eq_write (sink : Sink) (ls : List String) :
    sink.writeLines ls = sink.write (Sink.textOf ls) :=
  Sink.writeLines_eq_writeBytes sink ls

variable {σ ε : Type} (provider : Provider (StateM σ) ε)

/-- From any session on, the loop leaves what is left of its lines. -/
theorem resultFrom_runFrom (s : Session) (start : σ) (written : List UInt8) (n : Nat)
    (input : List UInt8) :
    resultFrom start (runFrom provider s ⟨written, some n⟩ input) =
      cutOff provider s start written n (lines input) := by
  induction input using cut_induction generalizing s start written n with
  | nil =>
    rw [runFrom]
    by_cases hp : (Sink.bytesOf prompt).length ≤ n
    · rw [write_of_le hp, lines, cutOff_nil hp]
      generalize n - (Sink.bytesOf prompt).length = n
      simp only [writeLines_eq_write]
      rw [← List.append_nil (stamp 0 _)]
      by_cases hf : (Sink.bytesOf (Sink.textOf [Session.farewell])).length ≤ n
      · rw [write_of_le hf, limit_stamp_of_le hf, limit_nil]
        rfl
      · rw [write_of_lt (by omega), limit_stamp_of_lt (by omega)]
        rfl
    · rw [write_of_lt (by omega), cutOff_of_lt (by omega)]
      rfl
  | cons b bs ih =>
    rw [runFrom]
    by_cases hp : (Sink.bytesOf prompt).length ≤ n
    · rw [write_of_le hp, lines_eq_cut_cons]
      dsimp only
      generalize cut (b :: bs) = p at ih ⊢
      obtain ⟨l, rest⟩ := p
      dsimp only at ih ⊢
      simp only [writeLines_eq_write]
      cases hd : decode? (content l) with
      | none =>
        rw [answer_eq_none provider hd, cutOff_of_invalid hd hp, flatten_lines]
        rfl
      | some text =>
        rw [answer_eq_perform provider hd, bind_map_left]
        by_cases hends : text ∈ Command.exitWords
        · have hline : (Session.Entry.line text).ends = true := ends_line_iff.mpr hends
          rw [Session.perform_of_ends s hline, pure_bind, cutOff_of_ends hd hends hp, flatten_lines]
          generalize n - (Sink.bytesOf prompt).length = n
          generalize Session.Entry.answer _ _ = output
          rw [← List.append_nil (stamp 1 _)]
          by_cases ho : (Sink.bytesOf (Sink.textOf output)).length ≤ n
          · rw [limit_stamp_of_le ho, limit_nil]
            dsimp only
            rw [write_of_le ho]
            rfl
          · rw [limit_stamp_of_lt (by omega)]
            dsimp only
            rw [write_of_lt (by omega), moment_one hd hends, flatten_lines]
            rfl
        · have hstays : (Session.Entry.line text).ends = false := by
            rw [Bool.eq_false_iff, ne_eq, ends_line_iff]
            exact hends
          obtain ⟨x, hx⟩ := Session.exists_perform_eq_goOn provider s hstays
          rw [hx, bind_map_left, cutOff_of_stays hd hends hx hp, resultFrom_bind]
          dsimp only
          generalize n - (Sink.bytesOf prompt).length = n
          by_cases ho : (Sink.bytesOf (Sink.textOf (resultFrom start x).1.1)).length ≤ n
          · rw [limit_stamp_of_le ho, limit_later, write_of_le ho]
            simp only [moment_succ hd hends hx]
            exact ih _ _ _ _
          · rw [limit_stamp_of_lt (by omega), write_of_lt (by omega), moment_succ hd hends hx,
              moment_zero, flatten_lines]
            rfl
    · rw [write_of_lt (by omega), cutOff_of_lt (by omega), flatten_lines]
      rfl

end Loop

/-! ## Whole sessions -/

theorem written_run {σ ε : Type} (provider : Provider (StateM σ) ε) (start : σ)
    (input : List UInt8) :
    let sc := script (lines input)
    let played := resultFrom start (Session.turns provider {} (sc.texts.map .line))
    resultFrom start (run provider {} input) =
      (⟨{ written := (timeline sc.ending played.1).map (·.1) }, sc.unread, sc.ending.failure⟩,
        played.2) := by
  dsimp only
  rw [run, runFrom_eq_outcome, resultFrom_map, map_fst_timeline]
  rfl

/-- **A session whose sink fills up**, compared with the same session and a sink that takes everything.  A sink that
takes `n` bytes receives the first `n` of what the whole session writes.  If these are all, both sessions go the same
way.  Otherwise the limited one is cut short by the sink: the lines it has read are those that had been read when the
next byte was written, and the provider has been asked for these lines only. -/
theorem run_within_capacity {σ ε : Type} (provider : Provider (StateM σ) ε) (input : List UInt8)
    (n : Nat) (start : σ) :
    let whole := resultFrom start (run provider {} input)
    let limited := resultFrom start (run provider { room := some n } input)
    let sc := script (lines input)
    let performed (k : Nat) :=
      resultFrom start (Session.turns provider {} ((sc.texts.take k).map .line))
    let bytes := timeline sc.ending (performed sc.texts.length).1
    bytes.map (·.1) = whole.1.sink.written ∧
      limited.1.sink.written = whole.1.sink.written.take n ∧
      (whole.1.sink.written.length ≤ n →
        limited.1.failure = whole.1.failure ∧ limited.1.unread = whole.1.unread ∧
          limited.2 = whole.2) ∧
      (n < whole.1.sink.written.length →
        ∃ b k, bytes[n]? = some (b, k) ∧ limited.1.failure = some .sinkFull ∧
          limited.1.unread = ((lines input).drop k).flatten ∧ limited.2 = (performed k).2) := by
  dsimp only
  rw [List.take_length, written_run, run, resultFrom_runFrom, cutOff, limit]
  generalize timeline _ _ = bytes
  dsimp only
  refine ⟨rfl, ?_, fun hle => ?_, fun hlt => ?_⟩
  · cases bytes[n]? <;> simp [Sink.writeBytes]
  · rw [List.length_map] at hle
    simp [List.getElem?_eq_none hle]
  · rw [List.length_map] at hlt
    rw [List.getElem?_eq_getElem hlt]
    exact ⟨_, _, rfl, rfl, rfl, rfl⟩

/-- The sink is full in the middle of the answer to the second line. -/
theorem limited_sampleInput :
    30 < (resultFrom 0 (run Session.growing {} sampleInput)).1.sink.written.length ∧
      (resultFrom 0 (run Session.growing { room := some 30 } sampleInput)).1.failure =
        some .sinkFull ∧
      (resultFrom 0 (run Session.growing { room := some 30 } sampleInput)).1.unread =
        Sink.bytesOf "\nlist\nq\nlist" := by
  obtain ⟨hbytes, -, -, hcut⟩ := run_within_capacity Session.growing sampleInput 30 0
  have hlt : 30 < (resultFrom 0 (run Session.growing {} sampleInput)).1.sink.written.length := by
    rw [← hbytes]
    decide +kernel
  obtain ⟨b, k, hat, hfailure, hunread, -⟩ := hcut hlt
  have hk : k = 2 := by
    have hlines : (Option.map (·.2) (some (b, k))) = some 2 := by
      rw [← hat]
      decide +kernel
    simpa using hlines
  subst hk
  exact ⟨hlt, hfailure, hunread.trans (by decide +kernel)⟩

end TypeCensus.Console
