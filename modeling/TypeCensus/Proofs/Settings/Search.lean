import TypeCensus.Settings
import TypeCensus.Proofs.Disk.Ancestors
import TypeCensus.Proofs.Glob.Lists

/-!
# Search — the settings file that decides

* `Settings.read_eq_ok_iff`, `Settings.read_eq_invalidPattern_iff`: what a text says, and what is wrong with it.
* `Settings.Declares`: the settings that the content of a file gives.
* `Nearest`: the first settings file in a directory and those above it.
* `settings_of_nearest`: that file decides alone, whatever lies further up.
-/

namespace TypeCensus

namespace Settings

/-! ## What a settings file says -/

theorem firstInvalid?_cases (ps : List String) :
    (firstInvalid? ps = none ∧ ∀ p ∈ ps, Glob.Valid p) ∨
      ∃ p e, firstInvalid? ps = some (p, e) ∧ Glob.FirstInvalid ps p e := by
  induction ps with
  | nil => exact .inl ⟨rfl, by simp⟩
  | cons p ps ih =>
    rw [firstInvalid?]
    cases h : Glob.ofString p with
    | error e => exact .inr ⟨p, e, rfl, ⟨[], ps, rfl, by simp⟩, h⟩
    | ok g =>
      obtain ⟨hnone, hall⟩ | ⟨q, e, hsome, hfirst⟩ := ih
      · exact .inl ⟨hnone, by simpa using ⟨⟨g, h⟩, hall⟩⟩
      · exact .inr ⟨q, e, hsome, hfirst.cons ⟨g, h⟩⟩

variable {text : String} {s : Settings}

/-- Settings are read from a document that gives them, if all their patterns are valid. -/
theorem read_eq_ok_iff : read text = .ok s ↔
    (Toml.read? text).bind ofTable? = some s ∧ ∀ p ∈ s.patterns, Glob.Valid p := by
  rw [read]
  cases (Toml.read? text).bind ofTable? with
  | none => simp
  | some s' =>
    obtain ⟨hnone, hall⟩ | ⟨p, e, hsome, hfirst⟩ := firstInvalid?_cases s'.patterns
    · simp only [hnone, Except.ok.injEq, Option.some.injEq]
      exact ⟨fun h => ⟨h, h ▸ hall⟩, And.left⟩
    · simp only [hsome, reduceCtorEq, Option.some.injEq, false_iff]
      rintro ⟨rfl, hall⟩
      exact hfirst.not_forall_valid hall

/-- A document that gives settings is refused for their first invalid pattern. -/
theorem read_eq_invalidPattern_iff (h : (Toml.read? text).bind ofTable? = some s) {p : String}
    {e : Glob.Error} : read text = .error (.invalidPattern p e) ↔ Glob.FirstInvalid s.patterns p e := by
  rw [read, h]
  obtain ⟨hnone, hall⟩ | ⟨p', e', hsome, hfirst⟩ := firstInvalid?_cases s.patterns
  · simp only [hnone, reduceCtorEq, false_iff]
    exact fun hfirst => hfirst.not_forall_valid hall
  · simp only [hsome, Except.error.injEq, Error.invalidPattern.injEq]
    refine ⟨?_, fun h => hfirst.unique h⟩
    rintro ⟨rfl, rfl⟩
    exact hfirst

/-- The settings that the content of a file gives: it is a text that says them, with valid patterns only. -/
def Declares (content : List UInt8) (s : Settings) : Prop :=
  ∃ text, String.fromUTF8? ⟨content.toArray⟩ = some text ∧
    (Toml.read? text).bind ofTable? = some s ∧ ∀ p ∈ s.patterns, Glob.Valid p

/-- The settings of a file with some content. -/
def ofContent? (content : List UInt8) : Option Settings :=
  (String.fromUTF8? ⟨content.toArray⟩).bind fun text => (read text).toOption

theorem ofContent?_eq_some_iff {content : List UInt8} :
    ofContent? content = some s ↔ Declares content s := by
  have htoOption (text : String) : (read text).toOption = some s ↔ read text = .ok s := by
    cases read text <;> simp [Except.toOption]
  simp only [ofContent?, Option.bind_eq_some_iff, htoOption, read_eq_ok_iff, Declares]

theorem ofContent?_eq_none_iff {content : List UInt8} :
    ofContent? content = none ↔ ∀ s, ¬ Declares content s := by
  simp only [Option.eq_none_iff_forall_ne_some, ne_eq, ofContent?_eq_some_iff]

end Settings

namespace Disk

/-! ## The nearest settings file -/

variable {d : Disk} {path file start : String} {content : List UInt8}

theorem read?_eq_some_iff : d.read? path = some content ↔ d.find? path = some (.file content) := by
  rw [read?, Option.bind_eq_some_iff]
  constructor
  · rintro ⟨e | es, he, hcontent⟩
    · exact he.trans (congrArg (some ∘ Entry.file) (Option.some.inj hcontent))
    · exact absurd hcontent (by simp [Entry.content?])
  · exact fun h => ⟨_, h, rfl⟩

/-- The place of the settings file in the directory so many steps above another one. -/
def SettingsAt (start : String) (i : Nat) (file : String) : Prop :=
  ∃ dir, ancestor? i start = some dir ∧ file = joinPath dir Settings.fileName

/-- The first settings file in a directory and the nine above it, where a directory of that name is none. -/
structure Nearest (d : Disk) (start : String) (i : Nat) (file : String) (content : List UInt8) : Prop where
  within : i < 10
  place : SettingsAt start i file
  there : d.find? file = some (.file content)
  nearer : ∀ j < i, ∀ near, SettingsAt start j near → ∀ c, d.find? near ≠ some (.file c)

theorem isFile_iff : d.isFile path = true ↔ ∃ content, d.find? path = some (.file content) := by
  simp only [isFile, Option.isSome_iff_exists, read?_eq_some_iff]

theorem not_isFile_iff : d.isFile path = false ↔ ∀ content, d.find? path ≠ some (.file content) := by
  rw [← Bool.not_eq_true, isFile_iff, not_exists]

theorem settingsFile?_eq_some_iff :
    d.settingsFile? start = some file ↔ ∃ i content, Nearest d start i file content := by
  rw [settingsFile?, List.find?_map, Option.map_eq_some_iff]
  constructor
  · rintro ⟨dir, hdir, rfl⟩
    obtain ⟨i, hi, hplace, hthere, hnearer⟩ := find?_selfAndAbove.mp hdir
    obtain ⟨content, hcontent⟩ := isFile_iff.mp hthere
    refine ⟨i, content, hi, ⟨dir, hplace, rfl⟩, hcontent, ?_⟩
    rintro j hj _ ⟨near, hnear, rfl⟩
    exact not_isFile_iff.mp (hnearer j hj near hnear)
  · rintro ⟨i, content, hi, ⟨dir, hplace, rfl⟩, hcontent, hnearer⟩
    refine ⟨dir, find?_selfAndAbove.mpr ⟨i, hi, hplace, isFile_iff.mpr ⟨content, hcontent⟩, ?_⟩, rfl⟩
    exact fun j hj near hnear => not_isFile_iff.mpr (hnearer j hj _ ⟨near, hnear, rfl⟩)

theorem settingsFile?_eq_none_iff : d.settingsFile? start = none ↔
    ∀ i < 10, ∀ file, SettingsAt start i file → ∀ content, d.find? file ≠ some (.file content) := by
  simp only [settingsFile?, List.find?_eq_none, List.forall_mem_map, mem_selfAndAbove, Bool.not_eq_true,
    not_isFile_iff]
  constructor
  · rintro h i hi _ ⟨dir, hdir, rfl⟩
    exact h dir ⟨i, hi, hdir⟩
  · rintro h dir ⟨i, hi, hdir⟩
    exact h i hi _ ⟨dir, hdir, rfl⟩

theorem settings_of_settingsFile? (h : d.settingsFile? start = none) : d.settings start = {} := by
  rw [settings, h]
  rfl

theorem Nearest.settingsFile? {i : Nat} (h : Nearest d start i file content) :
    d.settingsFile? start = some file := settingsFile?_eq_some_iff.mpr ⟨i, content, h⟩

/-- The settings come from the content of the nearest file. -/
theorem Nearest.settings {i : Nat} (h : Nearest d start i file content) :
    d.settings start = (Settings.ofContent? content).getD {} := by
  rw [Disk.settings, h.settingsFile?, Option.bind_some, readText?, read?_eq_some_iff.mpr h.there,
    Option.bind_some, Settings.ofContent?]
  cases String.fromUTF8? ⟨content.toArray⟩ <;> rfl

/-- A disk on which the settings files up to the nearest one are the same has the same nearest one. -/
theorem Nearest.congr {i : Nat} (h : Nearest d start i file content) {d' : Disk}
    (hsame : ∀ j ≤ i, ∀ near, SettingsAt start j near → d'.read? near = d.read? near) :
    Nearest d' start i file content where
  within := h.within
  place := h.place
  there := by
    rw [← read?_eq_some_iff, hsame i le_rfl file h.place, read?_eq_some_iff]
    exact h.there
  nearer j hj near hnear c := by
    rw [ne_eq, ← read?_eq_some_iff, hsame j hj.le near hnear, read?_eq_some_iff]
    exact h.nearer j hj near hnear c

/-- **The nearest settings file decides alone.**  A directory and those above it are searched, ten in all; the first
file with the right name is found, and nothing if there is none.  Its content gives the settings if it is valid, and
there are none otherwise, as when no file is found.  Files further up have no say: on every disk that has the same
settings files down from the one that is found, the same file is found and gives the same settings. -/
theorem settings_of_nearest (d : Disk) (start : String) :
    (∀ i, (∃ dir, ancestor? i start = some dir) ↔ i ≤ (steps start).length) ∧
    (∀ i dir, ancestor? i start = some dir → Above i start dir) ∧
    (∀ file, d.settingsFile? start = some file ↔ ∃ i content, Nearest d start i file content) ∧
    (d.settingsFile? start = none ↔ ∀ i < 10, ∀ file, SettingsAt start i file →
      ∀ content, d.find? file ≠ some (.file content)) ∧
    (d.settingsFile? start = none → d.settings start = {}) ∧
    ∀ i file content, Nearest d start i file content →
      (∀ s, Settings.Declares content s → d.settings start = s) ∧
      ((∀ s, ¬ Settings.Declares content s) → d.settings start = {}) ∧
      ∀ d' : Disk, (∀ j ≤ i, ∀ near, SettingsAt start j near → d'.read? near = d.read? near) →
        d'.settingsFile? start = some file ∧ d'.settings start = d.settings start := by
  refine ⟨fun i => exists_ancestor?_iff, fun i dir => above_of_ancestor?, fun file => settingsFile?_eq_some_iff,
    settingsFile?_eq_none_iff, settings_of_settingsFile?, fun i file content h => ⟨?_, ?_, ?_⟩⟩
  · intro s hs
    rw [h.settings, Settings.ofContent?_eq_some_iff.mpr hs, Option.getD_some]
  · intro hs
    rw [h.settings, Settings.ofContent?_eq_none_iff.mpr hs, Option.getD_none]
  · intro d' hsame
    have h' := h.congr hsame
    exact ⟨h'.settingsFile?, h'.settings.trans h.settings.symm⟩

/-- A settings file that is broken. -/
def brokenContent : List UInt8 := "[walk\n".toUTF8.data.toList

/-- A broken settings file below one that is not, and a directory with the name of such a file below both. -/
def nestedDisk : Disk where
  top := .dir [
    (".classlens.toml", .file ("[ignore]\npatterns = [\"**/gen/**\"]\n".toUTF8.data.toList)),
    ("a", .dir [
      (".classlens.toml", .file brokenContent),
      ("b", .dir [(".classlens.toml", .dir [])])])]

theorem nearest_nestedDisk : Nearest nestedDisk "a/b" 1 "a/.classlens.toml" brokenContent where
  within := by decide
  place := ⟨"a", by decide +kernel, by decide +kernel⟩
  there := read?_eq_some_iff.mp (by decide +kernel)
  nearer := by
    rintro j hj _ ⟨dir, hdir, rfl⟩
    obtain rfl : j = 0 := by omega
    obtain rfl : "a/b" = dir := Option.some.inj hdir
    exact not_isFile_iff.mp (by decide +kernel)

/-- The broken file hides the other one, whatever that says. -/
theorem settings_of_nearest_nestedDisk :
    nestedDisk.settings "" = { ignore? := some ["**/gen/**"] } ∧
      ∀ d' : Disk,
        (∀ j ≤ 1, ∀ near, SettingsAt "a/b" j near → d'.read? near = nestedDisk.read? near) →
          d'.settingsFile? "a/b" = some "a/.classlens.toml" ∧ d'.settings "a/b" = {} := by
  refine ⟨by decide +kernel, fun d' hsame => ?_⟩
  obtain ⟨-, -, -, -, -, hnearest⟩ := settings_of_nearest nestedDisk "a/b"
  obtain ⟨-, hnone, hagree⟩ := hnearest 1 _ _ nearest_nestedDisk
  obtain ⟨hfile, hsettings⟩ := hagree d' hsame
  exact ⟨hfile, hsettings.trans (hnone (Settings.ofContent?_eq_none_iff.mp (by decide +kernel)))⟩

-- The tenth directory is searched, the eleventh is not.
example : nestedDisk.settingsFile? "1/2/3/4/5/6/7/8/9" = some ".classlens.toml" ∧
    nestedDisk.settingsFile? "0/1/2/3/4/5/6/7/8/9" = none := by decide +kernel

end Disk

end TypeCensus
