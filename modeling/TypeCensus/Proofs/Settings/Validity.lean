import TypeCensus.Proofs.Glob.Leading
import TypeCensus.Proofs.Loading.Isolation
import TypeCensus.Proofs.Settings.Search
import TypeCensus.Proofs.Walk.Patterns

/-!
# Validity — the patterns of settings, when they are read and when they are used

A settings file is accepted just if a walk can use all its patterns, so no invalid pattern comes to a walk that way.
That matters as a load with an invalid pattern gives nothing at all.

* `Agrees`: what a reading of settings and one of their patterns have in common.
* `settings_valid`: settings that were read have valid patterns.
* `load_of_invalid`, `LoadsUnmatched`: what invalid and valid patterns do to a load.
* `patterns_agree`: the three together.
-/

namespace TypeCensus

/-- A text with some settings is accepted just if their patterns can be used, and both are refused for the same
pattern. -/
structure Settings.Agrees (text : String) (s : Settings) : Prop where
  accepted : ∀ s', Settings.read text = .ok s' ↔ s' = s ∧ ∃ globs, Glob.ofStrings s.patterns = .ok globs
  refused : ∀ e, Glob.ofStrings s.patterns = .error e ↔
    ∃ p, Glob.FirstInvalid s.patterns p e ∧ Settings.read text = .error (.invalidPattern p e)
  error : ∀ err, Settings.read text = .error err ↔
    ∃ p e, err = .invalidPattern p e ∧ Glob.FirstInvalid s.patterns p e

theorem Settings.agrees {text : String} {s : Settings}
    (h : (Toml.read? text).bind Settings.ofTable? = some s) : Settings.Agrees text s where
  accepted s' := by
    rw [Settings.read_eq_ok_iff, Glob.exists_ofStrings_iff, h, Option.some.injEq]
    constructor
    · rintro ⟨rfl, hall⟩
      exact ⟨rfl, hall⟩
    · rintro ⟨rfl, hall⟩
      exact ⟨rfl, hall⟩
  refused e := by
    simp only [Settings.read_eq_invalidPattern_iff h, and_self, Glob.ofStrings_eq_error_iff]
  error err := by
    obtain ⟨globs, -, hall⟩ | ⟨p, e, -, hfirst⟩ := Glob.ofStrings_cases s.patterns
    · have hvalid := Glob.valid_of_forall₂ hall
      rw [Settings.read_eq_ok_iff.mpr ⟨h, hvalid⟩]
      refine iff_of_false (by simp) ?_
      rintro ⟨p, e, -, hfirst⟩
      exact hfirst.not_forall_valid hvalid
    · rw [(Settings.read_eq_invalidPattern_iff h).mpr hfirst, Except.error.injEq]
      refine ⟨fun heq => ⟨p, e, heq.symm, hfirst⟩, ?_⟩
      rintro ⟨p', e', rfl, hfirst'⟩
      obtain ⟨rfl, rfl⟩ := hfirst.unique hfirst'
      rfl

namespace Disk

variable {d : Disk} {s : Settings} {root : String}

/-- Settings that were read from a disk have valid patterns. -/
theorem settings_valid (d : Disk) (start : String) : ∀ p ∈ (d.settings start).patterns, Glob.Valid p := by
  rw [settings]
  split
  · simp [Settings.patterns]
  · next text _ =>
    cases h : Settings.read text with
    | error e => simp [Except.toOption, Settings.patterns]
    | ok s => exact (Settings.read_eq_ok_iff.mp h).2

/-- An invalid pattern makes a load come back empty. -/
theorem load_of_invalid {p : String} (hp : p ∈ s.patterns) (hinvalid : ¬ Glob.Valid p) (d : Disk)
    (root : String) : d.load s root = [] := by
  obtain ⟨globs, hglobs, hall⟩ | ⟨q, e, herror, -⟩ := Glob.ofStrings_cases s.patterns
  · exact absurd (Glob.valid_of_forall₂ hall p hp) hinvalid
  · rw [load, loadWith, herror]

/-- A load with valid patterns: it gives one entry for each candidate, that is for each source that would be listed
without patterns and that none of them matches, and it is empty only if there is no such source. -/
structure LoadsUnmatched (d : Disk) (s : Settings) (root : String) (globs : List Glob) (place : List String)
    (places : List (List String)) (all : List String) : Prop where
  valid : Glob.ofStrings s.patterns = .ok globs
  leads : d.resolve? root = some place
  candidates : ∀ names, names ∈ places ↔ Walk.Candidate d s.walk globs root place names
  loads : Loads Java.parse d s globs root (places.map (below root))
  listed : d.walk? s.walk [] root = some all
  unmatched : places.map (below root) = all.filter (Walk.unmatched globs)
  empty : d.load s root = [] ↔ ∀ path ∈ all, ∃ g ∈ globs, g.matchesPath path = true

theorem exists_loadsUnmatched (hvalid : ∀ p ∈ s.patterns, Glob.Valid p) (hproper : d.top.Proper)
    (hroot : d.isDir root = true) : ∃ globs place places all, LoadsUnmatched d s root globs place places all := by
  obtain ⟨globs, hglobs⟩ := Glob.exists_ofStrings_iff.mpr hvalid
  obtain ⟨place, es, hplace, hdir⟩ := exists_place_of_isDir hroot
  obtain ⟨places, hwalk, hsorted, hmem⟩ := Walk.exists_walk?_eq s.walk globs hproper hplace hdir
  have hloads := loads_of_walk Java.parse hglobs hproper hplace hwalk hsorted hmem
  have hfilter := hwalk
  rw [Walk.walk?_eq_filter] at hfilter
  obtain ⟨all, hall, hpaths⟩ := Option.map_eq_some_iff.mp hfilter
  refine ⟨globs, place, places, all, hglobs, hplace, hmem, hloads, hall, hpaths.symm, ?_⟩
  rw [load, load_of_walk Java.parse hglobs hwalk, ← hpaths, List.map_eq_nil_iff, List.filter_eq_nil_iff]
  simp [Walk.unmatched]

/-- **No invalid pattern comes from a settings file.**  A text with some settings is accepted just if a walk can use
their patterns, and otherwise both are refused for the first invalid one.  With the settings of any directory, the load
of a directory thus gives every source that no pattern matches.  With other settings one invalid pattern is enough to
make every load empty. -/
theorem patterns_agree :
    (∀ text s, (Toml.read? text).bind Settings.ofTable? = some s → Settings.Agrees text s) ∧
    (∀ (d₀ : Disk) start (d : Disk) root, d.top.Proper → d.isDir root = true →
      ∃ globs place places all, LoadsUnmatched d (d₀.settings start) root globs place places all) ∧
    ∀ (s : Settings) p, p ∈ s.patterns → ¬ Glob.Valid p → ∀ (d : Disk) root, d.load s root = [] :=
  ⟨fun _ _ => Settings.agrees, fun d₀ start _ _ => exists_loadsUnmatched (settings_valid d₀ start),
    fun _ _ hp hinvalid => load_of_invalid hp hinvalid⟩

/-- A settings file with two invalid patterns. -/
def refusedText : String := "[ignore]\npatterns = [\"**/gen/**\", \"a[\", \"***\"]\n"

/-- What it says. -/
def refusedSettings : Settings := { ignore? := some ["**/gen/**", "a[", "***"] }

theorem firstInvalid_refusedSettings :
    Glob.FirstInvalid refusedSettings.patterns "a[" ⟨1, .brokenSet⟩ where
  first := ⟨["**/gen/**"], ["***"], rfl, by simpa using ⟨_, rfl⟩⟩
  invalid := rfl

theorem candidate_sampleDisk :
    Walk.Candidate sampleDisk {} [Glob.belowNamed "gen"] "src" ["src"] ["b.java"] := by
  refine ⟨by decide, _, rfl, rfl, ?_⟩
  rw [Walk.rootScope, ownRules_sampleDisk.2]
  refine .dir rfl (by decide +kernel) ?_
  exact .file (by decide +kernel)

/-- The pattern of one settings file lets a source through; those of another one, which is refused, let none. -/
theorem patterns_agree_refused :
    Settings.read refusedText = .error (.invalidPattern "a[" ⟨1, .brokenSet⟩) ∧
      Glob.ofStrings refusedSettings.patterns = .error ⟨1, .brokenSet⟩ ∧
      sampleDisk.load (nestedDisk.settings ".") "src" ≠ [] ∧
      ∀ root, sampleDisk.load refusedSettings root = [] := by
  obtain ⟨hagrees, hvalid, hinvalid⟩ := patterns_agree
  have hagrees := hagrees refusedText refusedSettings (by decide +kernel)
  have hread := (hagrees.error _).mpr ⟨_, _, rfl, firstInvalid_refusedSettings⟩
  have hrefused := (hagrees.refused _).mpr ⟨_, firstInvalid_refusedSettings, hread⟩
  refine ⟨hread, hrefused, fun hnil => ?_, hinvalid _ "a[" (by decide) (Glob.not_valid_of_error rfl) sampleDisk⟩
  have hsettings : nestedDisk.settings "." = { ignore? := some ["**/gen/**"] } := by decide +kernel
  have hroot : sampleDisk.isDir "src" = true := by decide +kernel
  obtain ⟨globs, place, places, all, h⟩ := hvalid nestedDisk "." _ _ sampleDisk_proper hroot
  rw [hsettings] at h
  rw [hsettings, load] at hnil
  have hplace : sampleDisk.resolve? "src" = some ["src"] := by decide +kernel
  have hglobs : Glob.ofStrings ["**/gen/**"] = .ok [Glob.belowNamed "gen"] := by decide +kernel
  obtain rfl := Option.some.inj (hplace.symm.trans h.leads)
  obtain rfl := Except.ok.inj (hglobs.symm.trans h.valid)
  have hmem := (h.candidates _).mpr candidate_sampleDisk
  have hanswered := h.loads.answered
  rw [hnil, List.forall₂_nil_right_iff, List.map_eq_nil_iff] at hanswered
  simp [hanswered] at hmem

end Disk

end TypeCensus
