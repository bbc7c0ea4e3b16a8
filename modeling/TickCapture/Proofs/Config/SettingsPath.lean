import TickCapture.Proofs.Config.Layers

/-! # Which settings file is read

Without arguments a program takes the settings file that the environment names, and so does `load`. Both
come to the same configuration if the name is a text that is not blank, or if there is no name. Any other
name is none for `load`, but the program takes it as it is: it reads a file that is so called, and refuses
to start if the name is empty. -/

namespace TickCapture

/-! ### The name in the environment -/

namespace Configuration

variable {e : Environment} {name text : String}

theorem exists_bytes_of_text? (h : e.text? name = some text) :
    ∃ bytes, e.bytes? name = some bytes ∧ strictText? bytes.toList = some text :=
  Option.bind_eq_some_iff.mp h

theorem present?_eq_some (htext : e.text? name = some text) (hblank : ¬isBlankText text) :
    present? e name = some text := by
  simp [present?, htext, hblank]

theorem present?_eq_none (h : ∀ text, e.text? name = some text → isBlankText text) :
    present? e name = none := by
  cases htext : e.text? name with
  | none => rw [present?, htext]; rfl
  | some text => simp [present?, htext, h text htext]

/-- A text that is not blank names the file, byte for byte. -/
theorem fileName?_eq (htext : e.text? Variable.config = some text) (hblank : ¬isBlankText text) :
    fileName? e = e.bytes? Variable.config := by
  obtain ⟨bytes, hbytes, -⟩ := exists_bytes_of_text? htext
  rw [fileName?, present?_eq_some htext hblank, hbytes]
  rfl

theorem fileName?_eq_none (h : ∀ text, e.text? Variable.config = some text → isBlankText text) :
    fileName? e = none := by
  rw [fileName?, present?_eq_none h]
  cases e.bytes? Variable.config <;> rfl

end Configuration

/-- Without arguments a parser takes the name of the settings file from the environment, byte for byte,
unless it is empty: then it refuses to go on. -/
structure ArgumentParser.TakesName (parse : ArgumentParser) : Prop where
  unnamed : ∀ {e}, Environment.bytes? e Variable.config = none → parse e [] = .ok (.run {})
  named : ∀ {e name}, Environment.bytes? e Variable.config = some name → name ≠ #[] →
    parse e [] = .ok (.run { config := some name })
  empty : ∀ {e}, Environment.bytes? e Variable.config = some #[] → ∃ error, parse e [] = .error error

theorem Invocation.of_nil (e : Environment) :
    Invocation.of e [] = (({} : Arguments).withEnvironment e).map .run := by
  change (({} : Arguments).withEnvironment e).bind (fun a => .ok (run a)) = _
  cases ({} : Arguments).withEnvironment e <;> rfl

theorem Invocation.takesName : ArgumentParser.TakesName Invocation.of where
  unnamed h := by
    rw [of_nil, Arguments.withEnvironment, h]
    rfl
  named h hne := by
    rw [of_nil, Arguments.withEnvironment, h]
    simp only [if_neg hne]
    rfl
  empty h := by
    rw [of_nil, Arguments.withEnvironment, h]
    exact ⟨_, rfl⟩

/-! ### The configuration of a program -/

namespace Program

variable {parse : ArgumentParser} {reader : FileReader} {e : Environment}

/-- The configuration that a program comes to, if it comes to a run. -/
def configured (parse : ArgumentParser) (reader : FileReader) (e : Environment)
    (arguments : List String) : Option Configuration :=
  match parse e arguments with
  | .ok (.run a) => (a.configure reader e).2.toOption
  | .ok .help | .ok .version | .error _ => none

/-- A program that is ready for a run has got to its configuration. -/
theorem configured_of_start {s : Setting} {arguments : List String} {ready : Ready}
    (h : start s arguments = .ok ready) :
    configured s.parse s.reader s.environment arguments = some ready.configuration := by
  unfold start at h
  unfold configured
  split at h
  · cases h
  · cases h
  · cases h
  · next a ha =>
    simp only [ha]
    generalize a.configure s.reader s.environment = outcome at h ⊢
    obtain ⟨logs, configuration⟩ := outcome
    cases configuration with
    | error trouble => cases trouble <;> cases h
    | ok c =>
      dsimp only at h
      split at h
      · cases h
      · cases h
        rfl

theorem configure_name (reader : FileReader) (e : Environment) (name? : Option FileName) :
    (({ config := name? } : Arguments).configure reader e).2 =
      (Configuration.loadFrom reader e name?).2 := by
  have hoverride (c : Configuration) : ({ config := name? } : Arguments).override c = c := by
    simp [Arguments.override]
  rw [Arguments.configure_eq]
  cases hloaded : (Configuration.loadFrom reader e name?).2 with
  | error trouble => rfl
  | ok c =>
    obtain ⟨-, V⟩ := Configuration.loadFrom_eq_ok.mp hloaded
    rw [Except.bind, hoverride, Configuration.validate_eq_ok.mpr V]
    rfl

/-- Without arguments, any name that is not empty is the name of a file that is read. -/
theorem configured_nil (hparse : parse.TakesName) (reader : FileReader) (e : Environment) :
    configured parse reader e [] =
      if e.bytes? Variable.config = some #[] then none
      else (Configuration.loadFrom reader e (e.bytes? Variable.config)).2.toOption := by
  unfold configured
  cases hname : e.bytes? Variable.config with
  | none => simp only [hparse.unnamed hname, configure_name, reduceCtorEq, if_false]
  | some name =>
    by_cases hempty : name = #[]
    · subst hempty
      obtain ⟨error, herror⟩ := hparse.empty hname
      simp only [herror, if_true]
    · simp only [hparse.named hname hempty, configure_name, Option.some.injEq, hempty, if_false]

/-- A program without arguments comes to the configuration that `load` comes to, or neither comes to one,
if the name of the settings file is a text that is not blank, or is not set. For any other name `load`
reads no file, and the program reads the file so called; an empty name it refuses. -/
theorem configured_without_arguments (hparse : parse.TakesName) (reader : FileReader)
    (e : Environment) :
    (e.bytes? Variable.config = none ∨
        (∃ text, e.text? Variable.config = some text ∧ ¬isBlankText text) →
      configured parse reader e [] = (Configuration.load reader e).2.toOption) ∧
    ∀ name, e.bytes? Variable.config = some name →
      (∀ text, e.text? Variable.config = some text → isBlankText text) →
      Configuration.load reader e = Configuration.loadFrom reader e none ∧
        configured parse reader e [] =
          if name = #[] then none
          else (Configuration.loadFrom reader e (some name)).2.toOption := by
  refine ⟨?_, fun name hname hblank => ⟨?_, ?_⟩⟩
  · rintro (hnone | ⟨text, htext, hblank⟩)
    · have hnotext (text : String) (h : e.text? Variable.config = some text) : isBlankText text := by
        obtain ⟨bytes, hbytes, -⟩ := Configuration.exists_bytes_of_text? h
        cases hnone.symm.trans hbytes
      rw [configured_nil hparse, hnone, Configuration.load, Configuration.fileName?_eq_none hnotext]
      rfl
    · have hne : e.bytes? Variable.config ≠ some #[] := by
        intro hempty
        obtain ⟨bytes, hbytes, htext'⟩ := Configuration.exists_bytes_of_text? htext
        cases hempty.symm.trans hbytes
        rw [strictText?, Utf8.decode?] at htext'
        cases htext'
        exact hblank rfl
      rw [configured_nil hparse, if_neg hne, Configuration.load,
        Configuration.fileName?_eq htext hblank]
  · rw [Configuration.load, Configuration.fileName?_eq_none hblank]
  · rw [configured_nil hparse, hname]
    simp only [Option.some.injEq]

/-! ### A blank name -/

open TickCapture.Configuration (standardCount standardCount_valid)

/-- An environment that names a settings file. -/
def nameSet (name : String) : Environment := ⟨[(Variable.config, Bytes.ofText name)]⟩

/-- What a file holds that sets the directory for the images. -/
def otherText : List Char :=
  ['{', '"', 'o', 'u', 't', 'p', 'u', 't', '"', ':',
    '{', '"', 'd', 'i', 'r', '"', ':', '"', 'o', 't', 'h', 'e', 'r', '"', '}', '}']

def otherFiles : FileReader := .sameFiles otherText

/-- The defaults with that directory. -/
def otherDir : Configuration := { standardCount 100 with dir := "other".toList }

theorem loadFrom_none (name : String) :
    (Configuration.loadFrom otherFiles (nameSet name) none).2 = .ok (standardCount 100) := by
  have hmerge : Configuration.merge otherFiles (nameSet name) none = .ok (standardCount 100) := by
    simp only [Configuration.merge, Configuration.withEnvironment, Configuration.override,
      Configuration.present?]
    rfl
  exact Configuration.loadFrom_eq_ok.mpr ⟨hmerge, standardCount_valid (by decide)⟩

theorem loadFrom_otherFiles (name : String) {file : FileName}
    (hformat : FileSettings.formatOf file = .json) :
    (Configuration.loadFrom otherFiles (nameSet name) (some file)).2 = .ok otherDir := by
  have hfile : otherFiles.read file = .ok { output := { dir := some "other".toList } } :=
    FileReader.read_sameFiles (d := .table [("output", .table [("dir", .text "other")])])
      hformat (by decide +kernel) rfl rfl
  have hmerge : Configuration.merge otherFiles (nameSet name) (some file) = .ok otherDir := by
    simp only [Configuration.merge, hfile, Configuration.withEnvironment, Configuration.override,
      Configuration.present?]
    rfl
  have V : (standardCount 100).Valid := standardCount_valid (by decide)
  exact Configuration.loadFrom_eq_ok.mpr ⟨hmerge, V.device, V.buffers, V.stem, V.pipeline⟩

/-- A file that the environment names, and one with a blank name. -/
theorem configured_other_files :
    configured Invocation.of otherFiles (nameSet "f") [] =
      (Configuration.load otherFiles (nameSet "f")).2.toOption ∧
    Configuration.load otherFiles (nameSet " ") =
      Configuration.loadFrom otherFiles (nameSet " ") none := by
  have hname : (nameSet "f").text? Variable.config = some "f" := by decide +kernel
  have hblank : (nameSet " ").text? Variable.config = some " " := by decide +kernel
  constructor
  · refine (configured_without_arguments Invocation.takesName _ _).1 (.inr ⟨"f", hname, ?_⟩)
    decide +kernel
  · refine ((configured_without_arguments Invocation.takesName _ _).2 _ rfl fun text htext => ?_).1
    obtain rfl := Option.some.inj (hblank.symm.trans htext)
    decide +kernel

/-- With a blank name, the program reads a file that `load` does not. -/
theorem configured_blank_name :
    configured Invocation.of otherFiles (nameSet " ") [] = some otherDir ∧
    (Configuration.load otherFiles (nameSet " ")).2.toOption = some (standardCount 100) ∧
    configured Invocation.of otherFiles (nameSet " ") [] ≠
      (Configuration.load otherFiles (nameSet " ")).2.toOption := by
  have htext : (nameSet " ").text? Variable.config = some " " := by decide +kernel
  have hnone : Configuration.fileName? (nameSet " ") = none := by
    apply Configuration.fileName?_eq_none
    intro text h
    obtain rfl := Option.some.inj (htext.symm.trans h)
    decide +kernel
  have hload : (Configuration.load otherFiles (nameSet " ")).2.toOption =
      some (standardCount 100) := by
    rw [Configuration.load, hnone]
    exact congrArg Except.toOption (loadFrom_none " ")
  have hprogram : configured Invocation.of otherFiles (nameSet " ") [] = some otherDir := by
    have hname : (nameSet " ").bytes? Variable.config = some (Bytes.ofText " ") := rfl
    rw [configured_nil Invocation.takesName, hname, if_neg (by decide +kernel)]
    exact congrArg Except.toOption (loadFrom_otherFiles " " (by decide +kernel))
  refine ⟨hprogram, hload, fun h => ?_⟩
  rw [hprogram, hload] at h
  have hdir := congrArg Configuration.dir (Option.some.inj h)
  exact absurd hdir (by decide)

end Program
end TickCapture
