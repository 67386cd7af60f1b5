import GradeRelay.Proofs.Except
import GradeRelay.Proofs.Stripping
import GradeRelay.Settings
/-!
# Settings in layers

The built-in values stand in two places: they fill the keys that a settings file lacks, and they are
the settings where there is no file. Two environment variables go before both, and what comes out is
checked last. A variable that is no text counts as one that is not set.

* `SettingsFile.ofTable_ok_iff`, `SettingsFile.ofText_ok_iff`: a file is read as what it says;
* `Settings.layers_iff`: the layers make up one collection of settings;
* `load_eq_layered`, `load_ok_iff`: a file counts by what it says alone, and what is loaded of it;
* `load_of_address`, `load_of_blank_address`: an address in the environment goes before the file's;
* **`settings_layered`**: what is loaded, key by key, and which fault is found where nothing is.
-/

namespace GradeRelay

/-! ## What a file says -/

/-- The keys are those of a table: each is missing there or has a value of its type, and the numbers
of seconds are not negative. -/
structure SettingsFile.KeysOf (f : SettingsFile) (t : Toml.Table) : Prop where
  baseUrl : t.get? "base_url" = f.baseUrl.map Toml.Item.string
  apiToken : t.get? "api_token" = f.apiToken.map Toml.Item.string
  timeout : t.get? "timeout_secs" = f.timeout.map fun n : Nat => Toml.Item.integer n
  connectTimeout : t.get? "connect_timeout_secs" =
    f.connectTimeout.map fun n : Nat => Toml.Item.integer n
  databasePath : t.get? "database_path" = f.databasePath.map Toml.Item.string
  graderRole : t.get? "grader_role_id" = f.graderRole.map Toml.Item.integer

/-- A document says which keys are set: none if it is absent, else those of the table that its text
stands for. -/
inductive Document.Says : Document → SettingsFile → Prop where
  | absent : Says .absent {}
  | text {t : String} {table : Toml.Table} {f : SettingsFile} (hread : Toml.read t = some table)
      (hkeys : f.KeysOf table) : Says (.text t) f

namespace SettingsFile

variable {t : Toml.Table} {key : String} {f : SettingsFile}

theorem stringAt_ok_iff {o : Option String} :
    stringAt t key = .ok o ↔ t.get? key = o.map Toml.Item.string := by
  unfold stringAt
  cases t.get? key with
  | none => cases o <;> simp
  | some item => cases item <;> cases o <;> simp

theorem integerAt_ok_iff {o : Option Int} :
    integerAt t key = .ok o ↔ t.get? key = o.map Toml.Item.integer := by
  unfold integerAt
  cases t.get? key with
  | none => cases o <;> simp
  | some item => cases item <;> cases o <;> simp

theorem naturalAt_ok_iff {o : Option Nat} :
    naturalAt t key = .ok o ↔ t.get? key = o.map fun n : Nat => Toml.Item.integer n := by
  unfold naturalAt
  rw [Except.bind_eq_ok_iff]
  constructor
  · rintro ⟨found, hfound, h⟩
    rw [integerAt_ok_iff] at hfound
    cases found with
    | none =>
      cases h
      exact hfound
    | some n =>
      dsimp only at h
      split at h
      · next hn =>
        cases h
        rw [hfound, Option.map_some, Option.map_some, Int.toNat_of_nonneg hn]
      · cases h
  · intro h
    cases o with
    | none => exact ⟨none, integerAt_ok_iff.2 h, rfl⟩
    | some n =>
      refine ⟨some (n : Int), integerAt_ok_iff.2 h, ?_⟩
      dsimp only
      rw [if_pos (Int.natCast_nonneg n), Int.toNat_natCast]
      rfl

theorem ofTable_ok_iff : ofTable t = .ok f ↔ f.KeysOf t := by
  simp only [ofTable, Except.bind_eq_ok_iff, stringAt_ok_iff, naturalAt_ok_iff, integerAt_ok_iff]
  constructor
  · rintro ⟨_, h₁, _, h₂, _, h₃, _, h₄, _, h₅, _, h₆, h⟩
    cases h
    exact ⟨h₁, h₂, h₃, h₄, h₅, h₆⟩
  · rintro ⟨h₁, h₂, h₃, h₄, h₅, h₆⟩
    exact ⟨_, h₁, _, h₂, _, h₃, _, h₄, _, h₅, _, h₆, rfl⟩

theorem ofText_ok_iff {text : String} : ofText text = .ok f ↔ (Document.text text).Says f := by
  unfold ofText
  constructor
  · intro h
    split at h
    · cases h
    · next table hread => exact .text hread (ofTable_ok_iff.1 h)
  · intro h
    cases h with
    | text hread hkeys =>
      rw [hread]
      exact ofTable_ok_iff.2 hkeys

end SettingsFile

/-! ## The layers -/

/-- The value of a key: the one in the file, or the built-in one where the file has none. -/
def FromFile {α : Type} (inFile : Option α) (builtIn value : α) : Prop :=
  inFile = some value ∨ inFile = none ∧ value = builtIn

/-- The value of a key before which a variable goes: the variable's, unless that is not set or
empty. -/
def FromVariable (set inFile : Option String) (builtIn value : String) : Prop :=
  set = some value ∧ value ≠ "" ∨ (set = none ∨ set = some "") ∧ FromFile inFile builtIn value

namespace Settings

variable {c c' : Settings} {f : SettingsFile} {environment : String → Option String}

/-- The settings take each value from the topmost layer that has it: the address and the token from
the environment, what is left from the file, and from the built-in values what is left then. -/
structure Layers (c : Settings) (f : SettingsFile) (environment : String → Option String) :
    Prop where
  baseUrl : FromVariable (environment "GRADESYNC_BASE_URL") f.baseUrl "http://localhost:8080/api/"
    c.baseUrl
  apiToken : FromVariable (environment "GRADESYNC_API_TOKEN") f.apiToken "" c.apiToken
  timeout : FromFile f.timeout 30 c.timeout
  connectTimeout : FromFile f.connectTimeout 10 c.connectTimeout
  databasePath : FromFile f.databasePath "gradesync.db" c.databasePath
  graderRole : FromFile f.graderRole 11 c.graderRole

/-- The settings can be worked with: a delivery may take time, and the address is not blank. -/
structure Workable (c : Settings) : Prop where
  timed : c.timeout ≠ 0
  addressed : ∃ ch ∈ c.baseUrl.toList, Text.isBlank ch = false

theorem fromFile_iff {α : Type} {inFile : Option α} {builtIn value : α} :
    FromFile inFile builtIn value ↔ value = inFile.getD builtIn := by
  unfold FromFile
  cases inFile <;> simp [eq_comm]

theorem override?_of_set {name v : String} (h : environment name = some v) (hv : v ≠ "") :
    override? environment name = some v := by
  rw [override?, h, Option.filter_some, if_pos (by simpa using hv)]

theorem override?_of_unset {name : String}
    (h : environment name = none ∨ environment name = some "") :
    override? environment name = none := by
  rcases h with h | h <;> rw [override?, h] <;> rfl

theorem fromVariable_iff {name : String} {inFile : Option String} {builtIn value : String} :
    FromVariable (environment name) inFile builtIn value ↔
      value = (override? environment name).getD (inFile.getD builtIn) := by
  unfold FromVariable
  rw [fromFile_iff]
  by_cases hset : ∃ v, environment name = some v ∧ v ≠ ""
  · obtain ⟨v, h, hv⟩ := hset
    rw [override?_of_set h hv, h, Option.getD_some]
    constructor
    · rintro (⟨hvalue, -⟩ | ⟨hunset, -⟩)
      · exact (Option.some.inj hvalue).symm
      · simp [hv] at hunset
    · rintro rfl
      exact .inl ⟨rfl, hv⟩
  · have hunset : environment name = none ∨ environment name = some "" := by
      cases h : environment name with
      | none => exact .inl rfl
      | some v => exact .inr (congrArg some (Classical.not_not.1 fun hv => hset ⟨v, h, hv⟩))
    rw [override?_of_unset hunset]
    exact ⟨fun h => (h.resolve_left fun hv => hset ⟨value, hv⟩).2, fun h => .inr ⟨hunset, h⟩⟩

/-- **The layers make up** one collection of settings. -/
theorem layers_iff : c.Layers f environment ↔ c = (ofFile f).withEnvironment environment := by
  constructor
  · rintro ⟨h₁, h₂, h₃, h₄, h₅, h₆⟩
    cases c
    rw [fromVariable_iff] at h₁ h₂
    rw [fromFile_iff] at h₃ h₄ h₅ h₆
    subst h₁ h₂ h₃ h₄ h₅ h₆
    rfl
  · rintro rfl
    exact ⟨fromVariable_iff.2 rfl, fromVariable_iff.2 rfl, fromFile_iff.2 rfl, fromFile_iff.2 rfl,
      fromFile_iff.2 rfl, fromFile_iff.2 rfl⟩

/-! ## The check -/

theorem not_workable_of_blank (h : ∀ ch ∈ c.baseUrl.toList, Text.isBlank ch = true) :
    ¬ c.Workable := by
  rintro ⟨-, ch, hch, hvisible⟩
  exact Bool.false_ne_true (hvisible.symm.trans (h ch hch))

theorem check_ok (h : c.Workable) : c.check = .ok c := by
  rw [check, fault?, if_neg h.timed, Text.isBlankText_eq_false_iff.2 h.addressed]
  rfl

theorem check_untimed (h : c.timeout = 0) : c.check = .error (.settings .zeroTimeout) := by
  rw [check, fault?, if_pos h]

theorem check_blank (h : c.timeout ≠ 0) (hw : ¬ c.Workable) :
    c.check = .error (.settings .blankBaseUrl) := by
  have hblank : Text.isBlankText c.baseUrl = true := by
    rw [← Bool.not_eq_false, Text.isBlankText_eq_false_iff]
    exact fun haddressed => hw ⟨h, haddressed⟩
  rw [check, fault?, if_neg h, if_pos hblank]

theorem check_error (hw : ¬ c.Workable) : ∃ cause, c.check = .error (.settings cause) := by
  by_cases h : c.timeout = 0
  · exact ⟨_, check_untimed h⟩
  · exact ⟨_, check_blank h hw⟩

/-! ## Loading -/

variable {file : Document}

theorem layered_eq_check (h : c.Layers f environment) : layered f environment = c.check := by
  rw [layers_iff.1 h, layered]

/-- **A file counts by what it says**, and a missing one by saying nothing. -/
theorem load_eq_layered (h : file.Says f) : load file environment = layered f environment := by
  cases h with
  | absent => rfl
  | text hread hkeys =>
    rw [load, SettingsFile.ofText_ok_iff.2 (.text hread hkeys)]
    rfl

theorem load_layers (h : file.Says f) (hc : c.Layers f environment) :
    load file environment = c.check :=
  (load_eq_layered h).trans (layered_eq_check hc)

theorem load_ok_iff (h : file.Says f) (hc : c.Layers f environment) :
    load file environment = .ok c' ↔ c' = c ∧ c.Workable := by
  rw [load_layers h hc]
  by_cases hw : c.Workable
  · rw [check_ok hw, Except.ok.injEq, eq_comm]
    exact (and_iff_left hw).symm
  · obtain ⟨cause, herror⟩ := check_error hw
    rw [herror]
    exact iff_of_false nofun fun h => hw h.2

/-! ## An address in the environment -/

variable {url : String}

theorem exists_layers_baseUrl (hurl : environment "GRADESYNC_BASE_URL" = some url)
    (hne : url ≠ "") : ∃ c : Settings, c.Layers f environment ∧ c.baseUrl = url := by
  refine ⟨_, layers_iff.2 rfl, ?_⟩
  rw [withEnvironment, baseUrlVariable, override?_of_set hurl hne, Option.getD_some]

/-- **An address in the environment** helps where the file's is blank. -/
theorem load_of_address (h : file.Says f) (hurl : environment "GRADESYNC_BASE_URL" = some url)
    (hvisible : ∃ ch ∈ url.toList, Text.isBlank ch = false) (htimed : f.timeout ≠ some 0) :
    ∃ c, load file environment = .ok c ∧ c.baseUrl = url := by
  have hne : url ≠ "" := by
    rintro rfl
    obtain ⟨ch, hch, -⟩ := hvisible
    cases hch
  obtain ⟨c, hc, rfl⟩ := exists_layers_baseUrl (f := f) hurl hne
  have htime : c.timeout ≠ 0 := by
    rcases hc.timeout with hsaid | ⟨-, hbuiltIn⟩
    · exact fun hzero => htimed (hzero ▸ hsaid)
    · rw [hbuiltIn]
      decide
  exact ⟨c, (load_ok_iff h hc).2 ⟨rfl, htime, hvisible⟩, rfl⟩

/-- **A blank address in the environment** does harm, whatever the file's is. -/
theorem load_of_blank_address (h : file.Says f)
    (hurl : environment "GRADESYNC_BASE_URL" = some url) (hne : url ≠ "")
    (hblank : ∀ ch ∈ url.toList, Text.isBlank ch = true) :
    ∃ cause, load file environment = .error (.settings cause) := by
  obtain ⟨c, hc, rfl⟩ := exists_layers_baseUrl (f := f) hurl hne
  rw [load_layers h hc]
  exact check_error (not_workable_of_blank hblank)

/-- **What is loaded.** Whatever subset of the keys a settings file has, and if there is none, the
layers make up one collection of settings. It is loaded if it can be worked with, and else the
fault lies in the settings: a limit of no time, or where there is time a blank address. An empty
file counts as a missing one; an address in the environment goes before a blank one in the file, and
a blank one there, unless it is empty, before a good one in the file. -/
theorem settings_layered :
    (∀ (file : Document) (f : SettingsFile), file.Says f → ∀ environment : String → Option String,
      ∃ c : Settings, c.Layers f environment ∧ (∀ c', c'.Layers f environment → c' = c) ∧
        (∀ c', load file environment = .ok c' ↔ c' = c ∧ c.Workable) ∧
        (c.timeout = 0 → load file environment = .error (.settings .zeroTimeout)) ∧
        (c.timeout ≠ 0 → ¬ c.Workable →
          load file environment = .error (.settings .blankBaseUrl))) ∧
    (∀ environment, load (.text "") environment = load .absent environment) ∧
    (∀ (file : Document) (f : SettingsFile), file.Says f →
      ∀ (environment : String → Option String) (url : String),
        environment "GRADESYNC_BASE_URL" = some url →
        ((∃ ch ∈ url.toList, Text.isBlank ch = false) → f.timeout ≠ some 0 →
          ∃ c, load file environment = .ok c ∧ c.baseUrl = url) ∧
        (url ≠ "" → (∀ ch ∈ url.toList, Text.isBlank ch = true) →
          ∃ cause, load file environment = .error (.settings cause))) := by
  refine ⟨fun file f h environment => ?_, fun environment => ?_,
    fun file f h environment url hurl =>
      ⟨load_of_address h hurl, load_of_blank_address h hurl⟩⟩
  · obtain ⟨c, hc⟩ : ∃ c : Settings, c.Layers f environment := ⟨_, layers_iff.2 rfl⟩
    refine ⟨c, hc, fun c' hc' => (layers_iff.1 hc').trans (layers_iff.1 hc).symm,
      fun c' => load_ok_iff h hc, fun htime => ?_, fun htime hw => ?_⟩
    · rw [load_layers h hc, check_untimed htime]
    · rw [load_layers h hc, check_blank htime hw]
  · have hempty : (Document.text "").Says {} := SettingsFile.ofText_ok_iff.1 rfl
    rw [load_eq_layered hempty, load_eq_layered .absent]

/-- A file with two of the keys, its address blank. -/
def blankAddressFile : String := "base_url = \" \\t\"\ntimeout_secs = 5\n"

/-- An environment that has an address and an empty token. -/
def withAddress (url : String) (name : String) : Option String :=
  if name = "GRADESYNC_BASE_URL" then some url
  else if name = "GRADESYNC_API_TOKEN" then some ""
  else none

theorem withAddress_token (url : String) : withAddress url "GRADESYNC_API_TOKEN" = some "" := by
  rw [withAddress, if_neg (by decide), if_pos rfl]

/-- The blank address in the file is refused, the one in the environment replaces it, and a blank
one there is refused also where there is no file. -/
theorem settings_layered_blankAddress :
    load (.text blankAddressFile) (fun _ => none) = .error (.settings .blankBaseUrl) ∧
    load (.text blankAddressFile) (withAddress "https://records.example.org/") =
      .ok { baseUrl := "https://records.example.org/", timeout := 5 } ∧
    ∃ cause, load .absent (withAddress "\t") = .error (.settings cause) := by
  obtain ⟨hload, -, haddress⟩ := settings_layered
  have hsays : (Document.text blankAddressFile).Says { baseUrl := some " \t", timeout := some 5 } :=
    SettingsFile.ofText_ok_iff.1 (Except.ok_of_toOption (by decide +kernel))
  have hunset : Layers { baseUrl := " \t", timeout := 5 }
      { baseUrl := some " \t", timeout := some 5 } fun _ => none :=
    ⟨.inr ⟨.inl rfl, .inl rfl⟩, .inr ⟨.inl rfl, .inr ⟨rfl, rfl⟩⟩, .inl rfl, .inr ⟨rfl, rfl⟩,
      .inr ⟨rfl, rfl⟩, .inr ⟨rfl, rfl⟩⟩
  have hset : Layers { baseUrl := "https://records.example.org/", timeout := 5 }
      { baseUrl := some " \t", timeout := some 5 } (withAddress "https://records.example.org/") :=
    ⟨.inl ⟨if_pos rfl, by decide⟩, .inr ⟨.inr (withAddress_token _), .inr ⟨rfl, rfl⟩⟩, .inl rfl,
      .inr ⟨rfl, rfl⟩, .inr ⟨rfl, rfl⟩, .inr ⟨rfl, rfl⟩⟩
  refine ⟨?_, ?_, ?_⟩
  · obtain ⟨c, -, honly, -, -, hblank⟩ := hload _ _ hsays fun _ => none
    obtain rfl := honly _ hunset
    have hspaces : ∀ ch ∈ " \t".toList, Text.isBlank ch = true := List.all_eq_true.1 (by decide)
    exact hblank (by decide) (not_workable_of_blank hspaces)
  · obtain ⟨c, -, honly, hok, -⟩ := hload _ _ hsays (withAddress "https://records.example.org/")
    obtain rfl := honly _ hset
    exact (hok _).2 ⟨rfl, by decide, 'h', List.mem_cons_self, by decide⟩
  · exact (haddress _ _ .absent (withAddress "\t") "\t" (if_pos rfl)).2 (by decide)
      (List.all_eq_true.1 (by decide))

end Settings

end GradeRelay
