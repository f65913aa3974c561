import LotSearch.Proofs.Json.Fields
import LotSearch.Proofs.Text.Trim
import LotSearch.Settings.Environment

/-!
# The credential for the language model

Two variables of the environment can hold the credential: the service's own, and one that is common
to programs.  The service's own comes first.  It is preferred before anybody looks at what is in
it, so a blank value in it also hides the common variable, and the service goes on without a model;
in every other environment the credential is the first that is set and not blank.
-/

namespace LotSearch

/-- Whether a text holds nothing but blanks. -/
def Text.IsBlank (t : Text) : Prop := ∀ c ∈ t, isBlank c = true

namespace Environment

variable {env : Environment} {name : String} {value : Text} {given : Option Text}

/-- Whether a variable gives a setting a value.  The name of the setting is in small letters, and
capitals do not matter in that of the variable. -/
def Gives (env : Environment) (name : String) (value : Text) : Prop :=
  ∃ n, (n, value) ∈ env ∧ Text.lower n = name.toList

theorem mem_values_iff : value ∈ env.values name ↔ env.Gives name value := by
  simp [values, Gives, and_comm]

/-- A setting that can be read has the one value that it is given, if any. -/
theorem gives_iff_of_setting (h : env.setting name = .ok given) :
    env.Gives name value ↔ given = some value := by
  rw [← mem_values_iff]
  rw [setting] at h
  split at h
  · rename_i hnone
    cases h
    simp [hnone]
  · rename_i only hone
    cases h
    simp [hone, eq_comm]
  · cases h

/-- Whether a credential is the first of the service's own and the common one that is set and not
blank, without the blanks around it; there is none only when both are unset or blank. -/
structure HasFirstCredential (env : Environment) (key : Option Text) : Prop where
  own : ∀ value, env.Gives "parcel_llm_api_key" value → ¬ value.IsBlank →
    key = some (Text.trim value)
  common : (∀ value, env.Gives "parcel_llm_api_key" value → value.IsBlank) →
    ∀ value, env.Gives "openai_api_key" value → ¬ value.IsBlank → key = some (Text.trim value)
  none_iff : key = none ↔
    (∀ value, env.Gives "parcel_llm_api_key" value → value.IsBlank) ∧
      ∀ value, env.Gives "openai_api_key" value → value.IsBlank

namespace HasFirstCredential

theorem of_own (hvalue : env.Gives "parcel_llm_api_key" value)
    (honly : ∀ v, env.Gives "parcel_llm_api_key" v → v = value) (hkey : ¬ value.IsBlank) :
    env.HasFirstCredential (some (Text.trim value)) where
  own v hv _ := by rw [honly v hv]
  common hblank := absurd (hblank value hvalue) hkey
  none_iff := iff_of_false (Option.some_ne_none _) fun h => hkey (h.1 value hvalue)

theorem of_common (hown : ∀ v, env.Gives "parcel_llm_api_key" v → v.IsBlank)
    (hvalue : env.Gives "openai_api_key" value)
    (honly : ∀ v, env.Gives "openai_api_key" v → v = value) (hkey : ¬ value.IsBlank) :
    env.HasFirstCredential (some (Text.trim value)) where
  own v hv hnot := absurd (hown v hv) hnot
  common _ v hv _ := by rw [honly v hv]
  none_iff := iff_of_false (Option.some_ne_none _) fun h => hkey (h.2 value hvalue)

theorem of_blank (hown : ∀ v, env.Gives "parcel_llm_api_key" v → v.IsBlank)
    (hcommon : ∀ v, env.Gives "openai_api_key" v → v.IsBlank) :
    env.HasFirstCredential none where
  own v hv hnot := absurd (hown v hv) hnot
  common _ v hv hnot := absurd (hcommon v hv) hnot
  none_iff := iff_of_true rfl ⟨hown, hcommon⟩

end HasFirstCredential

/-- Whether the service's own variable is set to nothing but blanks, while the common one holds a
credential. -/
def BlankHidesCredential (env : Environment) : Prop :=
  (∃ value, env.Gives "parcel_llm_api_key" value ∧ value.IsBlank) ∧
    ∃ value, env.Gives "openai_api_key" value ∧ ¬ value.IsBlank

theorem BlankHidesCredential.not_hasFirstCredential (h : env.BlankHidesCredential) :
    ¬ env.HasFirstCredential none := by
  obtain ⟨-, value, hvalue, hcredential⟩ := h
  intro hfirst
  exact hcredential ((hfirst.none_iff.1 rfl).2 value hvalue)

end Environment

namespace Settings

theorem credential?_of_blank {value : Text} (h : value.IsBlank) :
    credential? (some value) = none := by
  have hnil : Text.trim value = [] := Text.trim_eq_nil_iff.2 h
  simp [credential?, hnil]

theorem credential?_of_not_blank {value : Text} (h : ¬ value.IsBlank) :
    credential? (some value) = some (Text.trim value) := by
  have hnil : Text.trim value ≠ [] := fun hnil => h (Text.trim_eq_nil_iff.1 hnil)
  simp [credential?, hnil]

variable {env : Environment} {resolve : Resolver} {settings : Settings}

/-- Where the credential comes from when the settings can be read. -/
theorem exists_keys_of_ofEnvironment (h : ofEnvironment env resolve = .ok settings) :
    ∃ own common, (∀ value, env.Gives "parcel_llm_api_key" value ↔ own = some value) ∧
      (∀ value, env.Gives "openai_api_key" value ↔ common = some value) ∧
      settings.model.apiKey = credential? (own.or common) := by
  simp only [ofEnvironment, bind_eq_ok_iff] at h
  obtain ⟨address, -, host, -, port, -, parcelDatabase, -, database, -, poolSize, -, root, -,
    certificate, -, key, -, maxRows, -, timeout, -, own, hown, common, hcommon, baseUrl, -,
    model, -, modelTimeout, -, temperature, -, maxTokens, -, listenAddress, -, h⟩ := h
  refine ⟨own, common, fun _ => Environment.gives_iff_of_setting hown,
    fun _ => Environment.gives_iff_of_setting hcommon, ?_⟩
  split at h
  · cases h
  · cases h
    rfl

theorem apiKey_of_blankHidesCredential (h : ofEnvironment env resolve = .ok settings)
    (hhidden : env.BlankHidesCredential) : settings.model.apiKey = none := by
  obtain ⟨own, common, hown, -, hkey⟩ := exists_keys_of_ofEnvironment h
  obtain ⟨⟨value, hvalue, hblank⟩, -⟩ := hhidden
  rw [hkey, (hown value).1 hvalue]
  exact credential?_of_blank hblank

theorem hasFirstCredential_of_not_blankHides (h : ofEnvironment env resolve = .ok settings)
    (hvisible : ¬ env.BlankHidesCredential) : env.HasFirstCredential settings.model.apiKey := by
  obtain ⟨own, common, hown, hcommon, hkey⟩ := exists_keys_of_ofEnvironment h
  rw [hkey]
  rcases own with _ | value
  · have hunset : ∀ v, env.Gives "parcel_llm_api_key" v → v.IsBlank := by simp [hown]
    rcases common with _ | value
    · exact .of_blank hunset (by simp [hcommon])
    · rw [Option.none_or]
      by_cases hblank : value.IsBlank
      · rw [credential?_of_blank hblank]
        exact .of_blank hunset (by simpa [hcommon] using hblank)
      · rw [credential?_of_not_blank hblank]
        exact .of_common hunset ((hcommon value).2 rfl) (by simp [hcommon, eq_comm]) hblank
  · rw [Option.some_or]
    by_cases hblank : value.IsBlank
    · rw [credential?_of_blank hblank]
      refine .of_blank (by simpa [hown] using hblank) fun v hv => ?_
      by_contra hcredential
      exact hvisible ⟨⟨value, (hown value).2 rfl, hblank⟩, v, hv, hcredential⟩
    · rw [credential?_of_not_blank hblank]
      exact .of_own ((hown value).2 rfl) (by simp [hown, eq_comm]) hblank

/-- On every machine, whatever names it knows, the credential is the first that is set and not
blank, unless a blank value stands in front of it; then the service has none. -/
theorem apiKey_ofEnvironment_iff (h : ofEnvironment env resolve = .ok settings) :
    (env.HasFirstCredential settings.model.apiKey ↔ ¬ env.BlankHidesCredential) ∧
      (env.BlankHidesCredential → settings.model.apiKey = none) := by
  refine ⟨⟨fun hfirst hhidden => ?_, hasFirstCredential_of_not_blankHides h⟩,
    apiKey_of_blankHidesCredential h⟩
  rw [apiKey_of_blankHidesCredential h hhidden] at hfirst
  exact hhidden.not_hasFirstCredential hfirst

/-- A name service that knows one name. -/
def localNames : Resolver := .ofTable [("localhost".toList, .v4 [127, 0, 0, 1])]

/-- An environment with both variables, one of them in unusual capitals, and with a host that has
to be looked up. -/
def bothKeys : Environment :=
  [("DATABASE_URL".toList, "postgres://localhost/parcels".toList),
    ("PARCEL_LISTEN_HOST".toList, "localhost".toList), ("OPENAI_API_KEY".toList, "sk-common".toList),
    ("Parcel_LLM_API_Key".toList, " sk-own\n".toList)]

theorem apiKey_ofEnvironment_bothKeys : ∃ settings,
    ofEnvironment bothKeys localNames = .ok settings ∧
      bothKeys.HasFirstCredential settings.model.apiKey ∧
        settings.model.apiKey = some "sk-own".toList := by
  have hread : (ofEnvironment bothKeys localNames).toOption.map (fun s => s.model.apiKey) =
      some (some "sk-own".toList) := by decide +kernel
  cases hsettings : ofEnvironment bothKeys localNames with
  | error problem => simp [hsettings, Except.toOption] at hread
  | ok settings =>
      have hkey : settings.model.apiKey = some "sk-own".toList := by
        simpa [hsettings, Except.toOption] using hread
      refine ⟨settings, rfl, (apiKey_ofEnvironment_iff hsettings).1.2 fun hhidden => ?_, hkey⟩
      simp [apiKey_of_blankHidesCredential hsettings hhidden] at hkey

/-- An environment in which the service's own variable is blank. -/
def blankKey : Environment :=
  [("DATABASE_URL".toList, "postgres://localhost/parcels".toList),
    ("PARCEL_LLM_API_KEY".toList, "   ".toList), ("OPENAI_API_KEY".toList, "sk-test".toList)]

/-- A blank value is taken before the credential behind it, and then counts as none. -/
theorem not_hasFirstCredential_blankKey : ∃ settings,
    ofEnvironment blankKey localNames = .ok settings ∧ settings.model.apiKey = none ∧
      ¬ blankKey.HasFirstCredential settings.model.apiKey := by
  have hhidden : blankKey.BlankHidesCredential := by
    refine ⟨⟨"   ".toList, ⟨"PARCEL_LLM_API_KEY".toList, by decide, by decide⟩, ?blank⟩,
      "sk-test".toList, ⟨"OPENAI_API_KEY".toList, by decide, by decide⟩, ?credential⟩
    case blank => exact List.all_eq_true.1 (by decide)
    case credential => exact fun hblank => absurd (hblank 's' (by decide)) (by decide)
  have hread : (ofEnvironment blankKey localNames).isOk = true := by decide +kernel
  cases hsettings : ofEnvironment blankKey localNames with
  | error problem => simp [hsettings, Except.isOk, Except.toBool] at hread
  | ok settings =>
      have hkey : settings.model.apiKey = none := apiKey_of_blankHidesCredential hsettings hhidden
      exact ⟨settings, rfl, hkey, hkey ▸ hhidden.not_hasFirstCredential⟩

end Settings

end LotSearch
