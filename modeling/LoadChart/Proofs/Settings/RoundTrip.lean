import LoadChart.Proofs.Identifier
import LoadChart.Proofs.Json.Record
import LoadChart.Proofs.Json.Written
import LoadChart.Settings

/-!
# Settings that are kept

A file with some of the fields of settings, each in its written form, is read as settings with their
values for those fields and the standard values for the others.  So settings that are saved are the
ones that are loaded.
-/

namespace LoadChart

namespace Settings

/-- Settings with their own values for some fields and the standard ones for the others. -/
def keeping (settings : Settings) (keep : String → Bool) : Settings where
  serviceAddress := if keep "api_base_url" then settings.serviceAddress else standard.serviceAddress
  program := if keep "program_id" then settings.program else standard.program
  scale := if keep "default_scale" then settings.scale else standard.scale
  rangeDays := if keep "default_range_days" then settings.rangeDays else standard.rangeDays
  timeoutSeconds :=
    if keep "request_timeout_secs" then settings.timeoutSeconds else standard.timeoutSeconds
  logFilter := if keep "log_filter" then settings.logFilter else standard.logFilter

def textOf (settings : Settings) (keep : String → Bool) : String :=
  (Json.object (Json.kept keep settings.members)).indentedText

/-- The numbers of the settings fit into their words. -/
structure FitsWords (settings : Settings) : Prop where
  rangeDays : settings.rangeDays < 2 ^ 32
  timeoutSeconds : settings.timeoutSeconds < 2 ^ 64

variable {settings : Settings} {keep : String → Bool}

theorem keeping_all (settings : Settings) : settings.keeping (fun _ => true) = settings := rfl

theorem textOf_all (settings : Settings) : settings.textOf (fun _ => true) = settings.text := rfl

theorem members_names (settings : Settings) :
    settings.members.map Prod.fst =
      ["api_base_url", "program_id", "default_scale", "default_range_days", "request_timeout_secs",
        "log_filter"] := rfl

theorem members_distinct (settings : Settings) : (settings.members.map Prod.fst).Nodup := by
  rw [members_names]
  decide

theorem string?_string (text : String) : Json.string? (.string text) = some text := rfl

theorem scale?_word (scale : Scale) : Json.scale? (.string scale.word) = some scale := by
  cases scale <;> rfl

theorem identifier?_text (identifier : Identifier) :
    Json.identifier? (.string identifier.text) = some identifier := by
  rw [Json.identifier?, Json.string?, Option.bind_some, Identifier.ofText?_text]

theorem natural32?_integer {number : Nat} (small : number < 2 ^ 32) :
    Json.natural32? (.integer number) = some number := by
  have bounds : 0 ≤ (number : Int) ∧ (number : Int) ≤ powerOfTwo 32 - 1 := by
    have power : powerOfTwo 32 = 2 ^ 32 := rfl
    omega
  rw [Json.natural32?, Json.integer?, if_pos bounds]
  rfl

theorem natural64?_integer {number : Nat} (small : number < 2 ^ 64) :
    Json.natural64? (.integer number) = some number := by
  have bounds : 0 ≤ (number : Int) ∧ (number : Int) ≤ powerOfTwo 64 - 1 := by
    have power : powerOfTwo 64 = 2 ^ 64 := rfl
    omega
  rw [Json.natural64?, Json.integer?, if_pos bounds]
  rfl

theorem ofJson?_kept (fits : settings.FitsWords) (keep : String → Bool) :
    ofJson? (.object (Json.kept keep settings.members)) = some (settings.keeping keep) := by
  obtain ⟨record, isRecord, found⟩ := Json.record?_kept keep settings.members_distinct
  have serviceAddress := Json.Record.defaulted?_of_find?
    (found "api_base_url" (.string settings.serviceAddress) (by simp [members]))
    (string?_string settings.serviceAddress) standard.serviceAddress
  have program := Json.Record.optional?_of_find?
    (found "program_id" _ (List.mem_cons_of_mem _ List.mem_cons_self)) identifier?_text (by simp)
  have scale := Json.Record.defaulted?_of_find?
    (found "default_scale" (.string settings.scale.word) (by simp [members]))
    (scale?_word settings.scale) standard.scale
  have rangeDays := Json.Record.defaulted?_of_find?
    (found "default_range_days" (.integer settings.rangeDays) (by simp [members]))
    (natural32?_integer fits.rangeDays) standard.rangeDays
  have timeoutSeconds := Json.Record.defaulted?_of_find?
    (found "request_timeout_secs" (.integer settings.timeoutSeconds) (by simp [members]))
    (natural64?_integer fits.timeoutSeconds) standard.timeoutSeconds
  have logFilter := Json.Record.defaulted?_of_find?
    (found "log_filter" (.string settings.logFilter) (by simp [members]))
    (string?_string settings.logFilter) standard.logFilter
  have isFields : fields = (settings.members.map Prod.fst).map Json.Field.spare := rfl
  rw [ofJson?, isFields, isRecord]
  simp only [Option.bind_eq_bind, Option.bind_some, serviceAddress, program, scale, rangeDays,
    timeoutSeconds, logFilter]
  rfl

theorem kept_isPlain (fits : settings.FitsWords) (keep : String → Bool) :
    (Json.object (Json.kept keep settings.members)).IsPlain := by
  refine .object fun member isKept => ?_
  have isMember := (List.mem_filter.1 isKept).1
  have rangeDays := fits.rangeDays
  have timeoutSeconds := fits.timeoutSeconds
  have maxWord : Json.maxWord = 2 ^ 64 - 1 := rfl
  simp only [members, List.mem_cons, List.not_mem_nil, or_false] at isMember
  rcases isMember with rfl | rfl | rfl | rfl | rfl | rfl
  · exact .string _
  · cases settings.program with
    | none => exact .null
    | some program => exact .string _
  · exact .string _
  · exact .integer (by omega) (by omega)
  · exact .integer (by omega) (by omega)
  · exact .string _

theorem ofText?_textOf (fits : settings.FitsWords) (keep : String → Bool) :
    ofText? (settings.textOf keep) = some (settings.keeping keep) := by
  rw [ofText?, textOf, Json.ofText?_indentedText (kept_isPlain fits keep), Option.bind_some,
    ofJson?_kept fits keep]

/-- A file with some of the fields of settings, in their written forms, is loaded as settings with
their values for those fields and the standard ones for the others.  Wherever settings can be saved,
they are loaded as they were. -/
theorem survive_the_file (settings : Settings) (fits : settings.FitsWords) :
    (∀ keep isWritable,
      SettingsStore.load ⟨.text (settings.textOf keep), isWritable⟩ =
        .ok (settings.keeping keep)) ∧
    ∀ store : SettingsStore, store.isWritable = true →
      ∃ saved, store.save settings = .ok saved ∧ saved.load = .ok settings := by
  have loaded : ∀ keep isWritable,
      SettingsStore.load ⟨.text (settings.textOf keep), isWritable⟩ =
        .ok (settings.keeping keep) := by
    intro keep isWritable
    rw [SettingsStore.load]
    dsimp only
    rw [ofText?_textOf fits keep]
  refine ⟨loaded, fun store isWritable => ?_⟩
  have whole := loaded (fun _ => true) store.isWritable
  rw [textOf_all, keeping_all] at whole
  exact ⟨{ store with stored := .text settings.text }, if_pos isWritable, whole⟩

/-- Settings with quotes, escapes and letters beyond the first alphabet, and the greatest numbers.
-/
def sampleSettings : Settings :=
  { serviceAddress := "https://\"λ\"\\\n\x01", program := some ⟨0x6a5e4a559a3c6f0b0f1f2a11⟩,
    scale := .months, rangeDays := 4294967295, timeoutSeconds := 18446744073709551615,
    logFilter := "" }

/-- The settings of the sample survive, and so does their scale alone. -/
theorem survive_the_file_sample :
    sampleSettings.FitsWords ∧
      SettingsStore.load ⟨.text (sampleSettings.textOf (· == "default_scale")), false⟩ =
        .ok { standard with scale := .months } ∧
      ∃ saved, SettingsStore.save ⟨.missing, true⟩ sampleSettings = .ok saved ∧
        saved.load = .ok sampleSettings := by
  have fits : sampleSettings.FitsWords := ⟨by decide, by decide⟩
  obtain ⟨loaded, saved⟩ := survive_the_file sampleSettings fits
  refine ⟨fits, ?_, saved ⟨.missing, true⟩ rfl⟩
  rw [loaded]
  rfl

end Settings

end LoadChart
