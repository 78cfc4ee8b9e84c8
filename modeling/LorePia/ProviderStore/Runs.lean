import LorePia.ProviderStore.Steps

namespace LorePia.ProviderStore

open Lib

/-!
# The provider store — runs

* `selection_stays_consistent` — in every run under the condition the stored settings can be
  loaded and saved again without a change, in every state reached;
* `deletesSelectedDefaultPreset_halfCleared` — a run that ends in a half-cleared selection.
-/

variable {X : Externals} {uuid : String} {store : Store}

/-! ### The condition is exact -/

/-! ### Runs -/

/-- Every operation of a run meets its condition in the state it is performed in. -/
def RunKeepsSelection (X : Externals) (uuid : String) : Store → List Operation → Prop
  | _, [] => True
  | store, operation :: operations =>
    operation.KeepsSelection X store ∧
      RunKeepsSelection X uuid (operation.run X uuid store) operations

theorem runOperations_coherent (hs : Coherent store)
    (hkeeps : RunKeepsSelection X uuid store operations) :
    Coherent (runOperations X uuid store operations) := by
  induction operations generalizing store with
  | nil => exact hs
  | cons operation operations ih => exact ih (operation.run_coherent hs hkeeps.1) hkeeps.2

theorem RunKeepsSelection.take (h : RunKeepsSelection X uuid store operations) (n : Nat) :
    RunKeepsSelection X uuid store (operations.take n) := by
  induction operations generalizing store n with
  | nil =>
    rw [List.take_nil]
    trivial
  | cons operation operations ih =>
    cases n with
    | zero => trivial
    | succ n => exact ⟨h.1, ih h.2 n⟩

/-- **Consistent selections.** In every state of a run whose operations meet their conditions,
    the stored settings can be loaded and saved again, which changes nothing. -/
theorem selection_stays_consistent {operations : List Operation} (hs : Coherent store)
    (hkeeps : RunKeepsSelection X uuid store operations) (n : Nat) :
    SavesUnchanged uuid (runOperations X uuid store (operations.take n)) :=
  (runOperations_coherent hs (hkeeps.take n)).savesUnchanged

/-! ### A half-cleared selection -/

/-- A surrounding that accepts every request, with the parts of `https://a.b` and the derived
    identifier of the route of profile `p` for model `B`. -/
def acceptingExternals : Externals where
  ensureLegacyTemplateExists _ := .ok ()
  validateProviderConnection _ _ := .ok ()
  syncLocalNetworkApproval _ _ := .ok ()
  validateModelRoute _ _ := .ok ()
  validateGenerationPreset _ _ := .ok ()
  canonicalOriginForLegacyBaseUrl _ := .ok ⟨"https://a.b"⟩
  legacyApiBasePath _ := .ok none
  legacyNetworkMode _ := .ok .public
  legacyPresetValuesJson := "\x7b\x7d"
  uuidV5 _ := "68abca61-0f60-5787-a364-e04a1a9f2f8e"
  errorText _ := ""

def sampleProfile (model : String) : ProviderProfile where
  id := "p"
  displayName := "P"
  baseUrl := "https://a.b"
  model := model
  timeoutSeconds := 60

/-- A profile changes its model, which makes a sibling route with a preset of its name; the
    profile is selected, and the preset deleted. -/
def deletesSelectedDefaultPreset : List Operation :=
  [.saveProviderProfile (sampleProfile "A") "2026-01-01T00:00:00+00:00",
    .saveProviderProfile (sampleProfile "B") "2026-01-01T00:00:01+00:00",
    .saveSettings { AppSettings.default with selectedProviderProfileId := some "p" },
    .deleteGenerationPreset (acceptingExternals.uuidV5 "")]

/-- The profile stays selected without a route and a preset, and the settings can no longer be
    saved. -/
theorem deletesSelectedDefaultPreset_halfCleared :
    let store := runOperations acceptingExternals "" .empty deletesSelectedDefaultPreset
    loadSettings store = { AppSettings.default with selectedProviderProfileId := some "p" } ∧
      ¬ SavesUnchanged "" store := by
  have hload : loadSettings (runOperations acceptingExternals "" .empty
      deletesSelectedDefaultPreset) =
      { AppSettings.default with selectedProviderProfileId := some "p" } := by
    decide
  refine ⟨hload, fun h => ?_⟩
  have hselects := normalize_eq_self_iff.mp h.1
  cases hselects.clear_of_route.1

def selectsDefaultPreset : List Operation := deletesSelectedDefaultPreset.take 3

/-- The run up to the deletion meets the conditions. -/
theorem selection_stays_consistent_selectsDefaultPreset :
    SavesUnchanged "" (runOperations acceptingExternals "" .empty
      (selectsDefaultPreset.take 3)) := by
  have hkeeps : RunKeepsSelection acceptingExternals "" .empty selectsDefaultPreset :=
    ⟨⟨fun _ hids => absurd hids.1 (by decide), fun hid => absurd hid (by decide)⟩,
      ⟨fun _ hids => absurd hids.1 (by decide), fun hid => absurd hid (by decide)⟩,
      fun hnone => absurd hnone (by decide), trivial⟩
  exact selection_stays_consistent .empty hkeeps 3

end LorePia.ProviderStore
