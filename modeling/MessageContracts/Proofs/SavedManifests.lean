import MessageContracts.Proofs.CosmeticLayout
import MessageContracts.Proofs.ManifestDocuments
import MessageContracts.Proofs.OutlineLengths

/-!
# Saved manifests

A manifest that is saved and read again asks for the same source if it has a region. Without one it
asks for more: the document says nothing about the region, so the stock one is put around every
source, and each source is longer by its two lines.
-/

namespace MessageContracts

namespace Outline

/-- The classes and interfaces do not depend on the region. -/
theorem coreLines_region (settings : Settings) (spelling : SpellingStyle) (region : Option String)
    (model : Model) (level : Nat) :
    coreLines ⟨{ settings with region }, spelling⟩ model level =
      coreLines ⟨settings, spelling⟩ model level := by
  have classes : classLines ⟨{ settings with region }, spelling⟩ level =
      classLines ⟨settings, spelling⟩ level := by
    apply classLines_congr <;> rfl
  rw [coreLines, coreLines, classes]
  rfl

end Outline

namespace Manifest

/-- The stock region makes every source longer that has none. -/
theorem length_source_lt {manifest : Manifest} (absent : manifest.settings.region = none)
    (model : Model) :
    (manifest.source model).length < (manifest.withStockRegion.source model).length := by
  refine Outline.length_text_namespaceLines _ _ (fun level => ?_) manifest.settings.nameSpace 0
  have core : Outline.coreLines manifest.withStockRegion.generator model level =
      Outline.coreLines manifest.generator model level :=
    Outline.coreLines_region manifest.settings Spelling.csharp _ model level
  have region : manifest.generator.settings.region = none := absent
  have stock_region : manifest.withStockRegion.generator.settings.region =
      some Settings.stockRegion := by
    change some (manifest.settings.region.getD Settings.stockRegion) = _
    rw [absent]
    rfl
  rw [core, region, stock_region]
  exact Outline.length_text_regionLines _ _ (by decide) level _

/-- Saving a manifest without a region changes everything that it writes. -/
theorem content_render_withStockRegion_ne {manifest : Manifest}
    (absent : manifest.settings.region = none) (model : Model) :
    (manifest.withStockRegion.render model .unlimited).store.content ≠
      (manifest.render model .unlimited).store.content := by
  intro same
  rw [(render_unlimited _ model).2, (render_unlimited _ model).2] at same
  have longer := length_source_lt absent model
  rw [String.toByteArray_inj.mp same] at longer
  exact Nat.lt_irrefl _ longer

/-- A manifest that is saved can always be read again, and exactly those with a region are read as
they were. A manifest with a region writes the same for every model, and one without it writes the
same for none: the one that is read has the stock region. -/
theorem render_saved (manifest : Manifest) :
    ∃ saved, ofToml manifest.toToml = .ok saved ∧ saved = manifest.withStockRegion ∧
      (saved = manifest ↔ manifest.settings.region ≠ none) ∧
      ∀ model, (saved.render model .unlimited).store.content =
        (manifest.render model .unlimited).store.content ↔ manifest.settings.region ≠ none := by
  have kept := @withStockRegion_of_ne_none manifest
  have changed := @content_render_withStockRegion_ne manifest
  refine ⟨manifest.withStockRegion, manifest.ofToml_toToml, rfl, ⟨fun same absent => ?_, kept⟩,
    fun model => ⟨fun same absent => changed absent model same, fun given => by rw [kept given]⟩⟩
  exact changed absent .empty (by rw [same])

/-- The stock manifest without a region. -/
def unmarked : Manifest := { stock with settings.region := none }

/-- The stock manifest without a region writes something else for every model once it is saved. -/
theorem unmarked_changed_by_saving :
    ∃ saved, ofToml unmarked.toToml = .ok saved ∧ ∀ model,
      (saved.render model .unlimited).store.content ≠
        (unmarked.render model .unlimited).store.content :=
  ⟨unmarked.withStockRegion, unmarked.ofToml_toToml, content_render_withStockRegion_ne rfl⟩

end Manifest

end MessageContracts
