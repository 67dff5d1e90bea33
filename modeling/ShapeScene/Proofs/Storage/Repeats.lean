import ShapeScene.Proofs.Scene.RoundTrip
import ShapeScene.Proofs.Storage.Listing
import ShapeScene.Proofs.Storage.Visits

/-!
# Scenes that are listed twice

A scene that is kept in both formats is found twice. A listing drops the second summary only when it
stands directly behind the first, so the scene is listed twice as soon as another scene was made in
between.
-/

namespace ShapeScene

open SceneStore

namespace Stock

/-- Whether no other scene comes between two copies of one scene that are kept. -/
def Together (stock : Stock) : Prop :=
  ∀ first second between, stock.Shows first → stock.Shows second → stock.Shows between →
    first.id = second.id → listedBefore first between = true →
    listedBefore between second = true → between.id = first.id

/-- The summaries found in a folder stand together exactly when the copies kept there do. -/
theorem together_found {stock : Stock} {folder : Folder} (keeps : folder.Keeps stock)
    (follow : String → Except IoFailure (List UInt8)) :
    SceneStore.Together (folder.filterMap (summaryOf? follow)) ↔ stock.Together := by
  simp only [SceneStore.Together, Together, keeps.mem_found]
  constructor
  · intro together first second between isFirst isSecond isBetween
    exact together first isFirst second isSecond between isBetween
  · intro together first isFirst second isSecond between isBetween
    exact together first second between isFirst isSecond isBetween

end Stock

/-- After visits to a folder that was empty at first, a listing names every scene once exactly when
no other scene comes between two copies of one scene that are kept. -/
theorem SceneStore.listed_once_iff {store : SceneStore} {tree : FileTree} {place : List String}
    {visits : List Visit} (here : store.IsAt tree place)
    (there : ∀ visit ∈ visits, visit.store.IsAt tree place)
    (empty : tree.root.at? place = some []) :
    ∃ listed, store.list (serveAll visits tree).2 = .ok listed ∧
      ((listed.map SceneSummary.id).Nodup ↔ (Stock.empty.afterAll visits).Together) := by
  obtain ⟨leads, folder, found, kept⟩ := keeps_serveAll there (FileTree.keeps_empty empty)
  refine ⟨_, (here.of_leadsAs leads).list found, ?_⟩
  rw [nodup_summaries_iff]
  exact Stock.together_found kept _

/-- A scene is saved as JSON, another one after it, and then the first again as MessagePack. -/
def Visit.aroundAnother : List Visit :=
  [⟨⟨"scenes", .json⟩, .save (.bareAt "a" "1")⟩,
    ⟨⟨"scenes", .json⟩, .save (.bareAt "b" "2")⟩,
    ⟨⟨"scenes", .messagePack⟩, .save (.bareAt "a" "3")⟩]

/-- The scene that was saved twice is listed twice. -/
theorem SceneStore.listed_twice_around_another :
    ∃ listed, list ⟨"scenes", .json⟩ (serveAll Visit.aroundAnother .withNewFolder).2 = .ok listed ∧
      ¬(listed.map SceneSummary.id).Nodup := by
  have there : ∀ visit ∈ Visit.aroundAnother, visit.store.IsAt .withNewFolder ["scenes"] := by
    intro visit member
    simp only [Visit.aroundAnother, List.mem_cons, List.not_mem_nil, or_false] at member
    rcases member with rfl | rfl | rfl
    · exact isAt_new .json
    · exact isAt_new .json
    · exact isAt_new .messagePack
  obtain ⟨listed, answered, once⟩ := listed_once_iff (isAt_new .json) there rfl
  refine ⟨listed, answered, ?_⟩
  rw [once]
  intro together
  have shows : ∀ format id timestamp,
      Stock.empty.afterAll Visit.aroundAnother format id = some (.bareAt id timestamp) →
      SceneRecord.Fits (.bareAt id timestamp) MessagePack.Counts →
      (Stock.empty.afterAll Visit.aroundAnother).Shows
        (SceneRecord.bareAt id timestamp).summary :=
    fun format id timestamp kept fit =>
      ⟨format, id, _, _, kept, SceneRecord.ofBytes_bareAt fit format, rfl⟩
  have first := shows .json "a" "1" rfl ⟨by decide, by decide, by decide⟩
  have between := shows .json "b" "2" rfl ⟨by decide, by decide, by decide⟩
  have second := shows .messagePack "a" "3" rfl ⟨by decide, by decide, by decide⟩
  have same := together _ _ _ first second between rfl (by decide) (by decide)
  exact absurd same (by decide)

end ShapeScene
