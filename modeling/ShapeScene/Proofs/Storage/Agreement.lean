import ShapeScene.Proofs.Storage.Copies
import ShapeScene.Proofs.Storage.Latest

/-!
# Listing and loading

A listing and a store that loads go through the same files, so a scene is listed exactly when it can
be loaded. But of two copies of a scene the listing shows the one that is sorted first, and perhaps
the other one too, while the store loads the one in its own format.
-/

namespace ShapeScene

open SceneStore

namespace Stock

variable {stock : Stock} {id : String} {format : StoreFormat} {record : SceneRecord}

/-- A scene that is found is kept in some format. -/
theorem exists_of_first {formats : List StoreFormat}
    (found : stock.first id formats = some record) : ∃ format, stock format id = some record := by
  obtain ⟨format, -, kept⟩ := List.exists_of_findSome?_eq_some found
  exact ⟨format, kept⟩

/-- A scene is found exactly when it is kept in some format. -/
theorem exists_first_lookupOrder_iff :
    (∃ record, stock.first id format.lookupOrder = some record) ↔
      ∃ other record, stock other id = some record := by
  simp only [← Option.isSome_iff_exists]
  rw [isSome_first, keeps, List.any_eq_true]
  simp only [mem_lookupOrder, true_and]

/-- The copy in the first format is found first. -/
theorem first_lookupOrder_of_own (own : stock format id = some record) :
    stock.first id format.lookupOrder = some record := by
  cases format <;> simp [first, StoreFormat.lookupOrder, own]

/-- Without a copy in the first format the one in the other is found. -/
theorem first_lookupOrder_of_other (none : stock format id = none) {other : StoreFormat}
    (kept : stock other id = some record) :
    stock.first id format.lookupOrder = some record := by
  have different : other ≠ format := by
    rintro rfl
    rw [none] at kept
    cases kept
  revert different
  cases format <;> cases other <;> simp [first, StoreFormat.lookupOrder, none, kept]

/-- Whether a listing shows of every scene the copy in one format: where there is another copy with
another summary, that one is left out, for it is sorted right behind the first. -/
def ShowsFirst (stock : Stock) (folder : Folder) (format : StoreFormat) : Prop :=
  ∀ other, other ≠ format → ∀ id mine theirs, stock format id = some mine →
    stock other id = some theirs → mine.summary = theirs.summary ∨
      (folder.ComesFirst id format other mine theirs ∧
        ∀ between, stock.Shows between → listedBefore mine.summary between = true →
          listedBefore between theirs.summary = true → between.id = id)

end Stock

namespace SceneStore

variable {store : SceneStore} {tree : FileTree} {place : List String} {stock : Stock}

/-- A scene is read only where it is kept. -/
theorem IsAt.exists_of_readScene (there : store.IsAt tree place) (keeps : tree.Keeps place stock)
    {id : String} (valid : isValidId id = true) {formats : List StoreFormat}
    {record : SceneRecord} (read : store.readScene id tree formats = .ok record) :
    ∃ format copy, stock format id = some copy := by
  obtain ⟨folder, found, kept⟩ := keeps
  induction formats with
  | nil => cases read
  | cons format formats ih =>
    rw [readScene_cons, there.read found kept valid] at read
    cases fit : store.fits id format with
    | false =>
      rw [fit] at read
      cases read
    | true =>
      rw [fit] at read
      cases copy : stock format id with
      | some record => exact ⟨format, record, copy⟩
      | none =>
        rw [copy] at read
        exact ih read

/-- A scene is loaded only where it is kept. -/
theorem IsAt.exists_of_load (there : store.IsAt tree place) (keeps : tree.Keeps place stock)
    {id : String} {record : SceneRecord} (loaded : store.load id tree = .ok record) :
    ∃ format copy, stock format id = some copy := by
  unfold SceneStore.load at loaded
  cases valid : isValidId id with
  | false =>
    rw [valid] at loaded
    cases loaded
  | true =>
    rw [valid] at loaded
    exact there.exists_of_readScene keeps valid loaded

/-- What is loaded is what is found first, where there is room for all scenes that are kept. -/
theorem IsAt.load_eq_ok_iff (there : store.IsAt tree place) (keeps : tree.Keeps place stock)
    (reads : stock.ReadsBack)
    (room : ∀ format id record, stock format id = some record → store.HasRoom id) {id : String}
    {record : SceneRecord} :
    store.load id tree = .ok record ↔ stock.first id store.format.lookupOrder = some record := by
  have answer : ∀ format copy, stock format id = some copy →
      (store.load id tree = .ok record ↔
        stock.first id store.format.lookupOrder = some record) := by
    intro format copy kept
    have ⟨folder, _, held⟩ := keeps
    rw [there.load keeps reads (held.named kept).2 (room format id copy kept)]
    cases stock.first id store.format.lookupOrder <;> simp
  constructor
  · intro loaded
    obtain ⟨format, copy, kept⟩ := there.exists_of_load keeps loaded
    exact (answer format copy kept).mp loaded
  · intro found
    obtain ⟨format, kept⟩ := Stock.exists_of_first found
    exact (answer format record kept).mpr found

/-- Whether a listing shows of every scene what the store loads. -/
def ShowsLoaded (store : SceneStore) (tree : FileTree) (listed : List SceneSummary) : Prop :=
  ∀ summary ∈ listed, ∀ record, store.load summary.id tree = .ok record → summary = record.summary

section

variable {folder : Folder} (keeps : folder.Keeps stock) (reads : stock.ReadsBack)
  (follow : String → Except IoFailure (List UInt8))

include keeps reads in
/-- What is found in a folder that keeps scenes which read back. -/
theorem mem_found_iff (summary : SceneSummary) :
    summary ∈ folder.filterMap (summaryOf? follow) ↔
      ∃ format record, stock format summary.id = some record ∧ summary = record.summary := by
  rw [keeps.mem_found]
  constructor
  · rintro ⟨format, id, record, read, kept, readBack, rfl⟩
    rw [reads format id record kept] at readBack
    cases readBack
    have named : record.summary.id = id := (keeps.named kept).1
    exact ⟨format, record, named.symm ▸ kept, rfl⟩
  · rintro ⟨format, record, kept, shown⟩
    exact ⟨format, summary.id, record, record, kept, reads _ _ _ kept, shown⟩

include keeps reads in
/-- A scene is listed exactly when it is kept. -/
theorem exists_listed_iff (id : String) :
    (∃ summary ∈ summaries follow folder, summary.id = id) ↔
      ∃ format record, stock format id = some record := by
  constructor
  · rintro ⟨summary, listed, rfl⟩
    have found := List.mem_mergeSort.mp ((firstOfRuns_sublist _).subset listed)
    obtain ⟨format, record, kept, -⟩ := (mem_found_iff keeps reads follow summary).mp found
    exact ⟨format, record, kept⟩
  · rintro ⟨format, record, kept⟩
    have named : record.summary.id = id := (keeps.named kept).1
    have found := (mem_found_iff keeps reads follow record.summary).mpr
      ⟨format, record, named.symm ▸ kept, rfl⟩
    obtain ⟨summary, listed, same⟩ := exists_mem_firstOfRuns (List.mem_mergeSort.mpr found)
    exact ⟨summary, listed, same.trans named⟩

include keeps reads in
/-- A listing shows what is found first in some formats exactly when it shows the copies in the
first of them. -/
theorem shows_first_iff (format : StoreFormat) :
    (∀ summary ∈ summaries follow folder, ∀ record,
        stock.first summary.id format.lookupOrder = some record → summary = record.summary) ↔
      stock.ShowsFirst folder format := by
  constructor
  · intro shows other different id mine theirs own kept
    by_cases same : mine.summary = theirs.summary
    · exact .inl same
    refine .inr ((keeps.left_out_iff reads own kept different.symm follow same).mp fun listed => ?_)
    have named : theirs.summary.id = id := (keeps.named kept).1
    have loaded := Stock.first_lookupOrder_of_own own
    exact same (shows theirs.summary listed mine (named.symm ▸ loaded)).symm
  · intro showsFirst summary listed record found
    have inFolder := List.mem_mergeSort.mp ((firstOfRuns_sublist _).subset listed)
    obtain ⟨other, copy, kept, rfl⟩ := (mem_found_iff keeps reads follow summary).mp inFolder
    cases own : stock format copy.summary.id with
    | none =>
      rw [Stock.first_lookupOrder_of_other own kept] at found
      rw [Option.some.inj found]
    | some mine =>
      rw [Stock.first_lookupOrder_of_own own] at found
      obtain rfl := Option.some.inj found
      by_cases sameFormat : other = format
      · subst sameFormat
        rw [own] at kept
        rw [Option.some.inj kept]
      · rcases showsFirst other sameFormat _ _ _ own kept with same | leftOut
        · exact same.symm
        · by_cases same : mine.summary = copy.summary
          · exact same.symm
          · have out := (keeps.left_out_iff reads own kept (Ne.symm sameFormat) follow same).mpr
            exact absurd listed (out leftOut)

end

/-- After visits through stores of both formats to a folder that was empty at first, a scene is
listed exactly when it can be loaded. The listing shows what is loaded exactly when of two copies
with different summaries the one in the own format is sorted right before the other. -/
theorem listed_as_loaded_iff {visits : List Visit} (here : store.IsAt tree place)
    (there : ∀ visit ∈ visits, visit.store.IsAt tree place)
    (empty : tree.root.at? place = some [])
    (saved : ∀ visit ∈ visits, ∀ record, visit.request = .save record →
      SceneRecord.ofBytes visit.store.format (record.toBytes visit.store.format) = .ok record)
    (room : ∀ visit ∈ visits, ∀ record, visit.request = .save record →
      isValidId record.id = true → store.HasRoom record.id) :
    ∃ listed, store.list (serveAll visits tree).2 = .ok listed ∧
      (∀ id, (∃ summary ∈ listed, summary.id = id) ↔
        ∃ record, store.load id (serveAll visits tree).2 = .ok record) ∧
      (store.ShowsLoaded (serveAll visits tree).2 listed ↔
        (Stock.empty.afterAll visits).ShowsFirst ((serveAll visits tree).2.folderAt place)
          store.format) := by
  obtain ⟨leads, keeps⟩ := keeps_serveAll there (FileTree.keeps_empty empty)
  have reads : (Stock.empty.afterAll visits).ReadsBack :=
    Stock.readsBack_afterAll Stock.readsBack_empty saved
  have ⟨folder, found, held⟩ := keeps
  have rooms : ∀ format id record, Stock.empty.afterAll visits format id = some record →
      store.HasRoom id := by
    intro format id record kept
    obtain ⟨named, valid⟩ := held.named kept
    rcases Stock.afterAll_eq_some kept with ⟨visit, member, requested, -⟩ | before
    · rw [← named] at valid ⊢
      exact room visit member record requested valid
    · cases before
  have loads : ∀ id record, store.load id (serveAll visits tree).2 = .ok record ↔
      (Stock.empty.afterAll visits).first id store.format.lookupOrder = some record :=
    fun id record => (here.of_leadsAs leads).load_eq_ok_iff keeps reads rooms
  refine ⟨_, (here.of_leadsAs leads).list found, fun id => ?_, ?_⟩
  · simp only [loads, Stock.exists_first_lookupOrder_iff]
    exact exists_listed_iff held reads _ id
  · simp only [ShowsLoaded, loads, folderAt_of_at? found]
    exact shows_first_iff held reads _ store.format

/-- The MessagePack store lists a scene as it was before the change, but loads it as it is since. -/
theorem listed_before_change :
    ∃ listed, list ⟨"scenes", .messagePack⟩ (serveAll Visit.twice .withNewFolder).2 = .ok listed ∧
      ¬ShowsLoaded ⟨"scenes", .messagePack⟩ (serveAll Visit.twice .withNewFolder).2 listed := by
  have there : ∀ visit ∈ Visit.twice, visit.store.IsAt .withNewFolder ["scenes"] := by
    intro visit member
    rcases List.mem_pair.mp member with rfl | rfl
    · exact isAt_new .json
    · exact isAt_new .messagePack
  have saved : ∀ visit ∈ Visit.twice, ∀ record, visit.request = .save record →
      SceneRecord.ofBytes visit.store.format (record.toBytes visit.store.format) =
        .ok record := by
    intro visit member record same
    rcases List.mem_pair.mp member with rfl | rfl <;> cases same
    · exact SceneRecord.ofBytes_bareAt ⟨by decide, by decide, by decide⟩ .json
    · exact SceneRecord.ofBytes_bareAt ⟨by decide, by decide, by decide⟩ .messagePack
  have room : ∀ visit ∈ Visit.twice, ∀ record, visit.request = .save record →
      isValidId record.id = true → HasRoom ⟨"scenes", .messagePack⟩ record.id := by
    intro visit member record same _ format
    rcases List.mem_pair.mp member with rfl | rfl <;> cases same <;> cases format <;> decide
  obtain ⟨listed, answered, -, shows⟩ :=
    listed_as_loaded_iff (isAt_new .messagePack) there rfl saved room
  refine ⟨listed, answered, ?_⟩
  rw [shows]
  intro showsFirst
  -- The copy that is loaded was made after the other one, so it is not sorted first.
  rcases showsFirst .json (by decide) "a" (.bareAt "a" "2") (.bareAt "a" "1") rfl rfl with
    same | ⟨earlier | ⟨same, -⟩, -⟩
  · exact absurd (congrArg SceneSummary.timestamp same) (by decide)
  · exact absurd earlier (by decide)
  · exact absurd same (by decide)

end SceneStore

end ShapeScene
