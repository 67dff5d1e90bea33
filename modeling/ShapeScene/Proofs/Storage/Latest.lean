import ShapeScene.Proofs.Scene.RoundTrip
import ShapeScene.Proofs.Storage.Visits

/-!
# Which copy of a scene is loaded

Saving a scene leaves the copy of it in the other format, and a store looks for its own format
first. So what a store loads is the last scene that was saved in its own format, and only when there
is none the last one that was saved at all.
-/

namespace ShapeScene

open SceneStore

/-- What is known of the last scene of a name after a visit, where saves in some formats count. -/
def latestAfter (counts : StoreFormat → Bool) (id : String) (latest : Option SceneRecord)
    (visit : Visit) : Option SceneRecord :=
  match visit.request with
  | .save record =>
    if record.id = id ∧ counts visit.store.format = true then some record else latest
  | .delete other => if other = id then none else latest
  | .load _ | .list => latest

/-- The scene that was saved last under a name, unless it was deleted since. -/
def lastSaved (id : String) (visits : List Visit) : Option SceneRecord :=
  visits.foldl (latestAfter (fun _ => true) id) none

/-- The scene that was saved last under a name in a format, unless it was deleted since. -/
def lastSavedIn (format : StoreFormat) (id : String) (visits : List Visit) : Option SceneRecord :=
  visits.foldl (latestAfter (· == format) id) none

/-- The answer of a store that has found a scene, or none. -/
def SceneStore.found (id : String) : Option SceneRecord → Except SceneError SceneRecord
  | some record => .ok record
  | none => .error (.sceneNotFound id)

/-- Different scenes are different answers. -/
theorem SceneStore.found_injective {id : String} {first second : Option SceneRecord} :
    found id first = found id second ↔ first = second := by
  cases first <;> cases second <;> simp [found]

namespace Stock

variable {id : String}

/-- After a visit the folder keeps, in each format, the last scene of a name. -/
theorem after_apply (valid : isValidId id = true) (stock : Stock) {visit : Visit}
    (room : visit.store.HasRoom id) (format : StoreFormat) :
    stock.after visit format id = latestAfter (· == format) id (stock format id) visit := by
  obtain ⟨store, request⟩ := visit
  cases request with
  | load other => rfl
  | list => rfl
  | save record =>
    by_cases own : record.id = id
    · rw [after_save stock (own ▸ valid) (own ▸ room store.format), put, latestAfter]
      by_cases formats : store.format = format
      · simp [own, formats]
      · simp [own, formats, Ne.symm formats]
    · have other : latestAfter (· == format) id (stock format id) ⟨store, .save record⟩ =
          stock format id := if_neg fun both => own both.1
      rw [other]
      cases accepted : isValidId record.id && store.fits record.id store.format with
      | true =>
        obtain ⟨validToo, fit⟩ := Bool.and_eq_true_iff.mp accepted
        rw [after_save stock validToo fit, put, if_neg fun both => own both.2.symm]
      | false => rw [after_save_refused stock accepted]
  | delete other =>
    simp only [after, latestAfter, drop]
    by_cases own : other = id
    · rw [own, room.deletes valid, if_pos ⟨rfl, mem_lookupOrder _ _⟩, if_pos rfl]
    · rw [if_neg (fun both => own both.1.symm), if_neg own]

/-- After visits the folder keeps, in each format, the last scene of a name. -/
theorem afterAll_apply (valid : isValidId id = true) (stock : Stock) {visits : List Visit}
    (rooms : ∀ visit ∈ visits, visit.store.HasRoom id) (format : StoreFormat) :
    stock.afterAll visits format id =
      visits.foldl (latestAfter (· == format) id) (stock format id) := by
  induction visits generalizing stock with
  | nil => rfl
  | cons visit visits ih =>
    have here := after_apply valid stock (rooms visit List.mem_cons_self) format
    have behind := ih (stock.after visit) fun other member =>
      rooms other (List.mem_cons_of_mem _ member)
    rw [afterAll, List.foldl_cons, List.foldl_cons, ← here]
    exact behind

/-- What stores keep reads back when all scenes that were saved do. -/
theorem readsBack_afterAll {stock : Stock} (reads : stock.ReadsBack) {visits : List Visit}
    (saved : ∀ visit ∈ visits, ∀ record, visit.request = .save record →
      SceneRecord.ofBytes visit.store.format (record.toBytes visit.store.format) = .ok record) :
    (stock.afterAll visits).ReadsBack := by
  intro format id record kept
  rcases afterAll_eq_some kept with ⟨visit, member, requested, own⟩ | before
  · rw [own]
    exact saved visit member record requested
  · exact reads format id record before

end Stock

/-- Where no scene was saved in a format, the last one that was saved is the last one in the other
format. -/
theorem lastSaved_eq_of_none {first second : StoreFormat} (different : first ≠ second) {id : String}
    {visits : List Visit} (absent : lastSavedIn first id visits = none) :
    lastSaved id visits = lastSavedIn second id visits := by
  -- The three folds run side by side; what carries the induction is that two of them agree as
  -- long as the third has found nothing.
  have together : ∀ (visits : List Visit) (all own other : Option SceneRecord),
      (own = none → all = other) →
      visits.foldl (latestAfter (· == first) id) own = none →
      visits.foldl (latestAfter (fun _ => true) id) all =
        visits.foldl (latestAfter (· == second) id) other := by
    intro visits
    induction visits with
    | nil => exact fun all own other same absent => same absent
    | cons visit visits ih =>
      intro all own other same
      apply ih
      obtain ⟨store, request⟩ := visit
      cases request with
      | load name => exact same
      | list => exact same
      | delete name =>
        simp only [latestAfter]
        split
        · exact fun _ => rfl
        · exact same
      | save record =>
        simp only [latestAfter, and_true]
        by_cases named : record.id = id
        · have formats : store.format = first ∨ store.format = second := by
            revert different
            cases first <;> cases second <;> cases store.format <;> decide
          rcases formats with same | same
          · simp [named, same]
          · simp [named, same]
        · simp only [named, false_and, if_false]
          exact same
  exact together visits none none none (fun _ => rfl) absent

/-- What a store finds is the last scene in its own format, or else the last scene at all. -/
theorem Stock.first_afterAll {id : String} (valid : isValidId id = true) {visits : List Visit}
    (rooms : ∀ visit ∈ visits, visit.store.HasRoom id) (format : StoreFormat) :
    (Stock.empty.afterAll visits).first id format.lookupOrder =
      (lastSavedIn format id visits).or (lastSaved id visits) := by
  have kept : ∀ other, Stock.empty.afterAll visits other id = lastSavedIn other id visits :=
    fun other => afterAll_apply valid Stock.empty rooms other
  cases own : lastSavedIn format id visits with
  | some record =>
    cases format <;> simp [Stock.first, StoreFormat.lookupOrder, kept, own]
  | none =>
    cases format with
    | json =>
      rw [lastSaved_eq_of_none (by decide : StoreFormat.json ≠ .messagePack) own]
      cases other : lastSavedIn .messagePack id visits <;>
        simp [Stock.first, StoreFormat.lookupOrder, kept, own, other]
    | messagePack =>
      rw [lastSaved_eq_of_none (by decide : StoreFormat.messagePack ≠ .json) own]
      cases other : lastSavedIn .json id visits <;>
        simp [Stock.first, StoreFormat.lookupOrder, kept, own, other]

section

variable {store : SceneStore} {tree : FileTree} {place : List String} {visits : List Visit}
  {id : String}

/-- What a store loads after visits to its folder, which was empty at first. -/
theorem SceneStore.IsAt.load_serveAll (here : store.IsAt tree place)
    (empty : tree.root.at? place = some [])
    (there : ∀ visit ∈ visits, visit.store.IsAt tree place)
    (saved : ∀ visit ∈ visits, ∀ record, visit.request = .save record →
      SceneRecord.ofBytes visit.store.format (record.toBytes visit.store.format) = .ok record)
    (valid : isValidId id = true) (room : store.HasRoom id)
    (rooms : ∀ visit ∈ visits, visit.store.HasRoom id) :
    store.load id (serveAll visits tree).2 =
      found id ((lastSavedIn store.format id visits).or (lastSaved id visits)) := by
  obtain ⟨leads, kept⟩ := keeps_serveAll there (FileTree.keeps_empty empty)
  have reads : (Stock.empty.afterAll visits).ReadsBack :=
    Stock.readsBack_afterAll Stock.readsBack_empty saved
  rw [(here.of_leadsAs leads).load kept reads valid room, Stock.first_afterAll valid rooms]
  cases (lastSavedIn store.format id visits).or (lastSaved id visits) <;> rfl

/-- After visits through stores of both formats, a store loads the last scene saved in its own
format, and only without one the last scene saved. That is the last scene saved exactly when the
last one in the own format is missing or is that scene itself. -/
theorem SceneStore.load_after_visits (here : store.IsAt tree place)
    (empty : tree.root.at? place = some [])
    (there : ∀ visit ∈ visits, visit.store.IsAt tree place)
    (saved : ∀ visit ∈ visits, ∀ record, visit.request = .save record →
      SceneRecord.ofBytes visit.store.format (record.toBytes visit.store.format) = .ok record)
    (valid : isValidId id = true) (room : store.HasRoom id)
    (rooms : ∀ visit ∈ visits, visit.store.HasRoom id) :
    store.load id (serveAll visits tree).2 =
        found id ((lastSavedIn store.format id visits).or (lastSaved id visits)) ∧
      (store.load id (serveAll visits tree).2 = found id (lastSaved id visits) ↔
        lastSavedIn store.format id visits = none ∨
          lastSavedIn store.format id visits = lastSaved id visits) := by
  have loaded := here.load_serveAll empty there saved valid room rooms
  refine ⟨loaded, ?_⟩
  rw [loaded, found_injective]
  cases lastSavedIn store.format id visits <;> simp

end

/-- A scene is saved as JSON and then, changed, as MessagePack. -/
def Visit.twice : List Visit :=
  [⟨⟨"scenes", .json⟩, .save (.bareAt "a" "1")⟩,
    ⟨⟨"scenes", .messagePack⟩, .save (.bareAt "a" "2")⟩]

/-- The JSON store still loads the scene as it was before the change. -/
theorem SceneStore.older_copy_after_visits :
    load ⟨"scenes", .json⟩ "a" (serveAll Visit.twice .withNewFolder).2 =
        .ok (.bareAt "a" "1") ∧
      lastSaved "a" Visit.twice = some (.bareAt "a" "2") ∧
      load ⟨"scenes", .json⟩ "a" (serveAll Visit.twice .withNewFolder).2 ≠
        found "a" (lastSaved "a" Visit.twice) := by
  have room : ∀ format, HasRoom ⟨"scenes", format⟩ "a" := by
    intro format other
    cases format <;> cases other <;> decide
  have there : ∀ visit ∈ Visit.twice, visit.store.IsAt .withNewFolder ["scenes"] := by
    intro visit member
    rcases List.mem_pair.mp member with rfl | rfl
    · exact isAt_new .json
    · exact isAt_new .messagePack
  have rooms : ∀ visit ∈ Visit.twice, visit.store.HasRoom "a" := by
    intro visit member
    rcases List.mem_pair.mp member with rfl | rfl
    · exact room .json
    · exact room .messagePack
  have saved : ∀ visit ∈ Visit.twice, ∀ record, visit.request = .save record →
      SceneRecord.ofBytes visit.store.format (record.toBytes visit.store.format) =
        .ok record := by
    intro visit member record same
    rcases List.mem_pair.mp member with rfl | rfl <;> cases same
    · exact SceneRecord.ofBytes_bareAt ⟨by decide, by decide, by decide⟩ .json
    · exact SceneRecord.ofBytes_bareAt ⟨by decide, by decide, by decide⟩ .messagePack
  obtain ⟨loaded, right⟩ :=
    load_after_visits (isAt_new .json) rfl there saved (by decide) (room .json) rooms
  have older : lastSavedIn .json "a" Visit.twice = some (.bareAt "a" "1") := rfl
  have newer : lastSaved "a" Visit.twice = some (.bareAt "a" "2") := rfl
  have different : SceneRecord.bareAt "a" "1" ≠ .bareAt "a" "2" :=
    fun same => absurd (congrArg SceneRecord.timestamp same) (by decide)
  refine ⟨?_, newer, ?_⟩
  · rw [loaded, older]
    rfl
  · rw [Ne, right, older, newer]
    simp [different]

end ShapeScene
