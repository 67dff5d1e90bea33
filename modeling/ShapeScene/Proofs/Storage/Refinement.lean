import ShapeScene.Proofs.Scene.RoundTrip
import ShapeScene.Proofs.Storage.Listing
import ShapeScene.Proofs.Storage.Visits

/-!
# A store is a shelf of scenes

Whoever only looks at the answers of one store cannot tell it from a shelf on which every scene lies
under its name: files, formats, the order of a folder and the search for a second format never show.
-/

namespace ShapeScene

open SceneStore

/-- The name in a request, if there is one. -/
def Request.id? : Request → Option String
  | .save record => some record.id
  | .load id | .delete id => some id
  | .list => none

/-- The scenes on a shelf, each under its name. -/
def Shelf : Type := String → Option SceneRecord

namespace Shelf

/-- Nothing is on the shelf. -/
def empty : Shelf := fun _ => none

/-- A scene is put on the shelf, in place of the one of its name. -/
def put (shelf : Shelf) (record : SceneRecord) : Shelf := fun id =>
  if id = record.id then some record else shelf id

/-- The scene of a name is taken from the shelf. -/
def take (shelf : Shelf) (id : String) : Shelf := fun other =>
  if other = id then none else shelf other

/-- The shelf after a request. -/
def after (shelf : Shelf) : Request → Shelf
  | .save record => if isValidId record.id then shelf.put record else shelf
  | .delete id => if isValidId id then shelf.take id else shelf
  | .load _ | .list => shelf

/-- Whether a listing has each scene on the shelf once, sorted by time and then by name. -/
structure Lists (shelf : Shelf) (listed : List SceneSummary) : Prop where
  /-- No name is listed twice. -/
  distinct : (listed.map SceneSummary.id).Nodup
  /-- The listing is sorted. -/
  sorted : listed.Pairwise fun first second => first.timestamp < second.timestamp ∨
    first.timestamp = second.timestamp ∧ first.id ≤ second.id
  /-- What is listed is on the shelf, and the other way round. -/
  same : ∀ summary, summary ∈ listed ↔
    ∃ id record, shelf id = some record ∧ summary = record.summary

/-- What a store answers whose scenes are those on a shelf. -/
def Answers (shelf : Shelf) (store : SceneStore) : Request → Answer → Prop
  | .save record, .saved result =>
    result = if isValidId record.id then .ok (store.path record.id store.format)
      else .error (invalidId record.id)
  | .load id, .loaded result =>
    result = if isValidId id then
        match shelf id with
        | some record => .ok record
        | none => .error (.sceneNotFound id)
      else .error (invalidId id)
  | .delete id, .deleted result =>
    result = if isValidId id then
        if (shelf id).isSome then .ok () else .error (.sceneNotFound id)
      else .error (invalidId id)
  | .list, .listed result => ∃ listed, result = .ok listed ∧ shelf.Lists listed
  | _, _ => False

/-- What a store answers to requests one after the other. -/
def AnswersAll (store : SceneStore) : Shelf → List Request → List Answer → Prop
  | _, [], [] => True
  | shelf, request :: requests, answer :: answers =>
    shelf.Answers store request answer ∧ AnswersAll store (shelf.after request) requests answers
  | _, _, _ => False

/-- What the folder of a store keeps whose scenes are those on a shelf. -/
def stock (shelf : Shelf) (format : StoreFormat) : Stock := fun other id =>
  if other = format then shelf id else none

variable {store : SceneStore} {shelf : Shelf}

/-- A scene on the shelf is found first in the format of the store. -/
theorem first_stock (shelf : Shelf) (format : StoreFormat) (id : String) :
    (shelf.stock format).first id format.lookupOrder = shelf id := by
  cases kept : shelf id <;> cases format <;>
    simp [Stock.first, StoreFormat.lookupOrder, stock, kept]

/-- A request changes what the folder keeps as it changes the shelf. -/
theorem stock_after (shelf : Shelf) {request : Request}
    (room : ∀ id ∈ request.id?, isValidId id = true → store.HasRoom id) :
    (shelf.stock store.format).after ⟨store, request⟩ =
      (shelf.after request).stock store.format := by
  cases request with
  | load id => rfl
  | list => rfl
  | save record =>
    simp only [Stock.after, after]
    cases valid : isValidId record.id with
    | false => rfl
    | true =>
      rw [room record.id rfl valid store.format]
      funext other id
      by_cases own : other = store.format
      · simp [Stock.put, stock, put, own]
      · simp [Stock.put, stock, own]
  | delete id =>
    simp only [Stock.after, after]
    cases valid : isValidId id with
    | false =>
      rw [deletes, valid]
      exact Stock.drop_nil _ id
    | true =>
      rw [(room id rfl valid).deletes valid]
      funext other name
      by_cases own : other = store.format
      · simp [Stock.drop, stock, take, own, mem_lookupOrder]
      · simp [Stock.drop, stock, own]

/-- A scene that is on the shelf after a request was saved by it or was there before. -/
theorem after_eq_some {request : Request} {id : String} {record : SceneRecord}
    (kept : shelf.after request id = some record) :
    request = .save record ∨ shelf id = some record := by
  cases request with
  | load name => exact .inr kept
  | list => exact .inr kept
  | save new =>
    rw [after] at kept
    split at kept
    · rw [put] at kept
      split at kept
      · cases kept
        exact .inl rfl
      · exact .inr kept
    · exact .inr kept
  | delete name =>
    rw [after] at kept
    split at kept
    · rw [take] at kept
      split at kept
      · cases kept
      · exact .inr kept
    · exact .inr kept

/-- Scenes on the shelf read back after a request when a scene that it saves does. -/
theorem readsBack_after (reads : (shelf.stock store.format).ReadsBack) {request : Request}
    (saved : ∀ record, request = .save record →
      SceneRecord.ofBytes store.format (record.toBytes store.format) = .ok record) :
    ((shelf.after request).stock store.format).ReadsBack := by
  intro format id record kept
  rw [stock] at kept
  split at kept
  · rename_i own
    subst own
    rcases after_eq_some kept with new | there
    · exact saved record new
    · exact reads store.format id record (by rw [stock, if_pos rfl, there])
  · cases kept

variable {tree : FileTree} {place : List String}

/-- The listing of a store has each scene on the shelf once. -/
theorem lists_summaries {folder : Folder} (keeps : folder.Keeps (shelf.stock store.format))
    (reads : (shelf.stock store.format).ReadsBack)
    (follow : String → Except IoFailure (List UInt8)) :
    shelf.Lists (summaries follow folder) := by
  have single : ∀ {id format other record copy},
      shelf.stock store.format format id = some record →
      shelf.stock store.format other id = some copy → format = other := by
    intro id format other record copy kept copied
    rw [stock] at kept copied
    split at kept
    · split at copied
      · rename_i own ownToo
        exact own.trans ownToo.symm
      · cases copied
    · cases kept
  have distinct := keeps.nodup_found reads single follow
  have same := summaries_perm distinct
  constructor
  · exact (same.map SceneSummary.id).nodup_iff.mpr distinct
  · exact (pairwise_summaries follow folder).imp fun ordered => (listedBefore_iff _ _).mp ordered
  · intro summary
    rw [same.mem_iff, keeps.mem_found]
    constructor
    · rintro ⟨format, id, record, read, kept, readBack, shown⟩
      rw [reads format id record kept] at readBack
      cases readBack
      rw [stock] at kept
      split at kept
      · exact ⟨id, record, kept, shown⟩
      · cases kept
    · rintro ⟨id, record, kept, shown⟩
      have there : shelf.stock store.format store.format id = some record := by
        rw [stock, if_pos rfl, kept]
      exact ⟨store.format, id, record, record, there, reads _ id record there, shown⟩

/-- A store answers one request as the shelf does. -/
theorem answers_serve (there : store.IsAt tree place)
    (keeps : tree.Keeps place (shelf.stock store.format))
    (reads : (shelf.stock store.format).ReadsBack) {request : Request}
    (room : ∀ id ∈ request.id?, isValidId id = true → store.HasRoom id) :
    shelf.Answers store request (store.serve request tree).1 := by
  cases request with
  | save record =>
    change (store.save record tree).1 = _
    cases valid : isValidId record.id with
    | false => simp [SceneStore.save, valid]
    | true =>
      obtain ⟨saved, answered, _⟩ := there.save keeps valid (room record.id rfl valid store.format)
      rw [answered]
      rfl
  | load id =>
    change store.load id tree = _
    cases valid : isValidId id with
    | false => simp [SceneStore.load, valid]
    | true =>
      rw [there.load keeps reads valid (room id rfl valid), first_stock]
      rfl
  | delete id =>
    change (store.delete id tree).1 = _
    cases valid : isValidId id with
    | false => simp [SceneStore.delete, valid]
    | true =>
      rw [there.delete_answer keeps valid (room id rfl valid), ← Stock.isSome_first, first_stock]
      rfl
  | list =>
    obtain ⟨folder, found, kept⟩ := keeps
    exact ⟨_, there.list found, lists_summaries kept reads _⟩

/-- A store whose folder keeps the scenes on a shelf answers requests as the shelf does. -/
theorem answersAll_serveAll {requests : List Request} (there : store.IsAt tree place)
    (keeps : tree.Keeps place (shelf.stock store.format))
    (reads : (shelf.stock store.format).ReadsBack)
    (room : ∀ request ∈ requests, ∀ id ∈ request.id?, isValidId id = true → store.HasRoom id)
    (saved : ∀ record, .save record ∈ requests →
      SceneRecord.ofBytes store.format (record.toBytes store.format) = .ok record) :
    AnswersAll store shelf requests (serveAll (requests.map (Visit.mk store)) tree).1 := by
  -- The shelf changes with the folder: what the folder keeps stays the stock of the shelf.
  induction requests generalizing tree shelf with
  | nil => trivial
  | cons request requests ih =>
    have roomHere := room request List.mem_cons_self
    obtain ⟨leads, kept⟩ := there.serve keeps request
    rw [stock_after shelf roomHere] at kept
    refine ⟨answers_serve there keeps reads roomHere, ?_⟩
    apply ih (there.of_leadsAs leads) kept
    · apply readsBack_after reads
      intro record same
      exact saved record (same ▸ List.mem_cons_self)
    · exact fun other member => room other (List.mem_cons_of_mem _ member)
    · exact fun record member => saved record (List.mem_cons_of_mem _ member)

end Shelf

/-- A store in an empty folder that nobody else touches answers requests as an empty shelf does,
provided that names and paths are short enough and that saved scenes read back. -/
theorem SceneStore.serves_as_shelf {store : SceneStore} {tree : FileTree} {place : List String}
    (there : store.IsAt tree place) (empty : tree.root.at? place = some [])
    {requests : List Request}
    (room : ∀ request ∈ requests, ∀ id ∈ request.id?, isValidId id = true → store.HasRoom id)
    (saved : ∀ record, .save record ∈ requests →
      SceneRecord.ofBytes store.format (record.toBytes store.format) = .ok record) :
    Shelf.AnswersAll store Shelf.empty requests
      (serveAll (requests.map (Visit.mk store)) tree).1 := by
  have nothing : Shelf.empty.stock store.format = Stock.empty := by
    funext format id
    simp [Shelf.stock, Shelf.empty, Stock.empty]
  apply Shelf.answersAll_serveAll there
  · rw [nothing]
    exact FileTree.keeps_empty empty
  · rw [nothing]
    exact Stock.readsBack_empty
  · exact room
  · exact saved

/-- A scene is saved, listed, deleted and looked for again, and a name is tried that is invalid. -/
def Request.handful : List Request :=
  [.save (.bareAt "a" "1"), .list, .delete "a", .load "a", .load "../a"]

/-- A store in a new folder answers a handful of requests as a shelf does. -/
theorem SceneStore.new_store_serves_as_shelf :
    Shelf.AnswersAll ⟨"scenes", .json⟩ Shelf.empty Request.handful
      (serveAll (Request.handful.map (Visit.mk ⟨"scenes", .json⟩)) .withNewFolder).1 := by
  have room : HasRoom ⟨"scenes", .json⟩ "a" := by
    intro format
    cases format <;> decide
  apply serves_as_shelf (isAt_new .json) rfl
  · intro request member id named valid
    have only : id = "a" ∨ id = "../a" := by
      simp only [Request.handful, List.mem_cons, List.not_mem_nil, or_false] at member
      rcases member with rfl | rfl | rfl | rfl | rfl <;> cases named
      · exact .inl rfl
      · exact .inl rfl
      · exact .inl rfl
      · exact .inr rfl
    rcases only with rfl | rfl
    · exact room
    · exact absurd valid (by decide)
  · intro record member
    have only : record = .bareAt "a" "1" := by
      simpa [Request.handful] using member
    rw [only]
    exact SceneRecord.ofBytes_bareAt ⟨by decide, by decide, by decide⟩ .json

end ShapeScene
