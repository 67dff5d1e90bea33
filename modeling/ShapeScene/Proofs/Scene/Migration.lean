import ShapeScene.Proofs.Data.Json.Numbers
import ShapeScene.Proofs.Scene.Numbers
import ShapeScene.Proofs.Scene.RoundTrip
import ShapeScene.Proofs.Success

/-!
# From MessagePack to JSON

A scene can be loaded from a MessagePack file and saved as JSON. MessagePack keeps every number,
but JSON has no text for the infinities and the NaNs, and reads some finite numbers as their
neighbours. So the scene survives exactly when all its numbers are finite and read back from their
texts; that a NaN could come back as another NaN is no way out, for JSON gives none at all.
-/

namespace ShapeScene

/-- A number, or the one NaN that stands for all of them. -/
def Binary64.withPlainNaN (x : Binary64) : Binary64 := if x.isNaN then .nan else x

/-- A number that is no NaN is not replaced. -/
theorem Binary64.withPlainNaN_eq_self {x : Binary64} (defined : x.isNaN = false) :
    x.withPlainNaN = x := by
  rw [withPlainNaN, defined, if_neg Bool.false_ne_true]

/-- Replacing NaNs by one of them leaves the same numbers NaNs. -/
theorem Binary64.isNaN_withPlainNaN (x : Binary64) : x.withPlainNaN.isNaN = x.isNaN := by
  unfold withPlainNaN
  split
  · rename_i undefined
    rw [undefined]
    decide
  · rfl

/-- Only finite numbers are read back from JSON. -/
theorem Json.ReadsBack.isFinite {x : Binary64} (readsBack : ReadsBack x) : x.isFinite = true := by
  by_contra infinite
  have text : Text.utf8 (String.ofList (realText x)) = Text.utf8 "null" := by
    rw [realText, if_neg infinite]
    rfl
  have null : ((read? (Text.utf8 "null")).getD .unreadable).toReal? = none := by decide +kernel
  rw [ReadsBack, reread, text, null] at readsBack
  cases readsBack

namespace SceneRecord

/-- A scene in which one NaN stands for all of them. -/
def withPlainNaNs (record : SceneRecord) : SceneRecord := record.mapNumbers Binary64.withPlainNaN

/-- A scene without NaNs is not changed when they are replaced. -/
theorem withPlainNaNs_eq_self {record : SceneRecord}
    (defined : ∀ x ∈ record.numbers, x.isNaN = false) : record.withPlainNaNs = record :=
  mapNumbers_eq_self fun x member => Binary64.withPlainNaN_eq_self (defined x member)

/-- No scene that a JSON file holds has a NaN. -/
theorem isNaN_of_ofBytes_json {content : List UInt8} {record : SceneRecord}
    (read : ofBytes .json content = .ok record) : ∀ x ∈ record.numbers, x.isNaN = false := by
  obtain ⟨datum, datumRead, recordRead⟩ :=
    Option.bind_eq_some_iff.mp ((ofBytes_json_eq_ok content record).mp read)
  intro x member
  exact Json.isDefined_of_read? datumRead x (readsNumbers recordRead x member)

/-- A scene that equals one without NaNs, when all NaNs count as one, is that scene. -/
theorem eq_of_withPlainNaNs_eq {other record : SceneRecord}
    (defined : ∀ x ∈ other.numbers, x.isNaN = false)
    (same : other.withPlainNaNs = record.withPlainNaNs) : other = record := by
  rw [withPlainNaNs_eq_self defined] at same
  have recordDefined : ∀ x ∈ record.numbers, x.isNaN = false := by
    intro x member
    have replaced : x.withPlainNaN ∈ other.numbers := by
      rw [same, withPlainNaNs, numbers_mapNumbers]
      exact List.mem_map_of_mem member
    rw [← Binary64.isNaN_withPlainNaN, defined _ replaced]
  rw [same, withPlainNaNs_eq_self recordDefined]

/-- What is loaded of a scene that was loaded from a MessagePack file and saved as JSON. -/
def migrated (content : List UInt8) : Except SceneError SceneRecord := do
  let record ← ofBytes .messagePack content
  ofBytes .json (record.toBytes .json)

/-- A scene from a MessagePack file can be loaded after it has been saved as JSON, and is then what
it was but for which NaNs it has, exactly when each of its numbers is finite and is read back from
its own text. -/
theorem migrated_eq_iff {content : List UInt8} {record : SceneRecord}
    (loaded : ofBytes .messagePack content = .ok record) :
    (migrated content).map withPlainNaNs = .ok record.withPlainNaNs ↔
      ∀ x ∈ record.numbers, x.isFinite = true ∧ Json.ReadsBack x := by
  have saved : migrated content = ofBytes .json (record.toBytes .json) := by
    simp only [migrated, loaded, bind, Except.bind]
  rw [saved]
  constructor
  · intro same
    cases back : ofBytes .json (record.toBytes .json) with
    | error failure =>
      rw [back] at same
      cases same
    | ok other =>
      rw [back] at same
      obtain rfl := eq_of_withPlainNaNs_eq (isNaN_of_ofBytes_json back) (Except.ok.inj same)
      intro x member
      have readsBack := (ofBytes_json other).mp back x member
      exact ⟨readsBack.isFinite, readsBack⟩
  · intro kept
    rw [(ofBytes_json record).mpr fun x member => (kept x member).2]
    rfl

/-- A scene with an infinite field of view is loaded from a MessagePack file, and not from the JSON
file that it is saved as. -/
theorem migrated_infinite_fov :
    ofBytes .messagePack ((bare "a" (.infinity false)).toBytes .messagePack) =
        .ok (bare "a" (.infinity false)) ∧
      (migrated ((bare "a" (.infinity false)).toBytes .messagePack)).map withPlainNaNs ≠
        .ok (bare "a" (.infinity false)).withPlainNaNs := by
  have fit : (bare "a" (.infinity false)).Fits MessagePack.Counts :=
    ⟨by decide, by decide, by decide⟩
  have loaded := ofBytes_messagePack fit
  refine ⟨loaded, fun same => ?_⟩
  have numbers : (bare "a" (.infinity false)).numbers =
      [0, 0, 0, 0, 0, 0, 0, 0, 0, 0, 0, 0, 0, 0, .infinity false] := rfl
  have kept := (migrated_eq_iff loaded).mp same (.infinity false) (by simp [numbers])
  exact absurd kept.1 (by decide)

end SceneRecord

end ShapeScene
