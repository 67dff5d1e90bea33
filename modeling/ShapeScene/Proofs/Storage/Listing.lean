import ShapeScene.Storage.Store

/-!
# Listings

A listing is sorted by time and then by name, and of neighbours with one name only the first stays.
So a name is listed once when no other name stands between two summaries of it, and only then.
-/

namespace ShapeScene.SceneStore

/-! ## The order of a listing -/

/-- A summary is before another when its time is, or at the same time its name. -/
theorem listedBefore_iff (first second : SceneSummary) :
    listedBefore first second = true ↔ first.timestamp < second.timestamp ∨
      first.timestamp = second.timestamp ∧ first.id ≤ second.id := by
  rw [listedBefore, Bool.or_eq_true, Bool.and_eq_true, decide_eq_true_iff, beq_iff_eq,
    Bool.not_eq_true', decide_eq_false_iff_not, String.not_lt]

/-- The order of a listing is transitive. -/
theorem listedBefore_trans {first second third : SceneSummary}
    (before : listedBefore first second = true) (behind : listedBefore second third = true) :
    listedBefore first third = true := by
  rw [listedBefore_iff] at before behind ⊢
  rcases before with earlier | ⟨same, named⟩
  · rcases behind with later | ⟨sameNext, _⟩
    · exact .inl (String.lt_trans earlier later)
    · exact .inl (sameNext ▸ earlier)
  · rcases behind with later | ⟨sameNext, namedNext⟩
    · exact .inl (same ▸ later)
    · exact .inr ⟨same.trans sameNext, String.le_trans named namedNext⟩

/-- Of two summaries one is before the other. -/
theorem listedBefore_total (first second : SceneSummary) :
    (listedBefore first second || listedBefore second first) = true := by
  rw [Bool.or_eq_true, listedBefore_iff, listedBefore_iff]
  by_cases earlier : first.timestamp < second.timestamp
  · exact .inl (.inl earlier)
  by_cases later : second.timestamp < first.timestamp
  · exact .inr (.inl later)
  have same : first.timestamp = second.timestamp :=
    String.le_antisymm (String.not_lt.mp later) (String.not_lt.mp earlier)
  rcases String.le_total first.id second.id with named | named
  · exact .inl (.inr ⟨same, named⟩)
  · exact .inr (.inr ⟨same.symm, named⟩)

/-- Summaries that are before each other have one name. -/
theorem id_eq_of_listedBefore {first second : SceneSummary}
    (before : listedBefore first second = true) (behind : listedBefore second first = true) :
    first.id = second.id := by
  rw [listedBefore_iff] at before behind
  rcases before with earlier | ⟨same, named⟩
  · rcases behind with later | ⟨same, _⟩
    · exact absurd (String.lt_trans earlier later) (String.lt_irrefl _)
    · exact absurd (same ▸ earlier) (String.lt_irrefl _)
  · rcases behind with later | ⟨_, namedBack⟩
    · exact absurd (same ▸ later) (String.lt_irrefl _)
    · exact String.le_antisymm named namedBack

/-! ## The first of every run -/

/-- What is kept behind a name was there. -/
theorem afterName_sublist (id : String) (listed : List SceneSummary) :
    (firstOfRuns.afterName id listed).Sublist listed := by
  induction listed generalizing id with
  | nil => exact List.Sublist.slnil
  | cons summary later ih =>
    rw [firstOfRuns.afterName]
    split
    · exact (ih id).cons summary
    · exact (ih summary.id).cons_cons summary

/-- What is kept was there. -/
theorem firstOfRuns_sublist (listed : List SceneSummary) :
    (firstOfRuns listed).Sublist listed := by
  cases listed with
  | nil => exact List.Sublist.slnil
  | cons summary later => exact (afterName_sublist summary.id later).cons_cons summary

/-- Every name but the one in front is kept. -/
theorem exists_mem_afterName {id : String} {listed : List SceneSummary} {summary : SceneSummary}
    (member : summary ∈ listed) (other : summary.id ≠ id) :
    ∃ kept ∈ firstOfRuns.afterName id listed, kept.id = summary.id := by
  induction listed generalizing id with
  | nil => cases member
  | cons first later ih =>
    rw [firstOfRuns.afterName]
    by_cases repeated : first.id = id
    · rw [if_pos repeated]
      rcases List.mem_cons.mp member with rfl | behind
      · exact absurd repeated other
      · exact ih behind other
    · rw [if_neg repeated]
      by_cases same : summary.id = first.id
      · exact ⟨first, List.mem_cons_self, same.symm⟩
      · rcases List.mem_cons.mp member with rfl | behind
        · exact absurd rfl same
        · obtain ⟨kept, inLater, named⟩ := ih behind same
          exact ⟨kept, List.mem_cons_of_mem _ inLater, named⟩

/-- Every name is kept. -/
theorem exists_mem_firstOfRuns {listed : List SceneSummary} {summary : SceneSummary}
    (member : summary ∈ listed) : ∃ kept ∈ firstOfRuns listed, kept.id = summary.id := by
  cases listed with
  | nil => cases member
  | cons first later =>
    by_cases same : summary.id = first.id
    · exact ⟨first, List.mem_cons_self, same.symm⟩
    · rcases List.mem_cons.mp member with rfl | behind
      · exact absurd rfl same
      · obtain ⟨kept, inLater, named⟩ := exists_mem_afterName behind same
        exact ⟨kept, List.mem_cons_of_mem _ inLater, named⟩

/-- What is kept of a list behind another only depends on the last name of that. -/
theorem exists_afterName_append (id : String) (front back : List SceneSummary) :
    ∃ last, firstOfRuns.afterName id (front ++ back) =
      firstOfRuns.afterName id front ++ firstOfRuns.afterName last back := by
  induction front generalizing id with
  | nil => exact ⟨id, rfl⟩
  | cons summary front ih =>
    rw [List.cons_append, firstOfRuns.afterName, firstOfRuns.afterName]
    split
    · exact ih id
    · obtain ⟨last, behind⟩ := ih summary.id
      exact ⟨last, by rw [behind, List.cons_append]⟩

/-- What is kept of a list behind another. -/
theorem exists_firstOfRuns_append {front : List SceneSummary} (filled : front ≠ [])
    (back : List SceneSummary) :
    ∃ last, firstOfRuns (front ++ back) =
      firstOfRuns front ++ firstOfRuns.afterName last back := by
  cases front with
  | nil => exact absurd rfl filled
  | cons summary front =>
    obtain ⟨last, behind⟩ := exists_afterName_append summary.id front back
    exact ⟨last, by rw [List.cons_append, firstOfRuns, behind, firstOfRuns, List.cons_append]⟩

/-- When all names are different, everything is kept. -/
theorem firstOfRuns_of_nodup {listed : List SceneSummary}
    (distinct : (listed.map SceneSummary.id).Nodup) : firstOfRuns listed = listed := by
  have after : ∀ (id : String) (listed : List SceneSummary),
      (id :: listed.map SceneSummary.id).Nodup → firstOfRuns.afterName id listed = listed := by
    intro id listed distinct
    induction listed generalizing id with
    | nil => rfl
    | cons summary later ih =>
      rw [List.map_cons, List.nodup_cons] at distinct
      rw [firstOfRuns.afterName, if_neg (fun same => distinct.1 (by simp [same])),
        ih summary.id distinct.2]
  cases listed with
  | nil => rfl
  | cons summary later => rw [firstOfRuns, after summary.id later distinct]

/-! ## Names that are listed once -/

/-- Two summaries of a name with another name between them are both kept. -/
theorem not_nodup_of_between {front back : List SceneSummary} {first between second : SceneSummary}
    (inFront : first ∈ front) (inBack : second ∈ back) (same : first.id = second.id)
    (other : between.id ≠ first.id) :
    ¬((firstOfRuns (front ++ between :: back)).map SceneSummary.id).Nodup := by
  obtain ⟨last, kept⟩ := exists_firstOfRuns_append (List.ne_nil_of_mem inFront) (between :: back)
  have again : ∃ kept ∈ firstOfRuns.afterName last (between :: back), kept.id = second.id := by
    rw [firstOfRuns.afterName]
    split
    · rename_i repeated
      exact exists_mem_afterName inBack (fun named => other (by rw [repeated, same, named]))
    · have distant : second.id ≠ between.id := fun named => other (by rw [same, named])
      obtain ⟨kept, member, named⟩ := exists_mem_afterName inBack distant
      exact ⟨kept, List.mem_cons_of_mem _ member, named⟩
  obtain ⟨early, earlyKept, earlyNamed⟩ := exists_mem_firstOfRuns inFront
  obtain ⟨late, lateKept, lateNamed⟩ := again
  have inFirst := List.mem_map_of_mem (f := SceneSummary.id) earlyKept
  have inSecond := List.mem_map_of_mem (f := SceneSummary.id) lateKept
  rw [kept, List.map_append, List.nodup_append]
  intro distinct
  apply distinct.2.2 early.id inFirst late.id inSecond
  rw [earlyNamed, lateNamed, same]

/-- Whether no other name comes between two summaries of one name. -/
def Together (listed : List SceneSummary) : Prop :=
  ∀ first ∈ listed, ∀ second ∈ listed, ∀ between ∈ listed, first.id = second.id →
    listedBefore first between = true → listedBefore between second = true →
    between.id = first.id

/-- Behind the first summary of a name that stands together, its name is not kept again. -/
theorem nodup_afterName {first : SceneSummary} {later : List SceneSummary}
    (sorted : (first :: later).Pairwise fun before behind => listedBefore before behind = true)
    (together : Together (first :: later)) :
    ((first :: firstOfRuns.afterName first.id later).map SceneSummary.id).Nodup := by
  induction later generalizing first with
  | nil => simp [firstOfRuns.afterName]
  | cons summary later ih =>
    have beforeAll := List.pairwise_cons.mp sorted
    rw [firstOfRuns.afterName]
    by_cases repeated : summary.id = first.id
    · rw [if_pos repeated]
      have smaller : (first :: later).Sublist (first :: summary :: later) :=
        (List.sublist_cons_self summary later).cons_cons first
      exact ih (sorted.sublist smaller) fun a inA b inB c inC =>
        together a (smaller.subset inA) b (smaller.subset inB) c (smaller.subset inC)
    · rw [if_neg repeated]
      have inner := ih beforeAll.2 fun a inA b inB c inC =>
        together a (List.mem_cons_of_mem _ inA) b (List.mem_cons_of_mem _ inB)
          c (List.mem_cons_of_mem _ inC)
      rw [List.map_cons, List.nodup_cons]
      refine ⟨?_, inner⟩
      intro member
      obtain ⟨kept, inKept, named⟩ := List.mem_map.mp member
      rcases List.mem_cons.mp inKept with rfl | behind
      · exact repeated named
      · -- The name would come back behind another one, so that one stands in between.
        have inLater := (afterName_sublist summary.id later).subset behind
        have ordered := (List.pairwise_cons.mp beforeAll.2).1 kept inLater
        exact repeated (together first List.mem_cons_self kept (by simp [inLater]) summary
          (by simp) named.symm (beforeAll.1 summary List.mem_cons_self) ordered)

/-- Every name is kept once exactly when summaries of one name stand together. -/
theorem nodup_firstOfRuns_iff {listed : List SceneSummary}
    (sorted : listed.Pairwise fun before behind => listedBefore before behind = true) :
    ((firstOfRuns listed).map SceneSummary.id).Nodup ↔ Together listed := by
  constructor
  · intro distinct first inFirst second inSecond between inBetween same before behind
    refine Decidable.byContradiction fun other => ?_
    -- The list is cut at the summary in between; as it is sorted, one copy is in front of the cut
    -- and the other one behind it.
    obtain ⟨front, back, split⟩ := List.append_of_mem inBetween
    subst split
    obtain ⟨_, ordered, frontBefore⟩ := List.pairwise_append.mp sorted
    have backBehind := (List.pairwise_cons.mp ordered).1
    have inFront : first ∈ front := by
      rcases List.mem_append.mp inFirst with inFront | elsewhere
      · exact inFront
      · rcases List.mem_cons.mp elsewhere with rfl | inBack
        · exact absurd rfl other
        · exact absurd (id_eq_of_listedBefore (backBehind first inBack) before) other
    have inBack : second ∈ back := by
      rcases List.mem_append.mp inSecond with inFront | elsewhere
      · have earlier := frontBefore second inFront between List.mem_cons_self
        exact absurd (id_eq_of_listedBefore behind earlier) (by rwa [← same])
      · rcases List.mem_cons.mp elsewhere with rfl | inBack
        · exact absurd same.symm other
        · exact inBack
    exact not_nodup_of_between inFront inBack same other distinct
  · intro together
    cases listed with
    | nil => exact List.nodup_nil
    | cons first later => exact nodup_afterName sorted together

/-! ## Listings of a folder -/

/-- A listing is sorted. -/
theorem pairwise_listing (found : List SceneSummary) :
    (found.mergeSort listedBefore).Pairwise fun before behind =>
      listedBefore before behind = true := by
  refine List.pairwise_mergeSort ?_ ?_ found
  · intro first second third
    exact listedBefore_trans
  · exact listedBefore_total

/-- Whether summaries stand together does not depend on their order. -/
theorem together_perm {found listed : List SceneSummary} (same : found.Perm listed) :
    Together found ↔ Together listed := by
  simp only [Together, same.mem_iff]

variable (follow : String → Except IoFailure (List UInt8)) (folder : Folder)

/-- A listing names every scene once exactly when the summaries found stand together. -/
theorem nodup_summaries_iff :
    ((summaries follow folder).map SceneSummary.id).Nodup ↔
      Together (folder.filterMap (summaryOf? follow)) := by
  rw [summaries, nodup_firstOfRuns_iff (pairwise_listing _)]
  exact together_perm (List.mergeSort_perm _ _)

/-- The summaries of a listing are sorted. -/
theorem pairwise_summaries :
    (summaries follow folder).Pairwise fun before behind => listedBefore before behind = true :=
  (pairwise_listing _).sublist (firstOfRuns_sublist _)

/-- What a store lists is sorted. -/
theorem pairwise_list {store : SceneStore} {tree : FileTree} {listed : List SceneSummary}
    (answered : store.list tree = .ok listed) :
    listed.Pairwise fun before behind => listedBefore before behind = true := by
  rw [list] at answered
  split at answered
  · rw [← Except.ok.inj answered]
    exact pairwise_summaries _ _
  · cases answered

/-- When the scenes found have different names, all of them are listed. -/
theorem summaries_perm {follow : String → Except IoFailure (List UInt8)} {folder : Folder}
    (distinct : ((folder.filterMap (summaryOf? follow)).map SceneSummary.id).Nodup) :
    (summaries follow folder).Perm (folder.filterMap (summaryOf? follow)) := by
  have same := List.mergeSort_perm (folder.filterMap (summaryOf? follow)) listedBefore
  rw [summaries, firstOfRuns_of_nodup ((same.map SceneSummary.id).nodup_iff.mpr distinct)]
  exact same

end ShapeScene.SceneStore
