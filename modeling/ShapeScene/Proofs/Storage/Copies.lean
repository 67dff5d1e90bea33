import Mathlib.Data.List.Permutation
import ShapeScene.Proofs.Storage.Listing
import ShapeScene.Proofs.Storage.Stock

/-!
# Two copies of one scene in a listing

Where two summaries of one name are found, the one that is sorted first is listed. The other one is
left out when no other name is sorted in between, and only then. Which one is sorted first depends
on their times, and at the same time on the order of their files.
-/

namespace ShapeScene

namespace SceneStore

/-! ## What stays of two neighbours -/

/-- A summary stays whose name is not that of the last one in front of it. -/
theorem mem_afterName_append {id : String} {front : List SceneSummary} {summary : SceneSummary}
    (other : ∀ last, front.getLast? = some last → last.id ≠ summary.id)
    (first : front = [] → id ≠ summary.id) (back : List SceneSummary) :
    summary ∈ firstOfRuns.afterName id (front ++ summary :: back) := by
  induction front generalizing id with
  | nil =>
    rw [List.nil_append, firstOfRuns.afterName, if_neg (fun same => first rfl same.symm)]
    exact List.mem_cons_self
  | cons head front ih =>
    have behind : ∀ last, front.getLast? = some last → last.id ≠ summary.id := by
      intro last found
      cases front with
      | nil => cases found
      | cons next front => exact other last (by rw [List.getLast?_cons_cons, found])
    have next : front = [] → head.id ≠ summary.id := by
      rintro rfl
      exact other head rfl
    rw [List.cons_append, firstOfRuns.afterName]
    split
    · rename_i same
      exact ih behind (same ▸ next)
    · exact List.mem_cons_of_mem _ (ih behind next)

/-- A summary stays whose name is not that of the one in front of it. -/
theorem mem_firstOfRuns_append {front : List SceneSummary} {summary : SceneSummary}
    (other : ∀ last, front.getLast? = some last → last.id ≠ summary.id)
    (back : List SceneSummary) : summary ∈ firstOfRuns (front ++ summary :: back) := by
  cases front with
  | nil => exact List.mem_cons_self
  | cons head front =>
    refine List.mem_cons_of_mem _ (mem_afterName_append ?_ ?_ back)
    · intro last found
      cases front with
      | nil => cases found
      | cons next front => exact other last (by rw [List.getLast?_cons_cons, found])
    · rintro rfl
      exact other head rfl

/-- The second of two neighbours with one name is left out behind a name. -/
theorem afterName_neighbours {first second : SceneSummary} (same : first.id = second.id)
    (id : String) (front back : List SceneSummary) :
    firstOfRuns.afterName id (front ++ first :: second :: back) =
      firstOfRuns.afterName id (front ++ first :: back) := by
  induction front generalizing id with
  | nil =>
    simp only [List.nil_append, firstOfRuns.afterName, ← same]
    split
    · rfl
    · rw [if_pos trivial]
  | cons head front ih =>
    simp only [List.cons_append, firstOfRuns.afterName, ih]

/-- The second of two neighbours with one name is left out. -/
theorem firstOfRuns_neighbours {first second : SceneSummary} (same : first.id = second.id)
    (front back : List SceneSummary) :
    firstOfRuns (front ++ first :: second :: back) = firstOfRuns (front ++ first :: back) := by
  cases front with
  | nil => rw [List.nil_append, List.nil_append, firstOfRuns, firstOfRuns, firstOfRuns.afterName,
      if_pos same.symm]
  | cons head front =>
    rw [List.cons_append, List.cons_append, firstOfRuns, firstOfRuns, afterName_neighbours same]

/-! ## Two summaries of one name -/

/-- Whether a list has two summaries of a name, which are given in order, and no others. -/
def HasPair (listed : List SceneSummary) (id : String) (first second : SceneSummary) : Prop :=
  listed.filter (fun summary => summary.id = id) = [first, second]

section

variable {listed : List SceneSummary} {id : String} {first second : SceneSummary}

/-- The two summaries have the name. -/
theorem HasPair.named (pair : HasPair listed id first second) : first.id = id ∧ second.id = id := by
  have members : ∀ summary ∈ [first, second], summary.id = id := by
    rw [← show _ = _ from pair]
    exact fun summary member => of_decide_eq_true (List.mem_filter.mp member).2
  exact ⟨members first (by simp), members second (by simp)⟩

/-- A list with two summaries of a name, cut there. -/
theorem HasPair.exists_cut (pair : HasPair listed id first second) :
    ∃ front middle back, listed = front ++ first :: (middle ++ second :: back) ∧
      (∀ summary ∈ front, summary.id ≠ id) ∧ (∀ summary ∈ middle, summary.id ≠ id) ∧
      ∀ summary ∈ back, summary.id ≠ id := by
  obtain ⟨front, rest, rfl, inFront, -, restPair⟩ := List.filter_eq_cons_iff.mp pair
  obtain ⟨middle, back, rfl, inMiddle, -, none⟩ := List.filter_eq_cons_iff.mp restPair
  have inBack := List.filter_eq_nil_iff.mp none
  simp only [decide_eq_true_eq] at inFront inMiddle inBack
  exact ⟨front, middle, back, rfl, inFront, inMiddle, inBack⟩

/-- The first of two summaries of a name is listed. -/
theorem HasPair.first_mem (pair : HasPair listed id first second) : first ∈ firstOfRuns listed := by
  obtain ⟨front, middle, back, rfl, inFront, -, -⟩ := pair.exists_cut
  refine mem_firstOfRuns_append (fun last found => ?_) _
  rw [pair.named.1]
  exact inFront last (List.mem_of_getLast? found)

/-- The second of two neighbours is listed nowhere else when no other summary has its name. -/
theorem not_mem_of_neighbours {front back : List SceneSummary} (same : first.id = second.id)
    (different : first ≠ second) (inFront : ∀ summary ∈ front, summary.id ≠ second.id)
    (inBack : ∀ summary ∈ back, summary.id ≠ second.id) :
    second ∉ firstOfRuns (front ++ first :: second :: back) := by
  rw [firstOfRuns_neighbours same]
  intro kept
  rcases List.mem_append.mp ((firstOfRuns_sublist _).subset kept) with early | late
  · exact inFront second early rfl
  · rcases List.mem_cons.mp late with equal | behind
    · exact different equal.symm
    · exact inBack second behind rfl

/-- A summary behind other names is listed. -/
theorem mem_of_distant (front : List SceneSummary) {middle : List SceneSummary}
    (some : middle ≠ []) (inMiddle : ∀ summary ∈ middle, summary.id ≠ second.id)
    (back : List SceneSummary) : second ∈ firstOfRuns (front ++ (middle ++ second :: back)) := by
  rw [← List.append_assoc]
  refine mem_firstOfRuns_append (fun last found => ?_) back
  rw [List.getLast?_append, List.getLast?_eq_some_getLast some, Option.some_or] at found
  obtain rfl := Option.some.inj found
  exact inMiddle _ (List.getLast_mem some)

/-- In a sorted list nothing but themselves stands between two neighbours of one name. -/
theorem named_between_neighbours {front back : List SceneSummary} (same : first.id = second.id)
    (sorted : (front ++ first :: second :: back).Pairwise fun before behind =>
      listedBefore before behind = true)
    {between : SceneSummary} (member : between ∈ front ++ first :: second :: back)
    (before : listedBefore first between = true) (behind : listedBefore between second = true) :
    between.id = second.id := by
  obtain ⟨-, ordered, frontBefore⟩ := List.pairwise_append.mp sorted
  have secondBefore := (List.pairwise_cons.mp (List.pairwise_cons.mp ordered).2).1
  rcases List.mem_append.mp member with early | late
  · have back := frontBefore between early first List.mem_cons_self
    exact (id_eq_of_listedBefore back before).trans same
  · rcases List.mem_cons.mp late with rfl | later
    · exact same
    · rcases List.mem_cons.mp later with rfl | last
      · rfl
      · exact id_eq_of_listedBefore behind (secondBefore between last)

/-- The second of two different summaries of a name is left out of a sorted list exactly when no
other name stands in between. -/
theorem HasPair.second_not_mem_iff (pair : HasPair listed id first second)
    (sorted : listed.Pairwise fun before behind => listedBefore before behind = true)
    (different : first ≠ second) :
    second ∉ firstOfRuns listed ↔ ∀ between ∈ listed, listedBefore first between = true →
      listedBefore between second = true → between.id = id := by
  obtain ⟨firstNamed, rfl⟩ := pair.named
  obtain ⟨front, middle, back, rfl, inFront, inMiddle, inBack⟩ := pair.exists_cut
  cases middle with
  | nil =>
    refine iff_of_true (not_mem_of_neighbours firstNamed different inFront inBack) ?_
    exact fun between member => named_between_neighbours firstNamed sorted member
  | cons between middle =>
    obtain ⟨-, ordered, -⟩ := List.pairwise_append.mp sorted
    obtain ⟨firstBefore, behindFirst⟩ := List.pairwise_cons.mp ordered
    obtain ⟨-, -, middleBefore⟩ := List.pairwise_append.mp behindFirst
    refine iff_of_false ?_ fun together => ?_
    · have listed := mem_of_distant (front ++ [first]) (List.cons_ne_nil between middle) inMiddle
        back
      rw [List.append_assoc] at listed
      exact not_not_intro listed
    · have before := firstBefore between (by simp)
      have behind := middleBefore between List.mem_cons_self second List.mem_cons_self
      exact inMiddle between List.mem_cons_self (together between (by simp) before behind)

/-- Sorting leaves two summaries of one name, in one order or the other. -/
theorem HasPair.mergeSort_cases (pair : HasPair listed id first second) :
    HasPair (listed.mergeSort listedBefore) id first second ∨
      HasPair (listed.mergeSort listedBefore) id second first := by
  have same := (List.mergeSort_perm listed listedBefore).filter fun summary => summary.id = id
  rw [show listed.filter _ = _ from pair] at same
  exact List.perm_pair.mp same

/-- Sorting keeps the order of two summaries of one name when they may stand in it. -/
theorem HasPair.mergeSort (pair : HasPair listed id first second)
    (before : listedBefore first second = true) :
    HasPair (listed.mergeSort listedBefore) id first second := by
  rcases pair.mergeSort_cases with kept | turned
  · exact kept
  · -- The sort is stable, so that the order is turned round only for equal summaries.
    have trans : ∀ first second third, listedBefore first second = true →
        listedBefore second third = true → listedBefore first third = true :=
      fun _ _ _ => listedBefore_trans
    have found : [first, second].Sublist listed := by
      rw [← show _ = _ from pair]
      exact List.filter_sublist
    have stable := (List.pair_sublist_mergeSort trans listedBefore_total before found).filter
      fun summary => summary.id = id
    have whole : [first, second].filter (fun summary => summary.id = id) = [first, second] := by
      simp [pair.named]
    rw [whole, show List.filter _ (listed.mergeSort listedBefore) = _ from turned] at stable
    rw [HasPair, turned]
    exact (stable.eq_of_length rfl).symm

/-- Sorting turns the order of two summaries of one name round when they may not stand in it. -/
theorem HasPair.mergeSort_turned (pair : HasPair listed id first second)
    (behind : listedBefore first second = false) :
    HasPair (listed.mergeSort listedBefore) id second first := by
  rcases pair.mergeSort_cases with kept | turned
  · have sorted := (pairwise_listing listed).sublist
      (List.filter_sublist (p := fun summary => decide (summary.id = id)))
    rw [show List.filter _ _ = _ from kept] at sorted
    have before := (List.pairwise_cons.mp sorted).1 second List.mem_cons_self
    rw [behind] at before
    cases before
  · exact turned

end

end SceneStore

/-! ## Two files of one scene -/

namespace Folder

open SceneStore

/-- Whether one copy of a scene is sorted before another: it was made first, or at the same time and
its file stands first in the folder. -/
def ComesFirst (folder : Folder) (id : String) (first second : StoreFormat)
    (early late : SceneRecord) : Prop :=
  early.timestamp < late.timestamp ∨ early.timestamp = late.timestamp ∧
    [fileName id first, fileName id second].Sublist (folder.map Prod.fst)

/-- Of two different members of a list one stands first. -/
theorem pair_sublist_or {names : List String} {first second : String} (inFirst : first ∈ names)
    (inSecond : second ∈ names) (different : first ≠ second) :
    [first, second].Sublist names ∨ [second, first].Sublist names := by
  obtain ⟨front, back, rfl⟩ := List.append_of_mem inFirst
  rcases List.mem_append.mp inSecond with early | late
  · exact .inr ((List.singleton_sublist.mpr early).append
      (List.singleton_sublist.mpr List.mem_cons_self))
  · rcases List.mem_cons.mp late with same | behind
    · exact absurd same.symm different
    · exact .inl (((List.singleton_sublist.mpr behind).cons_cons first).trans
        (List.sublist_append_right front _))

/-- Where no name is used twice, some entries are found again by their names. -/
theorem filter_names {folder entries : Folder} (inFolder : entries.Sublist folder)
    (distinct : (folder.map Prod.fst).Nodup) :
    folder.filter (fun entry => entry.1 ∈ entries.map Prod.fst) = entries := by
  induction inFolder with
  | slnil => rfl
  | cons entry smaller ih =>
    obtain ⟨absent, others⟩ := List.nodup_cons.mp distinct
    have outside : entry.1 ∉ List.map Prod.fst _ := fun named =>
      absent ((smaller.map Prod.fst).subset named)
    rw [List.filter_cons_of_neg (by simpa using outside)]
    exact ih others
  | @cons_cons entries rest entry smaller ih =>
    obtain ⟨absent, others⟩ := List.nodup_cons.mp distinct
    rw [List.filter_cons_of_pos (by simp)]
    refine congrArg _ (Eq.trans (List.filter_congr fun other member => ?_) (ih others))
    have apart : other.1 ≠ entry.1 := fun same => absent (same ▸ List.mem_map_of_mem member)
    simp [apart]

namespace Keeps

variable {folder : Folder} {stock : Stock} (keeps : folder.Keeps stock) (reads : stock.ReadsBack)
  {id : String} {first second : StoreFormat} {early late : SceneRecord}
  (kept : stock first id = some early) (keptToo : stock second id = some late)
  (formats : first ≠ second) (follow : String → Except IoFailure (List UInt8))

include keeps reads in
/-- The summary of an entry of the folder is that of the scene whose file it is. -/
theorem summaryOf?_entry {format : StoreFormat} {name : String} {record : SceneRecord}
    (there : stock format name = some record) :
    summaryOf? follow (fileName name format, .file (record.toBytes format) false) =
      some record.summary :=
  (summaryOf?_fileName follow (keeps.named there).2 format _ _ _).mpr
    ⟨record, reads format name record there, rfl⟩

include keeps reads formats kept keptToo in
/-- The summaries of a name are found in its two files. -/
theorem filter_found :
    (folder.filterMap (summaryOf? follow)).filter (fun summary => summary.id = id) =
      (folder.filter fun entry => entry.1 ∈ [fileName id first, fileName id second]).filterMap
        (summaryOf? follow) := by
  rw [List.filter_filterMap, List.filterMap_filter]
  refine List.filterMap_congr fun entry member => ?_
  obtain ⟨format, name, record, there, rfl⟩ := keeps.only member
  rw [keeps.summaryOf?_entry reads follow there]
  have named : record.summary.id = name := (keeps.named there).1
  have inFiles : fileName name format ∈ [fileName id first, fileName id second] ↔ name = id := by
    rw [List.mem_pair]
    constructor
    · have validToo := (keeps.named kept).2
      rintro (own | own)
      · exact (fileName_injective (keeps.named there).2 validToo own).1
      · exact (fileName_injective (keeps.named there).2 validToo own).1
    · rintro rfl
      have either : format = first ∨ format = second := by
        revert formats
        cases first <;> cases second <;> cases format <;> decide
      rcases either with rfl | rfl
      · exact .inl rfl
      · exact .inr rfl
  rw [Option.filter_some, decide_eq_decide.mpr inFiles, named]

include keeps kept keptToo in
/-- The entries with the names of two files are these files. -/
theorem filter_entries
    (inOrder : [fileName id first, fileName id second].Sublist (folder.map Prod.fst)) :
    folder.filter (fun entry => entry.1 ∈ [fileName id first, fileName id second]) =
      [(fileName id first, .file (early.toBytes first) false),
        (fileName id second, .file (late.toBytes second) false)] := by
  have entry : ∀ {format record content}, stock format id = some record →
      (fileName id format, content) ∈ folder → content = .file (record.toBytes format) false := by
    intro format record content there member
    obtain ⟨other, name, copy, copied, same⟩ := keeps.only member
    obtain ⟨rfl, rfl⟩ := fileName_injective (keeps.named there).2 (keeps.named copied).2
      (congrArg Prod.fst same)
    rw [there] at copied
    cases copied
    exact congrArg Prod.snd same
  obtain ⟨entries, inFolder, names⟩ := List.sublist_map_iff.mp inOrder
  obtain ⟨⟨name, content⟩, rest, rfl, named, others⟩ := List.map_eq_cons_iff.mp names.symm
  obtain ⟨⟨nameToo, contentToo⟩, rest, rfl, namedToo, none⟩ := List.map_eq_cons_iff.mp others
  obtain rfl := List.map_eq_nil_iff.mp none
  dsimp only at named namedToo
  subst named namedToo
  obtain rfl := entry kept (inFolder.subset List.mem_cons_self)
  obtain rfl := entry keptToo (inFolder.subset (List.mem_cons_of_mem _ List.mem_cons_self))
  exact filter_names inFolder keeps.distinct

include keeps reads formats kept keptToo in
/-- Two files of one scene give two summaries of its name, in the order of the files. -/
theorem hasPair_found
    (inOrder : [fileName id first, fileName id second].Sublist (folder.map Prod.fst)) :
    HasPair (folder.filterMap (summaryOf? follow)) id early.summary late.summary := by
  have whole := keeps.filter_entries kept keptToo inOrder
  rw [HasPair, keeps.filter_found reads kept keptToo formats follow, whole]
  simp only [List.filterMap_cons, keeps.summaryOf?_entry reads follow kept,
    keeps.summaryOf?_entry reads follow keptToo, List.filterMap_nil]

include keeps formats kept keptToo in
/-- Of two files of one scene one stands first. -/
theorem files_inOrder_or :
    [fileName id first, fileName id second].Sublist (folder.map Prod.fst) ∨
      [fileName id second, fileName id first].Sublist (folder.map Prod.fst) := by
  refine pair_sublist_or (List.mem_map_of_mem (mem_of_find? (keeps.held kept)))
    (List.mem_map_of_mem (mem_of_find? (keeps.held keptToo))) ?_
  intro same
  have valid := (keeps.named kept).2
  exact formats (fileName_injective valid valid same).2

include keeps formats kept keptToo in
/-- Of two copies of one scene one comes first. -/
theorem comesFirst_or :
    folder.ComesFirst id first second early late ∨
      folder.ComesFirst id second first late early := by
  by_cases earlier : early.timestamp < late.timestamp
  · exact .inl (.inl earlier)
  by_cases later : late.timestamp < early.timestamp
  · exact .inr (.inl later)
  have same : early.timestamp = late.timestamp :=
    String.le_antisymm (String.not_lt.mp later) (String.not_lt.mp earlier)
  rcases keeps.files_inOrder_or kept keptToo formats with inOrder | turned
  · exact .inl (.inr ⟨same, inOrder⟩)
  · exact .inr (.inr ⟨same.symm, turned⟩)

include keeps reads formats kept keptToo in
/-- Two files of one scene give two summaries in the sorted listing, in the order of the copies. -/
theorem hasPair_sorted (comesFirst : folder.ComesFirst id first second early late) :
    HasPair ((folder.filterMap (summaryOf? follow)).mergeSort listedBefore) id early.summary
      late.summary := by
  have named : early.summary.id = late.summary.id :=
    (keeps.named kept).1.trans (keeps.named keptToo).1.symm
  have before : listedBefore early.summary late.summary = true := by
    rw [listedBefore_iff]
    rcases comesFirst with earlier | ⟨same, -⟩
    · exact .inl earlier
    · exact .inr ⟨same, named ▸ String.le_refl _⟩
  rcases keeps.files_inOrder_or kept keptToo formats with inOrder | turned
  · exact (keeps.hasPair_found reads kept keptToo formats follow inOrder).mergeSort before
  · rcases comesFirst with earlier | ⟨-, inOrder⟩
    · have pair := keeps.hasPair_found reads keptToo kept formats.symm follow turned
      refine pair.mergeSort_turned ?_
      rw [Bool.eq_false_iff, Ne, listedBefore_iff]
      rintro (later | ⟨same, -⟩)
      · exact String.lt_irrefl _ (String.lt_trans earlier later)
      · have equal : late.timestamp = early.timestamp := same
        rw [equal] at earlier
        exact String.lt_irrefl _ earlier
    · exact (keeps.hasPair_found reads kept keptToo formats follow inOrder).mergeSort before

include keeps reads formats kept keptToo in
/-- Of two copies of a scene that differ in a listing, the listing leaves out the second exactly
when the first comes first and no other scene comes in between. -/
theorem left_out_iff (different : early.summary ≠ late.summary) :
    late.summary ∉ summaries follow folder ↔
      folder.ComesFirst id first second early late ∧
        ∀ between, stock.Shows between → listedBefore early.summary between = true →
          listedBefore between late.summary = true → between.id = id := by
  have listed : ∀ summary, summary ∈ (folder.filterMap (summaryOf? follow)).mergeSort
      listedBefore ↔ stock.Shows summary := by
    intro summary
    rw [List.mem_mergeSort, keeps.mem_found]
  rw [summaries]
  by_cases comesFirst : folder.ComesFirst id first second early late
  · have pair := keeps.hasPair_sorted reads kept keptToo formats follow comesFirst
    rw [pair.second_not_mem_iff (pairwise_listing _) different]
    simp only [listed, comesFirst, true_and]
  · refine iff_of_false ?_ fun both => comesFirst both.1
    have comesLast := (keeps.comesFirst_or kept keptToo formats).resolve_left comesFirst
    rw [Classical.not_not]
    exact (keeps.hasPair_sorted reads keptToo kept formats.symm follow comesLast).first_mem

end Keeps

end Folder

end ShapeScene
