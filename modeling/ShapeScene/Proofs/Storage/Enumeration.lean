import ShapeScene.Proofs.Scene.RoundTrip
import ShapeScene.Proofs.Storage.Copies
import ShapeScene.Proofs.Storage.Visits

/-!
# The order in which a folder is read

The entries of a folder come in any order. A listing sorts what is found by time and by name, so the
order of the entries counts only among summaries with both the same: the sort keeps the order in
which these were found, and only the first of them can stay. Hence every order gives one listing
exactly when such summaries do not differ, or none of them stays.
-/

namespace ShapeScene

/-! ## Folders with the same entries -/

namespace Folder

variable {folder order : Folder}

/-- An entry is found under its name when no name is used twice. -/
theorem find?_of_mem (distinct : (folder.map Prod.fst).Nodup) {name : String} {entry : Entry}
    (member : (name, entry) ∈ folder) : folder.find? name = some entry := by
  induction folder with
  | nil => cases member
  | cons head rest ih =>
    obtain ⟨absent, others⟩ := List.nodup_cons.mp distinct
    rw [find?]
    rcases List.mem_cons.mp member with rfl | behind
    · rw [if_pos rfl]
    · have apart : head.1 ≠ name := fun same => absent (same ▸ List.mem_map_of_mem behind)
      rw [if_neg apart]
      exact ih others behind

/-- The order of the entries does not change what is found under a name. -/
theorem find?_perm (distinct : (folder.map Prod.fst).Nodup) (same : order.Perm folder)
    (name : String) : order.find? name = folder.find? name := by
  have distinctToo := (same.map Prod.fst).nodup_iff.mpr distinct
  refine Option.ext fun entry => ⟨fun found => ?_, fun found => ?_⟩
  · exact find?_of_mem distinct (same.subset (mem_of_find? found))
  · exact find?_of_mem distinctToo (same.symm.subset (mem_of_find? found))

/-- The same is seen whatever the order of the entries. -/
theorem seenAlike_of_perm {View : Type} (view : Entry → Option View)
    (distinct : (folder.map Prod.fst).Nodup) (same : order.Perm folder) :
    SeenAlike view order folder := by
  intro place name
  cases place with
  | nil => simp only [seenAt?, at?, Option.bind_some, find?_perm distinct same]
  | cons first place => simp only [seenAt?, at?, find?_perm distinct same]

end Folder

/-! ## Files that are read -/

/-- What is read of an entry where no more links are followed. -/
def Entry.content? : Entry → Option (List UInt8)
  | .file content _ => some content
  | .device _ => some []
  | .folder _ | .link _ => none

/-- What is read under a name. -/
theorem Folder.read_eq_ok_iff (folder : Folder) (name : String) (content : List UInt8) :
    folder.read name = .ok content ↔
      isTooLong name = false ∧ (folder.find? name).bind Entry.content? = some content := by
  rw [read]
  cases isTooLong name with
  | true => simp
  | false =>
    cases folder.find? name with
    | none => simp
    | some entry => cases entry <;> simp [Entry.content?]

namespace FileTree

variable {first second tree : FileTree}

/-- Whether paths are read alike in two trees. -/
structure ReadsAs (first second : FileTree) : Prop where
  /-- Paths lead the same way. -/
  leads : first.LeadsAs second
  /-- Files hold the same. -/
  holds : first.root.SeenAlike Entry.content? second.root

/-- Paths are read alike the other way round. -/
theorem ReadsAs.symm (same : first.ReadsAs second) : second.ReadsAs first :=
  ⟨same.leads.symm, fun place name => (same.holds place name).symm⟩

/-- What is held under a name in the folder at a place. -/
theorem content?_folderAt (tree : FileTree) (place : List String) (name : String) :
    ((tree.folderAt place).find? name).bind Entry.content? =
      tree.root.seenAt? Entry.content? place name := by
  rw [folderAt, Folder.seenAt?]
  cases tree.root.at? place <;> rfl

/-- What is read in a tree is read in one that is read alike. -/
theorem ReadsAs.readFrom_eq_ok (same : first.ReadsAs second) {place : List String} {path : String}
    {content : List UInt8} (read : first.readFrom place path = .ok content) :
    second.readFrom place path = .ok content := by
  rw [FileTree.readFrom, bind_eq_ok] at read ⊢
  obtain ⟨located, way, read⟩ := read
  rw [bind_eq_ok] at read
  obtain ⟨reached, arrived, read⟩ := read
  refine ⟨located, same.leads.locateFrom way, ?_⟩
  rw [bind_eq_ok]
  refine ⟨reached, same.leads.arrive arrived, ?_⟩
  cases reached with
  | folder place => cases read
  | name place name asFolder =>
    rw [bind_eq_ok] at read ⊢
    obtain ⟨held, found, read⟩ := read
    refine ⟨held, ?_, read⟩
    rw [Folder.read_eq_ok_iff, content?_folderAt] at found ⊢
    rwa [← same.holds]

/-- Paths are read alike, as far as they are read at all. -/
theorem ReadsAs.toOption_readFrom (same : first.ReadsAs second) (place : List String)
    (path : String) :
    (first.readFrom place path).toOption = (second.readFrom place path).toOption := by
  have through : ∀ {first second : FileTree}, first.ReadsAs second → ∀ content,
      (first.readFrom place path).toOption = some content →
        (second.readFrom place path).toOption = some content := by
    intro first second same content read
    cases answer : first.readFrom place path with
    | error failure =>
      rw [answer] at read
      cases read
    | ok held => rwa [same.readFrom_eq_ok answer, ← answer]
  exact Option.ext fun content => ⟨through same content, through same.symm content⟩

/-- The order of the entries of a folder does not change what is read. -/
theorem readsAs_withFolderAt {place : List String} {folder order : Folder}
    (there : tree.root.at? place = some folder) (distinct : (folder.map Prod.fst).Nodup)
    (same : order.Perm folder) : (tree.withFolderAt place order).ReadsAs tree where
  leads := (leadsAs_withFolderAt there (Folder.seenAlike_of_perm _ distinct same)).symm
  holds := Folder.seenAlike_replaceAt (fun _ _ => rfl) there
    (Folder.seenAlike_of_perm _ distinct same)

end FileTree

/-! ## Summaries that stay -/

/-- What a listing is sorted by: the time and the name. -/
def SceneSummary.sortKey (summary : SceneSummary) : String × String :=
  (summary.timestamp, summary.id)

namespace SceneStore

/-- What stays behind a name is no summary of that name, nor of that of the one in front of it. -/
theorem exists_cut_of_mem_afterName {id : String} {listed : List SceneSummary}
    {summary : SceneSummary} (kept : summary ∈ firstOfRuns.afterName id listed) :
    ∃ front back, listed = front ++ summary :: back ∧
      (id :: front.map SceneSummary.id).getLast? ≠ some summary.id := by
  induction listed generalizing id with
  | nil => cases kept
  | cons head later ih =>
    rw [firstOfRuns.afterName] at kept
    by_cases same : head.id = id
    · rw [if_pos same] at kept
      obtain ⟨front, back, rfl, other⟩ := ih kept
      exact ⟨head :: front, back, rfl, by rwa [List.map_cons, List.getLast?_cons_cons, same]⟩
    · rw [if_neg same] at kept
      rcases List.mem_cons.mp kept with rfl | behind
      · exact ⟨[], later, rfl, fun equal => same (Option.some.inj equal).symm⟩
      · obtain ⟨front, back, rfl, other⟩ := ih behind
        exact ⟨head :: front, back, rfl, by rwa [List.map_cons, List.getLast?_cons_cons]⟩

/-- What stays is a summary with no other of its name directly in front of it. -/
theorem mem_firstOfRuns_iff {listed : List SceneSummary} {summary : SceneSummary} :
    summary ∈ firstOfRuns listed ↔ ∃ front back, listed = front ++ summary :: back ∧
      ∀ last, front.getLast? = some last → last.id ≠ summary.id := by
  constructor
  · intro kept
    cases listed with
    | nil => cases kept
    | cons head later =>
      rcases List.mem_cons.mp kept with rfl | behind
      · exact ⟨[], later, rfl, fun last none => by cases none⟩
      · obtain ⟨front, back, rfl, other⟩ := exists_cut_of_mem_afterName behind
        refine ⟨head :: front, back, rfl, fun last found same => other ?_⟩
        rw [← List.map_cons, List.getLast?_map, found, Option.map_some, same]
  · rintro ⟨front, back, rfl, other⟩
    exact mem_firstOfRuns_append other back

variable {listed found : List SceneSummary} {first second summary : SceneSummary}

/-- Summaries of one sort key are sorted alike. -/
theorem listedBefore_of_sortKey (same : first.sortKey = second.sortKey) :
    listedBefore first second = true := by
  obtain ⟨times, names⟩ := Prod.mk.inj same
  exact (listedBefore_iff _ _).mpr (.inr ⟨times, names ▸ String.le_refl _⟩)

/-- Summaries that are before each other have one sort key. -/
theorem sortKey_eq_of_listedBefore (before : listedBefore first second = true)
    (behind : listedBefore second first = true) : first.sortKey = second.sortKey := by
  have names := id_eq_of_listedBefore before behind
  rw [listedBefore_iff] at before behind
  have times : first.timestamp = second.timestamp := by
    rcases before with earlier | ⟨same, -⟩
    · rcases behind with later | ⟨same, -⟩
      · exact absurd (String.lt_trans earlier later) (String.lt_irrefl _)
      · exact same.symm
    · exact same
  rw [SceneSummary.sortKey, SceneSummary.sortKey, times, names]

/-- Another name is sorted between a summary that stays and one of its name in front of it. -/
theorem exists_between_of_stays {front back : List SceneSummary} {summary early : SceneSummary}
    (sorted : (front ++ summary :: back).Pairwise fun before behind =>
      listedBefore before behind = true)
    (other : ∀ last, front.getLast? = some last → last.id ≠ summary.id) (ahead : early ∈ front) :
    ∃ between ∈ front, between.id ≠ summary.id ∧ listedBefore early between = true ∧
      listedBefore between summary = true := by
  have filled := List.ne_nil_of_mem ahead
  obtain ⟨front, last, rfl⟩ := (List.eq_nil_or_concat' front).resolve_left filled
  obtain ⟨ordered, -, frontBefore⟩ := List.pairwise_append.mp sorted
  have inFront : last ∈ front ++ [last] := by simp
  refine ⟨last, inFront, other last (by simp), ?_, frontBefore last inFront _ List.mem_cons_self⟩
  rcases List.mem_append.mp ahead with before | itself
  · exact (List.pairwise_append.mp ordered).2.2 early before last (by simp)
  · rw [List.mem_singleton.mp itself]
    exact listedBefore_of_sortKey rfl

/-- A summary that stays in a sorted list is the first one with its time and name. -/
theorem find?_of_mem_firstOfRuns
    (sorted : listed.Pairwise fun before behind => listedBefore before behind = true)
    (kept : summary ∈ firstOfRuns listed) :
    listed.find? (fun other => other.sortKey = summary.sortKey) = some summary := by
  obtain ⟨front, back, rfl, other⟩ := mem_firstOfRuns_iff.mp kept
  have none : front.find? (fun other => other.sortKey = summary.sortKey) = none := by
    rw [List.find?_eq_none]
    intro early ahead same
    obtain ⟨between, -, different, behind, before⟩ := exists_between_of_stays sorted other ahead
    have back := listedBefore_of_sortKey (of_decide_eq_true same).symm
    exact different (id_eq_of_listedBefore before (listedBefore_trans back behind))
  rw [List.find?_append, none, Option.none_or, List.find?_cons_of_pos (by simp)]

/-! ## Summaries that are left out -/

/-- Whether a summary is left out of a listing: one of its name was made earlier, and no other name
is sorted in between. -/
def LeftOut (found : List SceneSummary) (summary : SceneSummary) : Prop :=
  ∃ earlier ∈ found, earlier.id = summary.id ∧ earlier.timestamp < summary.timestamp ∧
    ∀ between ∈ found, listedBefore earlier between = true →
      listedBefore between summary = true → between.id = summary.id

/-- Whether of summaries with the same time and the same name, all are equal or none is listed. -/
def Settled (found : List SceneSummary) : Prop :=
  ∀ first ∈ found, ∀ second ∈ found, first.timestamp = second.timestamp → first.id = second.id →
    first = second ∨ LeftOut found first

/-- Whether a summary is left out does not depend on the order of the others. -/
theorem leftOut_perm (same : found.Perm listed) :
    LeftOut found summary ↔ LeftOut listed summary := by
  simp only [LeftOut, same.mem_iff]

/-- Whether a summary is left out is known from its time and its name. -/
theorem leftOut_congr (same : first.sortKey = second.sortKey) :
    LeftOut found first ↔ LeftOut found second := by
  obtain ⟨times, names⟩ := Prod.mk.inj same
  simp only [LeftOut, listedBefore, times, names]

/-- A summary that is left out does not stay. -/
theorem LeftOut.not_mem_firstOfRuns
    (sorted : listed.Pairwise fun before behind => listedBefore before behind = true)
    (out : LeftOut listed summary) : summary ∉ firstOfRuns listed := by
  intro kept
  obtain ⟨earlier, member, named, before, together⟩ := out
  obtain ⟨front, back, rfl, other⟩ := mem_firstOfRuns_iff.mp kept
  have notBehind : listedBefore summary earlier = false := by
    rw [Bool.eq_false_iff, Ne, listedBefore_iff]
    rintro (later | ⟨same, -⟩)
    · exact String.lt_irrefl _ (String.lt_trans before later)
    · exact String.lt_irrefl _ (same ▸ before)
  have ahead : earlier ∈ front := by
    refine (List.mem_append.mp member).resolve_right fun elsewhere => ?_
    have behind : listedBefore summary earlier = true := by
      rcases List.mem_cons.mp elsewhere with rfl | inBack
      · exact listedBefore_of_sortKey rfl
      · exact (List.pairwise_cons.mp (List.pairwise_append.mp sorted).2.1).1 earlier inBack
    rw [notBehind] at behind
    cases behind
  obtain ⟨between, inFront, different, behind, ahead⟩ := exists_between_of_stays sorted other ahead
  exact different (together between (List.mem_append_left _ inFront) behind ahead)

/-- A summary stays that is sorted behind all that are in front of it and is not left out. -/
theorem mem_firstOfRuns_of_not_leftOut {front back : List SceneSummary}
    (sorted : (front ++ summary :: back).Pairwise fun before behind =>
      listedBefore before behind = true)
    (ahead : ∀ early ∈ front, listedBefore summary early = false)
    (stays : ¬LeftOut (front ++ summary :: back) summary) :
    summary ∈ firstOfRuns (front ++ summary :: back) := by
  refine mem_firstOfRuns_append (fun last found same => stays ?_) back
  obtain ⟨front, rfl⟩ := List.getLast?_eq_some_iff.mp found
  have member : last ∈ front ++ [last] := by simp
  have before := (List.pairwise_append.mp sorted).2.2 last member summary List.mem_cons_self
  have earlier : last.timestamp < summary.timestamp := by
    rcases (listedBefore_iff _ _).mp before with earlier | ⟨times, -⟩
    · exact earlier
    · have tied : last.sortKey = summary.sortKey := Prod.ext times same
      have back := listedBefore_of_sortKey tied.symm
      rw [ahead last member] at back
      cases back
  rw [List.append_assoc, List.singleton_append] at sorted ⊢
  exact ⟨last, by simp, same, earlier, fun between member =>
    named_between_neighbours same sorted member⟩

/-! ## Two orders -/

/-- Which places of a sorted list stay is known from the times and names. -/
theorem map_sortKey_afterName {first second : List SceneSummary}
    (same : first.map SceneSummary.sortKey = second.map SceneSummary.sortKey) (id : String) :
    (firstOfRuns.afterName id first).map SceneSummary.sortKey =
      (firstOfRuns.afterName id second).map SceneSummary.sortKey := by
  induction first generalizing second id with
  | nil =>
    obtain rfl := List.map_eq_nil_iff.mp same.symm
    rfl
  | cons head first ih =>
    obtain ⟨headToo, second, rfl, heads, others⟩ := List.map_eq_cons_iff.mp same.symm
    have names : headToo.id = head.id := congrArg Prod.snd heads
    rw [firstOfRuns.afterName, firstOfRuns.afterName, names]
    split
    · exact ih others.symm id
    · rw [List.map_cons, List.map_cons, heads, ih others.symm]

/-- The times and names that stay are known from the times and names. -/
theorem map_sortKey_firstOfRuns {first second : List SceneSummary}
    (same : first.map SceneSummary.sortKey = second.map SceneSummary.sortKey) :
    (firstOfRuns first).map SceneSummary.sortKey =
      (firstOfRuns second).map SceneSummary.sortKey := by
  cases first with
  | nil =>
    obtain rfl := List.map_eq_nil_iff.mp same.symm
    rfl
  | cons head first =>
    obtain ⟨headToo, second, rfl, heads, others⟩ := List.map_eq_cons_iff.mp same.symm
    have names : headToo.id = head.id := congrArg Prod.snd heads
    rw [firstOfRuns, firstOfRuns, List.map_cons, List.map_cons, heads, names,
      map_sortKey_afterName others.symm]

/-- Two lists are equal when their elements are told apart by what is equal in them. -/
theorem eq_of_map_eq {Element Key : Type} {key : Element → Key} {first second : List Element}
    (same : first.map key = second.map key)
    (apart : ∀ one ∈ first, ∀ other ∈ second, key one = key other → one = other) :
    first = second := by
  induction first generalizing second with
  | nil => exact (List.map_eq_nil_iff.mp same.symm).symm
  | cons head first ih =>
    obtain ⟨headToo, second, rfl, heads, others⟩ := List.map_eq_cons_iff.mp same.symm
    obtain rfl := apart head List.mem_cons_self headToo List.mem_cons_self heads.symm
    rw [ih others.symm fun one inOne other inOther =>
      apart one (List.mem_cons_of_mem _ inOne) other (List.mem_cons_of_mem _ inOther)]

/-- A summary is before another when its time and name are. -/
theorem listedBefore_iff_lex (first second : SceneSummary) :
    listedBefore first second = true ↔
      Prod.Lex (· < ·) (· ≤ ·) first.sortKey second.sortKey := by
  rw [listedBefore_iff, Prod.lex_iff, SceneSummary.sortKey, SceneSummary.sortKey]

/-- Sorting gives the same times and names in every order. -/
theorem map_sortKey_mergeSort {first second : List SceneSummary} (same : first.Perm second) :
    (first.mergeSort listedBefore).map SceneSummary.sortKey =
      (second.mergeSort listedBefore).map SceneSummary.sortKey := by
  have sorted (found : List SceneSummary) :
      ((found.mergeSort listedBefore).map SceneSummary.sortKey).Pairwise
        (Prod.Lex (· < ·) (· ≤ ·)) := by
    rw [List.pairwise_map]
    exact (pairwise_listing found).imp (listedBefore_iff_lex _ _).mp
  have members : (first.mergeSort listedBefore).Perm (second.mergeSort listedBefore) :=
    (List.mergeSort_perm first _).trans (same.trans (List.mergeSort_perm second _).symm)
  refine List.Perm.eq_of_pairwise ?_ (sorted first) (sorted second) (members.map _)
  intro one other inFirst inSecond before behind
  obtain ⟨summary, -, rfl⟩ := List.mem_map.mp inFirst
  obtain ⟨summaryToo, -, rfl⟩ := List.mem_map.mp inSecond
  rw [← listedBefore_iff_lex] at before behind
  exact sortKey_eq_of_listedBefore before behind

variable {follow : String → Except IoFailure (List UInt8)} {folder order : Folder}

/-- What is found settles the listing of every order of a folder in which it is settled. -/
theorem summaries_eq_of_settled (settled : Settled (folder.filterMap (summaryOf? follow)))
    {first second : Folder} (firstSame : first.Perm folder) (secondSame : second.Perm folder) :
    summaries follow first = summaries follow second := by
  have inFound {order : Folder} (same : order.Perm folder) {summary : SceneSummary}
      (kept : summary ∈ summaries follow order) :
      summary ∈ folder.filterMap (summaryOf? follow) ∧
        ¬LeftOut (folder.filterMap (summaryOf? follow)) summary := by
    have members := (List.mergeSort_perm _ listedBefore).trans (same.filterMap (summaryOf? follow))
    refine ⟨members.subset ((firstOfRuns_sublist _).subset kept), fun out => ?_⟩
    rw [← leftOut_perm members] at out
    exact out.not_mem_firstOfRuns (pairwise_listing _) kept
  have found : (first.filterMap (summaryOf? follow)).Perm (second.filterMap (summaryOf? follow)) :=
    (firstSame.trans secondSame.symm).filterMap _
  refine eq_of_map_eq (map_sortKey_firstOfRuns (map_sortKey_mergeSort found)) ?_
  intro one inFirst other inSecond same
  obtain ⟨oneFound, stays⟩ := inFound firstSame inFirst
  obtain ⟨otherFound, -⟩ := inFound secondSame inSecond
  obtain ⟨times, names⟩ := Prod.mk.inj same
  exact (settled one oneFound other otherFound times names).resolve_right stays

/-- The sort is stable: whatever comes out in front of the summary that was found first is sorted
before it. -/
theorem exists_cut_of_first (summary : SceneSummary) (others : List SceneSummary) :
    ∃ front back, (summary :: others).mergeSort listedBefore = front ++ summary :: back ∧
      ∀ early ∈ front, listedBefore summary early = false := by
  have trans (first second third : SceneSummary) (before : listedBefore first second = true)
      (behind : listedBefore second third = true) : listedBefore first third = true :=
    listedBefore_trans before behind
  obtain ⟨front, back, cut, -, before⟩ :=
    List.mergeSort_cons trans listedBefore_total summary others
  exact ⟨front, back, cut, fun early inFront => (Bool.not_eq_true' _).mp (before early inFront)⟩

/-- The summary that is found first is listed when it is not left out. -/
theorem mem_firstOfRuns_of_first {others : List SceneSummary}
    (stays : ¬LeftOut (summary :: others) summary) :
    summary ∈ firstOfRuns ((summary :: others).mergeSort listedBefore) := by
  have sorted := pairwise_listing (summary :: others)
  rw [← leftOut_perm (List.mergeSort_perm (summary :: others) listedBefore)] at stays
  obtain ⟨front, back, cut, before⟩ := exists_cut_of_first summary others
  rw [cut] at sorted stays ⊢
  exact mem_firstOfRuns_of_not_leftOut sorted before stays

/-- A summary that is not left out is listed when its entry comes first in the folder. -/
theorem exists_order_of_not_leftOut
    (found : summary ∈ folder.filterMap (summaryOf? follow))
    (stays : ¬LeftOut (folder.filterMap (summaryOf? follow)) summary) :
    ∃ order : Folder, order.Perm folder ∧ summary ∈ summaries follow order := by
  obtain ⟨entry, member, shown⟩ := List.mem_filterMap.mp found
  obtain ⟨front, back, rfl⟩ := List.append_of_mem member
  have same : (entry :: (front ++ back)).Perm (front ++ entry :: back) := List.perm_middle.symm
  refine ⟨entry :: (front ++ back), same, ?_⟩
  rw [← leftOut_perm (same.filterMap _), List.filterMap_cons_some shown] at stays
  rw [summaries, List.filterMap_cons_some shown]
  exact mem_firstOfRuns_of_first stays

/-- Every order of a folder gives one listing exactly when what is found in it is settled. -/
theorem summaries_perm_iff :
    (∀ first second : Folder, first.Perm folder → second.Perm folder →
        summaries follow first = summaries follow second) ↔
      Settled (folder.filterMap (summaryOf? follow)) := by
  constructor
  · intro alike first inFirst second inSecond times names
    have same : first.sortKey = second.sortKey := Prod.ext times names
    refine or_iff_not_imp_right.mpr fun stays => ?_
    obtain ⟨order, perm, listed⟩ := exists_order_of_not_leftOut inFirst stays
    obtain ⟨orderToo, permToo, listedToo⟩ :=
      exists_order_of_not_leftOut inSecond (mt (leftOut_congr same).mpr stays)
    rw [alike orderToo order permToo perm] at listedToo
    have one := find?_of_mem_firstOfRuns (pairwise_listing _) listed
    have other := find?_of_mem_firstOfRuns (pairwise_listing _) listedToo
    rw [← same, one] at other
    exact Option.some.inj other
  · exact fun settled first second => summaries_eq_of_settled settled

/-! ## Listings of a store -/

/-- What is found of an entry depends on what links can be followed to. -/
theorem summaryOf?_congr {follow followToo : String → Except IoFailure (List UInt8)}
    (same : ∀ target, (follow target).toOption = (followToo target).toOption)
    (entry : String × Entry) : summaryOf? follow entry = summaryOf? followToo entry := by
  have content : contentOf? follow entry.2 = contentOf? followToo entry.2 := by
    cases entry.2 with
    | link target => exact same target
    | _ => rfl
  rw [summaryOf?, summaryOf?, content]

variable {store : SceneStore} {tree : FileTree} {place : List String}

/-- What a store lists of a folder whose entries come in a given order. -/
theorem list_withFolderAt (leads : tree.folderPlace store.root = .ok place)
    (there : tree.root.at? place = some folder) (distinct : (folder.map Prod.fst).Nodup)
    (same : order.Perm folder) :
    store.list (tree.withFolderAt place order) =
      .ok (summaries (tree.readFrom place) order) := by
  have reads := FileTree.readsAs_withFolderAt there distinct same
  have held : (tree.withFolderAt place order).root.at? place = some order :=
    Folder.at?_replaceAt there order
  have found : order.filterMap (summaryOf? ((tree.withFolderAt place order).readFrom place)) =
      order.filterMap (summaryOf? (tree.readFrom place)) :=
    List.filterMap_congr fun entry _ => summaryOf?_congr (reads.toOption_readFrom place) entry
  rw [list, reads.symm.leads.folderPlace leads]
  simp only [folderAt_of_at? held, summaries, found]

/-- A store lists the same, in whatever order the entries of its folder come, exactly when among
different summaries with the same time and the same name none is listed. -/
theorem list_any_order_iff (leads : tree.folderPlace store.root = .ok place)
    (there : tree.root.at? place = some folder) (distinct : (folder.map Prod.fst).Nodup) :
    (∀ first second : Folder, first.Perm folder → second.Perm folder →
        store.list (tree.withFolderAt place first) =
          store.list (tree.withFolderAt place second)) ↔
      Settled (folder.filterMap (summaryOf? (tree.readFrom place))) := by
  rw [← summaries_perm_iff]
  refine forall₄_congr fun first second firstSame secondSame => ?_
  rw [list_withFolderAt leads there distinct firstSame,
    list_withFolderAt leads there distinct secondSame, Except.ok.injEq]

end SceneStore

/-- A scene with nothing in it under a title. -/
def SceneRecord.titled (id name : String) : SceneRecord := { bare id 75 with name := name }

/-- A scene with nothing in it is read back under its title. -/
theorem SceneRecord.ofBytes_titled {id name : String}
    (short : (titled id name).Fits MessagePack.Counts) (format : StoreFormat) :
    ofBytes format ((titled id name).toBytes format) = .ok (titled id name) := by
  have nothing : (titled id name).scene = (bare "" 75).scene := rfl
  exact ofBytes_of_bare nothing short format

/-- A scene is saved as JSON, and under another title as MessagePack. -/
def Visit.retitling : List Visit :=
  [⟨⟨"scenes", .json⟩, .save (.titled "a" "first")⟩,
    ⟨⟨"scenes", .messagePack⟩, .save (.titled "a" "second")⟩]

/-- Which of the two titles is listed depends on the order of the folder. -/
theorem SceneStore.retitled_listed_by_order :
    ∃ folder first second : Folder,
      (serveAll Visit.retitling .withNewFolder).2.root.at? ["scenes"] = some folder ∧
      first.Perm folder ∧ second.Perm folder ∧
      list ⟨"scenes", .json⟩
          ((serveAll Visit.retitling .withNewFolder).2.withFolderAt ["scenes"] first) ≠
        list ⟨"scenes", .json⟩
          ((serveAll Visit.retitling .withNewFolder).2.withFolderAt ["scenes"] second) := by
  have there : ∀ visit ∈ Visit.retitling, visit.store.IsAt .withNewFolder ["scenes"] := by
    intro visit member
    simp only [Visit.retitling, List.mem_cons, List.not_mem_nil, or_false] at member
    rcases member with rfl | rfl
    · exact isAt_new .json
    · exact isAt_new .messagePack
  obtain ⟨leads, folder, found, keeps⟩ := keeps_serveAll there (FileTree.keeps_empty rfl)
  have here := ((isAt_new .json).of_leadsAs leads).root
  have shows : ∀ format title,
      Stock.empty.afterAll Visit.retitling format "a" = some (.titled "a" title) →
      SceneRecord.Fits (.titled "a" title) MessagePack.Counts →
      (Stock.empty.afterAll Visit.retitling).Shows (SceneRecord.titled "a" title).summary :=
    fun format title kept fit =>
      ⟨format, "a", _, _, kept, SceneRecord.ofBytes_titled fit format, rfl⟩
  have first := shows .json "first" rfl ⟨by decide, by decide, by decide⟩
  have second := shows .messagePack "second" rfl ⟨by decide, by decide, by decide⟩
  rw [← keeps.mem_found] at first second
  have unsettled := mt (list_any_order_iff here found keeps.distinct).mp fun settled => by
    rcases settled _ first _ second rfl rfl with same | ⟨earlier, -, -, before, -⟩
    · exact absurd (congrArg SceneSummary.name same) (by decide)
    · exact List.not_lt_nil _ (String.lt_iff.mp before)
  simp only [not_forall] at unsettled
  obtain ⟨order, other, same, sameToo, different⟩ := unsettled
  exact ⟨folder, order, other, found, same, sameToo, different⟩

end ShapeScene
