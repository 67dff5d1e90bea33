import ShapeScene.Proofs.Scene.RoundTrip
import ShapeScene.Proofs.Storage.Listing
import ShapeScene.Proofs.Storage.Visits
import ShapeScene.Proofs.Text.Padding
import ShapeScene.Proofs.Text.Utf8
import ShapeScene.Scene.Assembly

/-!
# Timestamps in the order of time

A timestamp writes the parts of a moment from the largest to the smallest, each in as many digits as
it can need, so texts are in the order of the moments. A leap second is written as second sixty, and
what is left out of a text, the fraction of a whole second, is what a text with a fraction goes on
with.
-/

namespace ShapeScene

namespace Moment

/-! ## The order of moments -/

/-- The parts of a moment, the largest one first. -/
def parts (moment : Moment) : List Int :=
  [moment.year, moment.month, moment.day, moment.hour, moment.minute, moment.second,
    moment.nanosecond]

/-- Of two moments the one is earlier whose part is lower where their parts first differ. -/
instance : LT Moment := ⟨fun first second => first.parts < second.parts⟩

/-- A moment is not later than another when the other is not earlier. -/
instance : LE Moment := ⟨fun first second => ¬second < first⟩

/-- Which of two moments is earlier can be decided by their parts. -/
instance (first second : Moment) : Decidable (first < second) :=
  inferInstanceAs (Decidable (first.parts < second.parts))

/-- Whether a moment is not later than another can be decided. -/
instance (first second : Moment) : Decidable (first ≤ second) :=
  inferInstanceAs (Decidable ¬second < first)

/-- A moment without the time that has passed since its last whole microsecond. -/
def truncated (moment : Moment) : Moment :=
  { moment with nanosecond := moment.nanosecond / 1000 * 1000 }

/-- Whether the year has four digits and all other parts are within their bounds; only the last
second of a minute can be counted on through a leap second. -/
structure InRange (moment : Moment) : Prop where
  /-- The year is not before the first one of four digits. -/
  year_nonneg : 0 ≤ moment.year
  /-- The year is not after the last one of four digits. -/
  year : moment.year ≤ 9999
  /-- There are twelve months. -/
  month : moment.month ≤ 12
  /-- No month has more than 31 days. -/
  day : moment.day ≤ 31
  /-- Hours are counted up to 23. -/
  hour : moment.hour ≤ 23
  /-- Minutes are counted up to 59. -/
  minute : moment.minute ≤ 59
  /-- Seconds are counted up to 59. -/
  second : moment.second ≤ 59
  /-- A second has less than two thousand million nanoseconds, most of them half of that. -/
  nanosecond : moment.nanosecond < 1000000000 ∨
    moment.second = 59 ∧ moment.nanosecond < 2000000000

variable {first second : Moment}

/-- Moments with the same parts are the same. -/
theorem eq_of_parts_eq (same : first.parts = second.parts) : first = second := by
  obtain ⟨_, _, _, _, _, _, _⟩ := first
  obtain ⟨_, _, _, _, _, _, _⟩ := second
  simpa only [parts, List.cons.injEq, Int.natCast_inj, and_true, mk.injEq] using same

/-- One of two moments is earlier, or they are the same. -/
theorem lt_or_eq_or_gt (first second : Moment) :
    first < second ∨ first = second ∨ second < first := by
  by_cases earlier : first.parts < second.parts
  · exact .inl earlier
  by_cases later : second.parts < first.parts
  · exact .inr (.inr later)
  · exact .inr (.inl (eq_of_parts_eq (List.le_antisymm later earlier)))

/-- What is earlier without what has passed since the last whole microsecond is earlier. -/
theorem lt_of_truncated_lt (earlier : first.truncated < second.truncated) : first < second := by
  change first.truncated.parts < second.truncated.parts at earlier
  change first.parts < second.parts
  simp only [parts, truncated, List.cons_lt_cons_iff, List.not_lt_nil, and_false, or_false]
    at earlier ⊢
  omega

/-! ## Texts of moments -/

/-- The fraction of a second in a timestamp. -/
def fractionText (moment : Moment) : List Char :=
  if moment.nanosecond / 1000 = 0 then []
  else '.' :: Text.paddedDigits 6 (moment.nanosecond % Nat.pow 10 9 / 1000)

/-- A timestamp is made of its parts in digits, with a mark behind each part before the second. -/
theorem toList_isoText (inRange : first.InRange) : first.isoText.toList =
    Text.paddedDigits 4 first.year.toNat ++ '-' :: (Text.paddedDigits 2 first.month ++ '-' ::
      (Text.paddedDigits 2 first.day ++ 'T' :: (Text.paddedDigits 2 first.hour ++ ':' ::
        (Text.paddedDigits 2 first.minute ++ ':' ::
          (first.secondText ++ first.fractionText))))) := by
  have year : yearText first.year = Text.paddedDigits 4 first.year.toNat :=
    if_pos ⟨inRange.year_nonneg, inRange.year⟩
  simp only [isoText, String.toList_ofList, fractionText, dateText, clockText, year]
  split <;> simp only [List.append_assoc, List.cons_append, List.append_nil]

/-- What has passed since the last whole microsecond is not in a timestamp. -/
theorem isoText_truncated (moment : Moment) : moment.truncated.isoText = moment.isoText := by
  have second : Nat.pow 10 9 = 1000000000 := rfl
  have whole : moment.nanosecond / 1000 * 1000 / 1000 = moment.nanosecond / 1000 := by omega
  have leap : moment.nanosecond / 1000 * 1000 / 1000000000 = moment.nanosecond / 1000000000 := by
    omega
  have fraction : moment.nanosecond / 1000 * 1000 % 1000000000 / 1000 =
      moment.nanosecond % 1000000000 / 1000 := by
    omega
  simp only [isoText, truncated, dateText, clockText, secondText, second, whole, leap, fraction]

/-- Texts of a part and of what comes behind it are in the order of the parts. -/
theorem part_lt {width low high : Nat} {lower higher : List Int} {front back : List Char}
    (mark : Char) (below : (low : Int) :: lower < (high : Int) :: higher)
    (fits : high < 10 ^ width) (behind : lower < higher → front < back) :
    Text.paddedDigits width low ++ mark :: front <
      Text.paddedDigits width high ++ mark :: back := by
  rcases List.cons_lt_cons_iff.mp below with less | ⟨same, less⟩
  · exact Text.paddedDigits_append_lt (Int.ofNat_lt.mp less) fits _ _
  · rw [Int.natCast_inj.mp same]
    exact List.append_left_lt (List.cons_lt_cons_iff.mpr (.inr ⟨rfl, behind less⟩))

/-- Within a second, fractions are in the order of the microseconds that have passed. -/
theorem fractionText_lt
    (same : first.nanosecond / 1000000000 = second.nanosecond / 1000000000)
    (below : first.nanosecond / 1000 < second.nanosecond / 1000) :
    first.fractionText < second.fractionText := by
  have whole : Nat.pow 10 9 = 1000000000 := rfl
  rw [fractionText, fractionText, whole, if_neg (show ¬second.nanosecond / 1000 = 0 by omega)]
  split
  · exact List.nil_lt_cons _ _
  · have micros : first.nanosecond % 1000000000 / 1000 <
        second.nanosecond % 1000000000 / 1000 := by
      omega
    have fits : second.nanosecond % 1000000000 / 1000 < 10 ^ 6 := by omega
    refine List.cons_lt_cons_iff.mpr (.inr ⟨rfl, ?_⟩)
    simpa only [List.append_nil] using Text.paddedDigits_append_lt micros fits [] []

/-- Within a minute, texts are in the order of the seconds and microseconds that have passed. -/
theorem secondText_append_lt (firstRange : first.InRange) (secondRange : second.InRange)
    (below : [(first.second : Int), (first.truncated.nanosecond : Int)] <
      [(second.second : Int), (second.truncated.nanosecond : Int)]) :
    first.secondText ++ first.fractionText < second.secondText ++ second.fractionText := by
  have whole : Nat.pow 10 9 = 1000000000 := rfl
  have firstNanos := firstRange.nanosecond
  have secondNanos := secondRange.nanosecond
  have last := secondRange.second
  have fits : second.second + second.nanosecond / 1000000000 < 10 ^ 2 := by omega
  simp only [truncated, List.cons_lt_cons_iff, List.not_lt_nil, and_false, or_false] at below
  rw [secondText, secondText, whole]
  by_cases earlier : first.second + first.nanosecond / 1000000000 <
      second.second + second.nanosecond / 1000000000
  · exact Text.paddedDigits_append_lt earlier fits _ _
  · -- Both are in the leap second, or neither is.
    have same : first.second = second.second ∧
        first.nanosecond / 1000000000 = second.nanosecond / 1000000000 := by
      omega
    rw [same.1, same.2]
    exact List.append_left_lt (fractionText_lt same.2 (by omega))

/-- The parts of a moment in range are natural numbers. -/
theorem parts_truncated (inRange : first.InRange) : first.truncated.parts =
    [(first.year.toNat : Int), (first.month : Int), (first.day : Int), (first.hour : Int),
      (first.minute : Int), (first.second : Int), (first.truncated.nanosecond : Int)] := by
  rw [Int.toNat_of_nonneg inRange.year_nonneg]
  rfl

/-- Timestamps of moments that are microseconds apart are in the order of the moments. -/
theorem isoText_lt (firstRange : first.InRange) (secondRange : second.InRange)
    (earlier : first.truncated < second.truncated) : first.isoText < second.isoText := by
  have month := secondRange.month
  have day := secondRange.day
  have hour := secondRange.hour
  have minute := secondRange.minute
  have year : second.year.toNat < 10 ^ 4 := by
    have last := secondRange.year
    omega
  replace earlier : first.truncated.parts < second.truncated.parts := earlier
  rw [parts_truncated firstRange, parts_truncated secondRange] at earlier
  rw [String.lt_iff, toList_isoText firstRange, toList_isoText secondRange]
  refine part_lt '-' earlier year fun earlier => ?_
  refine part_lt '-' earlier (by omega) fun earlier => ?_
  refine part_lt 'T' earlier (by omega) fun earlier => ?_
  refine part_lt ':' earlier (by omega) fun earlier => ?_
  refine part_lt ':' earlier (by omega) fun earlier => ?_
  exact secondText_append_lt firstRange secondRange earlier

/-- Timestamps are in the order of the microseconds in which the moments are. -/
theorem isoText_lt_iff (firstRange : first.InRange) (secondRange : second.InRange) :
    first.isoText < second.isoText ↔ first.truncated < second.truncated := by
  refine ⟨fun below => ?_, isoText_lt firstRange secondRange⟩
  rcases lt_or_eq_or_gt first.truncated second.truncated with earlier | same | later
  · exact earlier
  · rw [← isoText_truncated first, same, isoText_truncated] at below
    exact absurd below (String.lt_irrefl _)
  · have above := isoText_lt secondRange firstRange later
    exact absurd (String.lt_trans below above) (String.lt_irrefl _)

/-- Timestamps are the same exactly when the moments are in the same microsecond. -/
theorem isoText_eq_iff (firstRange : first.InRange) (secondRange : second.InRange) :
    first.isoText = second.isoText ↔ first.truncated = second.truncated := by
  constructor
  · intro same
    rcases lt_or_eq_or_gt first.truncated second.truncated with earlier | equal | later
    · exact absurd (same ▸ isoText_lt firstRange secondRange earlier) (String.lt_irrefl _)
    · exact equal
    · exact absurd (same ▸ isoText_lt secondRange firstRange later) (String.lt_irrefl _)
  · intro same
    rw [← isoText_truncated first, same, isoText_truncated]

/-- The bytes of timestamps are in the order of the moments. -/
theorem utf8_isoText_le (firstRange : first.InRange) (secondRange : second.InRange)
    (ordered : first ≤ second) : Text.utf8 first.isoText ≤ Text.utf8 second.isoText := by
  rcases lt_or_eq_or_gt first.truncated second.truncated with earlier | same | later
  · exact List.le_of_lt (Text.utf8_lt (isoText_lt firstRange secondRange earlier))
  · rw [(isoText_eq_iff firstRange secondRange).mpr same]
    exact List.le_refl _
  · exact absurd (lt_of_truncated_lt later) ordered

end Moment

/-! ## Listings -/

/-- Whether a summary has the timestamp of a scene that is assembled at a moment. -/
def SceneSummary.StampedAt (summary : SceneSummary) (created : Moment) : Prop :=
  ∃ entities options source,
    summary.timestamp = (SceneRecord.assemble entities options source created).1.timestamp

/-- A summary of a scene assembled at a moment has the text of that moment. -/
theorem SceneSummary.StampedAt.timestamp {summary : SceneSummary} {created : Moment}
    (stamped : summary.StampedAt created) : summary.timestamp = created.isoText := by
  obtain ⟨_, _, _, same⟩ := stamped
  exact same

/-- The bytes of timestamps are in the order of time, and the same exactly when the microsecond is.
So every listing is in the order in which the scenes in it were assembled; those of one microsecond
are in the order of their names. -/
theorem Moment.isoText_chronological {first second : Moment} (firstRange : first.InRange)
    (secondRange : second.InRange) :
    (first ≤ second → Text.utf8 first.isoText ≤ Text.utf8 second.isoText) ∧
      (first.isoText = second.isoText ↔ first.truncated = second.truncated) ∧
      ∀ (store : SceneStore) (tree : FileTree) (listed : List SceneSummary),
        store.list tree = .ok listed →
        listed.Pairwise fun before behind =>
          before.StampedAt first → behind.StampedAt second →
            first < second ∧ first.truncated < second.truncated ∨
              first.truncated = second.truncated ∧ before.id ≤ behind.id := by
  refine ⟨utf8_isoText_le firstRange secondRange, isoText_eq_iff firstRange secondRange, ?_⟩
  intro store tree listed answered
  refine (SceneStore.pairwise_list answered).imp fun ordered atFirst atSecond => ?_
  rw [SceneStore.listedBefore_iff, atFirst.timestamp, atSecond.timestamp,
    isoText_lt_iff firstRange secondRange, isoText_eq_iff firstRange secondRange] at ordered
  exact ordered.imp_left fun earlier => ⟨lt_of_truncated_lt earlier, earlier⟩

namespace Moment

/-- Half of the leap second at the end of 2016. -/
def leapSecond : Moment := ⟨2016, 12, 31, 23, 59, 59, 1500000000⟩

/-- It is written as the second behind the last one. -/
example : leapSecond.isoText = "2016-12-31T23:59:60.500000" := by rfl

/-- The second after that. -/
def newYear : Moment := ⟨2017, 1, 1, 0, 0, 0, 0⟩

/-- A scene is made in the leap second, and behind it one whose name comes first. -/
def aroundNewYear : List Visit :=
  [⟨⟨"scenes", .messagePack⟩, .save (.bareAt "b" leapSecond.isoText)⟩,
    ⟨⟨"scenes", .messagePack⟩, .save (.bareAt "a" newYear.isoText)⟩]

/-- The leap second is before the new year in time, in text and in a listing. -/
theorem leapSecond_before_newYear :
    leapSecond ≤ newYear ∧ Text.utf8 leapSecond.isoText ≤ Text.utf8 newYear.isoText ∧
      leapSecond.isoText ≠ newYear.isoText ∧
      ∃ listed, SceneStore.list ⟨"scenes", .messagePack⟩
          (serveAll aroundNewYear .withNewFolder).2 = .ok listed ∧
        listed.Pairwise fun before behind =>
          before.StampedAt newYear → ¬behind.StampedAt leapSecond := by
  have leapRange : leapSecond.InRange := by constructor <;> decide
  have newRange : newYear.InRange := by constructor <;> decide
  have ordered : leapSecond ≤ newYear := by decide
  have apart : leapSecond.truncated ≠ newYear.truncated := by decide
  obtain ⟨bytes, texts, -⟩ := isoText_chronological leapRange newRange
  obtain ⟨-, -, sorted⟩ := isoText_chronological newRange leapRange
  have there : ∀ visit ∈ aroundNewYear, visit.store.IsAt .withNewFolder ["scenes"] := by
    intro visit member
    simp only [aroundNewYear, List.mem_cons, List.not_mem_nil, or_false] at member
    rcases member with rfl | rfl <;> exact SceneStore.isAt_new .messagePack
  obtain ⟨leads, folder, found, -⟩ := keeps_serveAll there (FileTree.keeps_empty rfl)
  have answered := ((SceneStore.isAt_new .messagePack).of_leadsAs leads).list found
  refine ⟨ordered, bytes ordered, fun same => apart (texts.mp same), _, answered, ?_⟩
  refine (sorted _ _ _ answered).imp fun placed atNew atLeap => ?_
  rcases placed atNew atLeap with ⟨earlier, -⟩ | ⟨same, -⟩
  · exact ordered earlier
  · exact apart same.symm

end Moment

end ShapeScene
