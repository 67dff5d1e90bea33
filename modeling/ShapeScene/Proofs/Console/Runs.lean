import ShapeScene.Text.Character

/-!
# Runs of letters

Every line has one cut into its longest runs of letters and the single characters between them.
Where a line begins with a run, the run is as long as its letters go, so a cut is found and told
apart from any other by what the line begins with. Next to a run there is no letter.
-/

namespace ShapeScene.Highlight

open Text

/-- A piece of a line. -/
inductive Piece where
  /-- Letters in a row. -/
  | run (letters : List Char)
  /-- A character that is no letter. -/
  | other (char : Char)
deriving DecidableEq, Repr

/-- The characters of a piece. -/
def Piece.chars : Piece → List Char
  | .run letters => letters
  | .other char => [char]

/-- A line consists of pieces, no run of which could be longer. -/
inductive CutInto : List Char → List Piece → Prop
  /-- No line has no pieces. -/
  | nil : CutInto [] []
  /-- A character that is no letter stands alone. -/
  | other {char : Char} {rest : List Char} {pieces : List Piece}
      (between : isAlphabetic char = false) (behind : CutInto rest pieces) :
      CutInto (char :: rest) (.other char :: pieces)
  /-- A run ends only where the letters end. -/
  | run {letters rest : List Char} {pieces : List Piece} (filled : letters ≠ [])
      (alphabetic : ∀ char ∈ letters, isAlphabetic char = true)
      (ends : ∀ char, rest.head? = some char → isAlphabetic char = false)
      (behind : CutInto rest pieces) : CutInto (letters ++ rest) (.run letters :: pieces)

/-- Letters in front of none are the run that a line begins with. -/
theorem takeWhile_run {letters rest : List Char}
    (alphabetic : ∀ char ∈ letters, isAlphabetic char = true)
    (ends : ∀ char, rest.head? = some char → isAlphabetic char = false) :
    (letters ++ rest).takeWhile isAlphabetic = letters := by
  rw [List.takeWhile_append_of_pos alphabetic]
  cases rest with
  | nil => exact List.append_nil _
  | cons char rest => rw [List.takeWhile_cons, ends char rfl]; exact List.append_nil _

/-- Behind the run that a line begins with is the rest. -/
theorem dropWhile_run {letters rest : List Char}
    (alphabetic : ∀ char ∈ letters, isAlphabetic char = true)
    (ends : ∀ char, rest.head? = some char → isAlphabetic char = false) :
    (letters ++ rest).dropWhile isAlphabetic = rest := by
  rw [List.dropWhile_append_of_pos alphabetic]
  cases rest with
  | nil => rfl
  | cons char rest => exact List.dropWhile_cons_of_neg (by rw [ends char rfl]; decide)

/-- Behind a run less is left. -/
theorem length_rest_lt {letters : List Char} (filled : letters ≠ []) (rest : List Char) :
    rest.length < (letters ++ rest).length := by
  have some := List.length_pos_iff.mpr filled
  rw [List.length_append]
  omega

/-- How a line can begin. -/
inductive Beginning : List Char → Prop
  /-- It has no character. -/
  | nil : Beginning []
  /-- It begins with a character that is no letter. -/
  | other {char : Char} (rest : List Char) (between : isAlphabetic char = false) :
      Beginning (char :: rest)
  /-- It begins with a run of letters. -/
  | run {letters rest : List Char} (filled : letters ≠ [])
      (alphabetic : ∀ char ∈ letters, isAlphabetic char = true)
      (ends : ∀ char, rest.head? = some char → isAlphabetic char = false) :
      Beginning (letters ++ rest)

/-- Every line begins in one of these ways. -/
theorem beginning (line : List Char) : Beginning line := by
  cases line with
  | nil => exact .nil
  | cons char rest =>
    cases alphabetic : isAlphabetic char with
    | false => exact .other rest alphabetic
    | true =>
      have letters : ∀ letter ∈ char :: rest.takeWhile isAlphabetic,
          isAlphabetic letter = true :=
        List.forall_mem_cons.mpr ⟨alphabetic, List.all_eq_true.mp List.all_takeWhile⟩
      have ends (letter : Char) (first : (rest.dropWhile isAlphabetic).head? = some letter) :
          isAlphabetic letter = false := by
        have stopped := List.head?_dropWhile_not isAlphabetic rest
        rw [first] at stopped
        simpa using stopped
      have begun := Beginning.run (List.cons_ne_nil _ _) letters ends
      rwa [List.cons_append, List.takeWhile_append_dropWhile] at begun
namespace CutInto

/-- The pieces of a line put together are the line. -/
theorem flatMap_chars {line : List Char} {pieces : List Piece} (cut : CutInto line pieces) :
    pieces.flatMap Piece.chars = line := by
  induction cut with
  | nil => rfl
  | other _ _ ih => rw [List.flatMap_cons, ih]; rfl
  | run _ _ _ _ ih => rw [List.flatMap_cons, ih]; rfl

/-- Every line can be cut. -/
theorem exists_cut (line : List Char) : ∃ pieces, CutInto line pieces := by
  induction size : line.length using Nat.strongRecOn generalizing line with
  | ind length ih =>
    subst size
    cases beginning line with
    | nil => exact ⟨[], .nil⟩
    | other rest between =>
      obtain ⟨pieces, behind⟩ := ih rest.length (Nat.lt_succ_self _) rest rfl
      exact ⟨_, .other between behind⟩
    | @run letters rest filled alphabetic ends =>
      obtain ⟨pieces, behind⟩ := ih rest.length (length_rest_lt filled rest) rest rfl
      exact ⟨_, .run filled alphabetic ends behind⟩

/-- A line has one cut. -/
theorem unique {line : List Char} {pieces others : List Piece} (cut : CutInto line pieces)
    (same : CutInto line others) : pieces = others := by
  induction cut generalizing others with
  | nil =>
    generalize empty : [] = line at same
    cases same with
    | nil => rfl
    | other => cases empty
    | run filled => exact absurd (List.append_eq_nil_iff.mp empty.symm).1 filled
  | @other char rest pieces between _ ih =>
    generalize begun : char :: rest = line at same
    cases same with
    | nil => cases begun
    | other _ behind =>
      obtain ⟨rfl, rfl⟩ := List.cons.inj begun
      rw [ih behind]
    | @run letters _ _ filled alphabetic _ _ =>
      cases letters with
      | nil => exact absurd rfl filled
      | cons first letters =>
        obtain ⟨rfl, -⟩ := List.cons.inj begun
        rw [alphabetic char List.mem_cons_self] at between
        cases between
  | @run letters rest pieces filled alphabetic ends _ ih =>
    generalize begun : letters ++ rest = line at same
    cases same with
    | nil => exact absurd (List.append_eq_nil_iff.mp begun).1 filled
    | other between =>
      cases letters with
      | nil => exact absurd rfl filled
      | cons first letters =>
        obtain ⟨rfl, -⟩ := List.cons.inj begun
        rw [alphabetic first List.mem_cons_self] at between
        cases between
    | run _ alphabeticToo endsToo behind =>
      -- both runs are the letters that the line begins with
      have first := takeWhile_run alphabetic ends
      rw [begun, takeWhile_run alphabeticToo endsToo] at first
      subst first
      rw [List.append_cancel_left begun] at ih
      rw [ih behind]

/-- Characters that are no letters, around a line, are pieces of their own. -/
theorem around {line front back : List Char} {pieces : List Piece} (cut : CutInto line pieces)
    (before : ∀ char ∈ front, isAlphabetic char = false)
    (behind : ∀ char ∈ back, isAlphabetic char = false) :
    CutInto (front ++ (line ++ back)) (front.map .other ++ (pieces ++ back.map .other)) := by
  induction front with
  | cons char front ih =>
    obtain ⟨first, others⟩ := List.forall_mem_cons.mp before
    exact .other first (ih others)
  | nil =>
    induction cut with
    | nil =>
      induction back with
      | nil => exact .nil
      | cons char back ih =>
        obtain ⟨first, others⟩ := List.forall_mem_cons.mp behind
        exact .other first (ih others)
    | other between _ ih => exact .other between ih
    | @run letters rest pieces filled alphabetic ends _ ih =>
      rw [List.nil_append, List.append_assoc]
      refine .run filled alphabetic ?_ ih
      intro char first
      cases rest with
      | nil => exact behind char (List.mem_of_head? first)
      | cons other rest => exact ends char first

/-- A run has letters only, and what is behind it begins with none. -/
theorem run_of_mem {line run : List Char} {earlier later : List Piece}
    (cut : CutInto line (earlier ++ .run run :: later)) :
    run ≠ [] ∧ (∀ char ∈ run, isAlphabetic char = true) ∧
      ∀ char, (later.flatMap Piece.chars).head? = some char → isAlphabetic char = false := by
  induction earlier generalizing line with
  | nil =>
    cases cut with
    | run filled alphabetic ends behind =>
      rw [behind.flatMap_chars]
      exact ⟨filled, alphabetic, ends⟩
  | cons piece earlier ih =>
    cases cut with
    | other _ behind => exact ih behind
    | run _ _ _ behind => exact ih behind

/-- What is before a run does not end with a letter. -/
theorem getLast?_before {line run : List Char} {earlier later : List Piece}
    (cut : CutInto line (earlier ++ .run run :: later)) (char : Char)
    (last : (earlier.flatMap Piece.chars).getLast? = some char) : isAlphabetic char = false := by
  induction earlier generalizing line with
  | nil => cases last
  | cons piece earlier ih =>
    cases before : (earlier.flatMap Piece.chars).getLast? with
    | some letter =>
      rw [List.flatMap_cons, List.getLast?_append, before, Option.some_or] at last
      cases last
      cases cut with
      | other _ behind => exact ih behind before
      | run _ _ _ behind => exact ih behind before
    | none =>
      -- The piece is directly before the run, so it is none itself.
      rw [List.flatMap_cons, List.getLast?_append, before, Option.none_or] at last
      cases cut with
      | other between =>
        cases last
        exact between
      | run _ _ ends behind =>
        obtain ⟨filled, alphabetic, -⟩ := behind.run_of_mem
        obtain ⟨first, letters, rfl⟩ := List.exists_cons_of_ne_nil filled
        have whole := behind.flatMap_chars
        rw [List.append_eq, List.flatMap_append, List.getLast?_eq_none_iff.mp before] at whole
        have letter := alphabetic first List.mem_cons_self
        rw [ends first (by rw [← whole]; rfl)] at letter
        cases letter

end CutInto

end ShapeScene.Highlight
