import Mathlib.Data.List.Chain
import ShapeScene.Page.Html
import ShapeScene.Proofs.Text.Replacement

/-!
# Templates as pieces

A template is a list of pieces: characters that stay and places that are to be filled. Where places
are set apart from one another, replacing a place in a filled template is replacing it in the texts
that were filled in, since no place begins in one of them and ends in the next.
-/

namespace ShapeScene.Page

/-- The places of the template, in the order in which they are filled. -/
inductive Place where
  /-- Where the title stands. -/
  | title
  /-- Where the address of the graphics library stands. -/
  | library
  /-- Where the scene stands. -/
  | scene
  /-- Where the options stand. -/
  | options
deriving DecidableEq, Repr

namespace Place

/-- Every place. -/
def all : List Place := [title, library, scene, options]

/-- The name between the braces. -/
def name : Place → List Char
  | title => ['t', 'i', 't', 'l', 'e']
  | library => ['t', 'h', 'r', 'e', 'e', '_', 'j', 's']
  | scene => ['s', 'c', 'e', 'n', 'e']
  | options => ['o', 'p', 't', 'i', 'o', 'n', 's']

/-- The characters of a place in a template. -/
def written (hole : Place) : List Char := '\x7b' :: '\x7b' :: (hole.name ++ ['\x7d', '\x7d'])

/-- A place as it is looked for when it is filled. -/
def text : Place → String
  | title => place "title"
  | library => place "three_js"
  | scene => place "scene"
  | options => place "options"

end Place

/-- A part of a template. -/
inductive Piece where
  /-- A character that stays. -/
  | letter (char : Char)
  /-- A place that is to be filled. -/
  | hole (place : Place)
deriving DecidableEq, Repr

/-- The pieces of a template behind `skip` characters of a place. -/
def piecesAfter : (skip : Nat) → List Char → List Piece
  | _, [] => []
  | skip + 1, _ :: rest => piecesAfter skip rest
  | 0, char :: rest =>
    match Place.all.find? fun place => place.written.isPrefixOf (char :: rest) with
    | some place => .hole place :: piecesAfter (place.written.length - 1) rest
    | none => .letter char :: piecesAfter 0 rest

/-- The pieces of a template. -/
def pieces (text : List Char) : List Piece := piecesAfter 0 text

/-- What stands in a page for a piece. -/
def Piece.filled (value : Place → List Char) : Piece → List Char
  | letter char => [char]
  | hole place => value place

/-- The template with all places filled at once. -/
def filledAtOnce (value : Place → String) : String :=
  String.ofList ((pieces template.toList).flatMap (Piece.filled fun place => (value place).toList))

/-! ## The pieces of a text -/

/-- A place is not empty. -/
theorem written_ne_nil (hole : Place) : hole.written ≠ [] := List.cons_ne_nil _ _

/-- A place has no end of line. -/
theorem newline_not_mem_written (hole : Place) : '\n' ∉ hole.written := by
  cases hole <;> decide

/-- A place at the front of a text is a piece of it. -/
theorem pieces_written (hole : Place) (rest : List Char) :
    pieces (hole.written ++ rest) = .hole hole :: pieces rest := by
  cases hole <;> rfl

/-- A character at which no place begins is a piece. -/
theorem pieces_cons {char : Char} {rest : List Char}
    (otherwise : ∀ hole : Place, hole.written.isPrefixOf (char :: rest) = false) :
    pieces (char :: rest) = .letter char :: pieces rest := by
  have none : (Place.all.find? fun hole => hole.written.isPrefixOf (char :: rest)) = none := by
    rw [List.find?_eq_none]
    intro hole _
    rw [otherwise hole]
    exact Bool.false_ne_true
  rw [pieces, piecesAfter, none, pieces]

/-- A text is passed from the left: a place at once, any other character by itself. -/
@[elab_as_elim]
theorem places_induction {motive : List Char → Prop} (nil : motive [])
    (found : ∀ (hole : Place) rest, motive rest → motive (hole.written ++ rest))
    (kept : ∀ char rest, (∀ hole : Place, hole.written.isPrefixOf (char :: rest) = false) →
      motive rest → motive (char :: rest)) (text : List Char) : motive text := by
  induction size : text.length using Nat.strongRecOn generalizing text with
  | ind count ih =>
    cases text with
    | nil => exact nil
    | cons char later =>
      by_cases begins : ∃ hole : Place, hole.written.isPrefixOf (char :: later) = true
      · obtain ⟨hole, begins⟩ := begins
        obtain ⟨rest, same⟩ := Text.exists_append_of_isPrefixOf begins
        have shorter : rest.length < count := by
          have total := congrArg List.length same
          have some := List.length_pos_iff.mpr (written_ne_nil hole)
          rw [List.length_append, size] at total
          omega
        rw [same]
        exact found hole rest (ih rest.length shorter rest rfl)
      · apply kept char later
        · intro hole
          rw [← Bool.not_eq_true]
          exact fun holds => begins ⟨hole, holds⟩
        · exact ih later.length (by simp [← size]) later rfl

/-- The pieces of a text, each as it is written, are the text. -/
theorem flatMap_written (text : List Char) :
    (pieces text).flatMap (Piece.filled Place.written) = text := by
  induction text using places_induction with
  | nil => rfl
  | found hole rest ih => rw [pieces_written, List.flatMap_cons, ih, Piece.filled]
  | kept char rest otherwise ih =>
    rw [pieces_cons otherwise, List.flatMap_cons, ih, Piece.filled, List.singleton_append]

/-- The pieces of a text with an end of line in it are those before and those behind it. -/
theorem pieces_append_newline (before after : List Char) :
    pieces (before ++ '\n' :: after) = pieces before ++ .letter '\n' :: pieces after := by
  induction before using places_induction with
  | nil =>
    apply pieces_cons
    intro hole
    cases hole <;> rfl
  | found hole rest ih =>
    rw [List.append_assoc, pieces_written, ih, pieces_written, List.cons_append]
  | kept char rest otherwise ih =>
    have still (hole : Place) :
        hole.written.isPrefixOf (char :: (rest ++ '\n' :: after)) = false := by
      rw [← List.cons_append, Text.isPrefixOf_append_mark (newline_not_mem_written hole),
        otherwise hole]
    rw [List.cons_append, pieces_cons still, ih, pieces_cons otherwise, List.cons_append]

/-! ## Places that are set apart -/

/-- Whether a piece may stand behind another so that no place begins in one and ends in the other:
behind a place a character that no place has, behind an opening brace neither a brace nor a
place. -/
def Piece.mayPrecede : Piece → Piece → Bool
  | hole _, letter char => Place.all.all fun place => !place.written.contains char
  | hole _, hole _ => false
  | letter first, letter second => first != '\x7b' || second != '\x7b'
  | letter first, hole _ => first != '\x7b'

/-- Whether the places among some pieces are set apart. -/
abbrev SetApart (pieces : List Piece) : Prop := pieces.IsChain (Piece.mayPrecede · ·)

/-- A literal is looked at as the list of its characters. -/
theorem setApart_literal {line : String} {chars : List Char} (same : line = String.ofList chars)
    (apart : SetApart (pieces chars)) : SetApart (pieces line.toList) := by
  rw [same, String.toList_ofList]
  exact apart

set_option maxRecDepth 4000 in
/-- In every line of the template the places are set apart. -/
theorem setApart_line : ∀ line ∈ templateLines, SetApart (pieces line.toList) := by
  unfold templateLines
  repeat refine List.forall_mem_cons.mpr ⟨setApart_literal rfl (by decide +kernel), ?_⟩
  exact List.forall_mem_nil _

/-- Lines in which the places are set apart make such a text. -/
theorem setApart_lines {lines : List String}
    (apart : ∀ line ∈ lines, SetApart (pieces line.toList)) :
    SetApart (pieces (lines.flatMap fun line => line.toList ++ ['\n'])) := by
  have newline (piece : Piece) : piece.mayPrecede (.letter '\n') = true := by
    cases piece with
    | letter char => simp [Piece.mayPrecede]
    | hole place => rfl
  induction lines with
  | nil => exact .nil
  | cons line later ih =>
    rw [List.flatMap_cons, List.append_assoc, List.singleton_append, pieces_append_newline,
      SetApart, List.isChain_append]
    refine ⟨apart line List.mem_cons_self, ?_, ?_⟩
    · rw [List.isChain_cons]
      refine ⟨?_, ih fun other member => apart other (List.mem_cons_of_mem _ member)⟩
      intro piece _
      cases piece <;> rfl
    · intro last _ next isNext
      cases isNext
      exact newline last

/-- In the template the places are set apart. -/
theorem setApart_template : SetApart (pieces template.toList) := by
  rw [template, String.toList_ofList]
  exact setApart_lines setApart_line

/-! ## One place after the other -/

/-- No place begins at a letter that is set apart from what comes behind it. -/
theorem isPrefixOf_letter (target : Place) (value : Place → List Char) {char : Char}
    {later : List Piece} (apart : SetApart (.letter char :: later)) :
    target.written.isPrefixOf (char :: later.flatMap (Piece.filled value)) = false := by
  cases later with
  | nil => simp [Place.written, List.isPrefixOf]
  | cons next others =>
    have neighbours := (List.isChain_cons_cons.mp apart).1
    cases next with
    | letter second =>
      simp only [Piece.mayPrecede, Bool.or_eq_true, bne_iff_ne] at neighbours
      simp only [Place.written, List.flatMap_cons, Piece.filled, List.singleton_append,
        List.isPrefixOf_cons_cons, Bool.and_eq_false_iff, beq_eq_false_iff_ne]
      rcases neighbours with first | second
      · exact .inl first.symm
      · exact .inr (.inl second.symm)
    | hole place =>
      simp only [Piece.mayPrecede, bne_iff_ne] at neighbours
      rw [Place.written, List.isPrefixOf_cons_cons, beq_eq_false_iff_ne.mpr neighbours.symm,
        Bool.false_and]

/-- Behind a place that is set apart comes a character that no place has, or nothing. -/
theorem exists_mark_of_hole (target : Place) {place : Place} {later : List Piece}
    (apart : SetApart (.hole place :: later)) :
    later = [] ∨ ∃ mark others, later = .letter mark :: others ∧ mark ∉ target.written := by
  cases later with
  | nil => exact .inl rfl
  | cons next others =>
    have neighbours := (List.isChain_cons_cons.mp apart).1
    cases next with
    | hole other => cases neighbours
    | letter mark =>
      simp only [Piece.mayPrecede, List.all_eq_true, Bool.not_eq_true', List.contains_eq_mem,
        decide_eq_false_iff_not] at neighbours
      exact .inr ⟨mark, others, rfl, neighbours target (by cases target <;> decide)⟩

/-- Where places are set apart, replacing a place in a filled template is replacing it in what was
filled in. -/
theorem replaceAfter_filled (target : Place) (replacement : List Char)
    (value : Place → List Char) {parts : List Piece} (apart : SetApart parts) :
    Text.replaceAfter target.written replacement 0 (parts.flatMap (Piece.filled value)) =
      parts.flatMap (Piece.filled fun hole =>
        Text.replaceAfter target.written replacement 0 (value hole)) := by
  induction parts with
  | nil => rfl
  | cons part later ih =>
    have rest := ih apart.of_cons
    rw [List.flatMap_cons, List.flatMap_cons]
    cases part with
    | letter char =>
      rw [Piece.filled, List.singleton_append,
        Text.replaceAfter_cons (isPrefixOf_letter target value apart), rest, Piece.filled,
        List.singleton_append]
    | hole place =>
      rcases exists_mark_of_hole target apart with rfl | ⟨mark, others, rfl, clear⟩
      · simp only [Piece.filled, List.flatMap_nil, List.append_nil]
      · -- The mark behind the place keeps what was filled in apart from what comes later.
        rw [← rest, List.flatMap_cons, Piece.filled, Piece.filled, List.singleton_append,
          Text.replaceAfter_append_mark (written_ne_nil target) clear, Piece.filled]

/-- A place is looked for as it is written. -/
theorem toList_text (hole : Place) : hole.text.toList = hole.written := by
  cases hole <;> rfl

/-- A place that is filled in a filled template is filled in what was filled in. -/
theorem replaceAll_filledAtOnce (target : Place) (text : String) (value : Place → String) :
    Text.replaceAll target.text text (filledAtOnce value) =
      filledAtOnce fun hole => Text.replaceAll target.text text (value hole) := by
  rw [Text.replaceAll, filledAtOnce, String.toList_ofList, toList_text,
    replaceAfter_filled target _ _ setApart_template, filledAtOnce]
  simp only [Text.replaceAll, String.toList_ofList, toList_text]

/-- A template is filled with its own places. -/
theorem filledAtOnce_text : filledAtOnce Place.text = template := by
  have same : (fun hole : Place => hole.text.toList) = Place.written := funext toList_text
  rw [filledAtOnce, same, flatMap_written, String.ofList_toList]

/-- A place is replaced by what fills it. -/
theorem replaceAll_text_self (hole : Place) (text : String) :
    Text.replaceAll hole.text text hole.text = text := by
  have filled : Text.replaceAfter hole.written text.toList 0 (hole.written ++ []) =
      text.toList ++ [] := Text.replaceAfter_append_pattern (written_ne_nil hole) []
  rw [List.append_nil, List.append_nil] at filled
  rw [Text.replaceAll, toList_text, filled, String.ofList_toList]

/-- A text without a place stays as it is when the place is filled. -/
theorem replaceAll_text_of_not_occursIn {hole : Place} {text : String}
    (absent : Text.occursIn hole.written text.toList = false) (filling : String) :
    Text.replaceAll hole.text filling text = text := by
  rw [Text.replaceAll, toList_text,
    Text.replaceAfter_of_not_occursIn (written_ne_nil hole) absent, String.ofList_toList]

/-- A place stays when another one is filled. -/
theorem replaceAll_text_of_ne {hole other : Place} (different : hole ≠ other) (filling : String) :
    Text.replaceAll hole.text filling other.text = other.text := by
  apply replaceAll_text_of_not_occursIn
  rw [toList_text]
  revert different
  cases hole <;> cases other <;> decide

/-! ## Templates of one length -/

/-- What stands for a piece is not longer than what a wider filling puts there. -/
theorem length_filled_le {value wider : Place → List Char}
    (wide : ∀ hole, (value hole).length ≤ (wider hole).length) (part : Piece) :
    (part.filled value).length ≤ (part.filled wider).length := by
  cases part with
  | letter char => exact Nat.le_refl _
  | hole place => exact wide place

/-- A wider filling makes no template shorter. -/
theorem length_flatMap_filled_le {value wider : Place → List Char}
    (wide : ∀ hole, (value hole).length ≤ (wider hole).length) (parts : List Piece) :
    (parts.flatMap (Piece.filled value)).length ≤ (parts.flatMap (Piece.filled wider)).length := by
  induction parts with
  | nil => exact Nat.le_refl _
  | cons part later ih =>
    have here := length_filled_le wide part
    rw [List.flatMap_cons, List.flatMap_cons, List.length_append, List.length_append]
    omega

/-- A wider filling that makes a template no longer is no wider in the places there are. -/
theorem length_le_of_flatMap_filled {value wider : Place → List Char}
    (wide : ∀ hole, (value hole).length ≤ (wider hole).length) {parts : List Piece}
    (same : parts.flatMap (Piece.filled wider) = parts.flatMap (Piece.filled value))
    {hole : Place} (member : .hole hole ∈ parts) :
    (wider hole).length ≤ (value hole).length := by
  have lengths := congrArg List.length same
  clear same
  induction parts with
  | nil => cases member
  | cons part later ih =>
    have here := length_filled_le wide part
    have behind := length_flatMap_filled_le wide later
    rw [List.flatMap_cons, List.flatMap_cons, List.length_append, List.length_append] at lengths
    rcases List.mem_cons.mp member with rfl | inside
    · simp only [Piece.filled] at here lengths
      omega
    · exact ih inside (by omega)

/-- A piece of a line is a piece of the text of all lines. -/
theorem mem_pieces_lines {lines : List String} {line : String} (member : line ∈ lines)
    {part : Piece} (inside : part ∈ pieces line.toList) :
    part ∈ pieces (lines.flatMap fun line => line.toList ++ ['\n']) := by
  induction lines with
  | nil => cases member
  | cons first later ih =>
    rw [List.flatMap_cons, List.append_assoc, List.singleton_append, pieces_append_newline,
      List.mem_append, List.mem_cons]
    rcases List.mem_cons.mp member with rfl | behind
    · exact .inl inside
    · exact .inr (.inr (ih behind))

/-- The template has a place for the title. -/
theorem title_mem_template : .hole .title ∈ pieces template.toList := by
  rw [template, String.toList_ofList]
  have line : "        <h2>\x7b\x7btitle\x7d\x7d</h2>" ∈ templateLines :=
    List.mem_of_getElem? (i := 16) rfl
  exact mem_pieces_lines line (by decide +kernel)

/-- The template has a place for the scene. -/
theorem scene_mem_template : .hole .scene ∈ pieces template.toList := by
  rw [template, String.toList_ofList]
  have line : "        const sceneData = \x7b\x7bscene\x7d\x7d;" ∈ templateLines :=
    List.mem_of_getElem? (i := 22) rfl
  exact mem_pieces_lines line (by decide +kernel)

end ShapeScene.Page
