import Mathlib.Data.List.Forall2
import ShapeScene.Console.Highlight
import ShapeScene.Proofs.Console.Runs

/-!
# What highlighting inserts

Highlighting shows a line by its one cut into runs of letters and single characters, piece by
piece. The scanner that does so takes one piece with every turn, so it is at the end after at most
as many turns as the line has characters. What it inserts are sequences that begin with an escape
character and end in a letter m, so a line that has no escape character comes back when they are
taken out.
-/

namespace ShapeScene.Highlight

open Text

/-! ## What is shown -/

/-- How a piece is shown. -/
inductive Shows (vocabulary : Vocabulary) : Piece → List Char → Prop
  /-- A word of the vocabulary is in the style of its class. -/
  | word {letters : List Char} {wordClass : WordClass}
      (classified : vocabulary.classOf? (String.ofList letters) = some wordClass) :
      Shows vocabulary (.run letters)
        ((classStyle wordClass).toList ++ letters ++ reset.toList)
  /-- A connector that is no such word is in the style of connectors. -/
  | connector {letters : List Char}
      (unclassified : vocabulary.classOf? (String.ofList letters) = none)
      (connects : Phrase.isConnector (String.ofList letters) = true) :
      Shows vocabulary (.run letters) (connectorStyle.toList ++ letters ++ reset.toList)
  /-- Any other run is as it is. -/
  | plain {letters : List Char}
      (unclassified : vocabulary.classOf? (String.ofList letters) = none)
      (unconnecting : Phrase.isConnector (String.ofList letters) = false) :
      Shows vocabulary (.run letters) letters
  /-- A single character is as it is. -/
  | other {char : Char} : Shows vocabulary (.other char) [char]

/-- A run with letters is in its style if it has one. -/
theorem shownRun_eq (vocabulary : Vocabulary) {letters : List Char} (filled : letters ≠ []) :
    shownRun vocabulary letters =
      match styleOf? vocabulary (String.ofList letters) with
      | some style => styled style letters
      | none => letters := by
  cases letters with
  | nil => exact absurd rfl filled
  | cons char letters => rfl

/-- A run with letters is shown as a run. -/
theorem shows_shownRun (vocabulary : Vocabulary) {letters : List Char} (filled : letters ≠ []) :
    Shows vocabulary (.run letters) (shownRun vocabulary letters) := by
  rw [shownRun_eq vocabulary filled, styleOf?]
  cases classified : vocabulary.classOf? (String.ofList letters) with
  | some wordClass => exact .word classified
  | none =>
    cases connects : Phrase.isConnector (String.ofList letters) with
    | true => exact .connector classified connects
    | false => exact .plain classified connects

/-- Letters are gathered up to the end of their run. -/
theorem shownAfter_run (vocabulary : Vocabulary) (passed : List Char) {letters rest : List Char}
    (alphabetic : ∀ char ∈ letters, isAlphabetic char = true)
    (ends : ∀ char, rest.head? = some char → isAlphabetic char = false) :
    shownAfter vocabulary passed (letters ++ rest) =
      shownRun vocabulary (passed.reverse ++ letters) ++ shownAfter vocabulary [] rest := by
  induction letters generalizing passed with
  | nil =>
    rw [List.nil_append, List.append_nil]
    cases rest with
    | nil => simp [shownAfter, shownRun]
    | cons char rest => simp [shownAfter, shownRun, ends char rfl]
  | cons char letters ih =>
    obtain ⟨first, others⟩ := List.forall_mem_cons.mp alphabetic
    rw [List.cons_append, shownAfter, if_pos first, ih _ others, List.reverse_cons,
      List.append_assoc, List.singleton_append]

/-- A character that is no letter is shown by itself. -/
theorem shownAfter_other (vocabulary : Vocabulary) {char : Char}
    (between : isAlphabetic char = false) (rest : List Char) :
    shownAfter vocabulary [] (char :: rest) = char :: shownAfter vocabulary [] rest := by
  simp [shownAfter, shownRun, between]

/-- The pieces of a line are shown one after the other. -/
theorem CutInto.exists_shown {line : List Char} {pieces : List Piece} (cut : CutInto line pieces)
    (vocabulary : Vocabulary) :
    ∃ shown, List.Forall₂ (Shows vocabulary) pieces shown ∧
      shownAfter vocabulary [] line = shown.flatten := by
  induction cut with
  | nil => exact ⟨[], .nil, rfl⟩
  | @other char rest pieces between _ ih =>
    obtain ⟨shown, each, all⟩ := ih
    refine ⟨[char] :: shown, .cons .other each, ?_⟩
    rw [shownAfter_other vocabulary between, all]
    rfl
  | @run letters rest pieces filled alphabetic ends _ ih =>
    obtain ⟨shown, each, all⟩ := ih
    refine ⟨_ :: shown, .cons (shows_shownRun vocabulary filled) each, ?_⟩
    rw [shownAfter_run vocabulary [] alphabetic ends, all]
    rfl

/-! ## The scanner -/

/-- What the scanner knows between two turns. -/
structure Scan where
  /-- What is shown so far. -/
  shown : List Char
  /-- Whether a style is in it. -/
  changed : Bool
  /-- What is left of the line. -/
  rest : List Char
deriving DecidableEq, Repr

/-- A turn of the scanner takes the letters that the rest begins with, or if there are none the
first character. -/
def turn (vocabulary : Vocabulary) (scan : Scan) : Scan :=
  match scan.rest.takeWhile isAlphabetic with
  | [] => { scan with shown := scan.shown ++ scan.rest.take 1, rest := scan.rest.drop 1 }
  | char :: letters =>
    let behind := scan.rest.dropWhile isAlphabetic
    match styleOf? vocabulary (String.ofList (char :: letters)) with
    | some style => ⟨scan.shown ++ styled style (char :: letters), true, behind⟩
    | none => { scan with shown := scan.shown ++ char :: letters, rest := behind }

/-- The scanner turns as long as anything is left. -/
inductive Scans (vocabulary : Vocabulary) : (turns : Nat) → Scan → Scan → Prop
  /-- Nothing is left. -/
  | done {scan : Scan} (nothing : scan.rest = []) : Scans vocabulary 0 scan scan
  /-- One more turn. -/
  | turn {turns : Nat} {scan last : Scan} (left : scan.rest ≠ [])
      (later : Scans vocabulary turns (turn vocabulary scan) last) :
      Scans vocabulary (turns + 1) scan last

/-- A turn over a run. -/
theorem turn_run (vocabulary : Vocabulary) (shown : List Char) (changed : Bool)
    {letters rest : List Char} (filled : letters ≠ [])
    (alphabetic : ∀ char ∈ letters, isAlphabetic char = true)
    (ends : ∀ char, rest.head? = some char → isAlphabetic char = false) :
    turn vocabulary ⟨shown, changed, letters ++ rest⟩ =
      match styleOf? vocabulary (String.ofList letters) with
      | some style => ⟨shown ++ styled style letters, true, rest⟩
      | none => ⟨shown ++ letters, changed, rest⟩ := by
  cases letters with
  | nil => exact absurd rfl filled
  | cons char letters =>
    simp only [turn, takeWhile_run alphabetic ends, dropWhile_run alphabetic ends]

/-- What a turn of the scanner keeps, and what it changes. -/
structure Advances (vocabulary : Vocabulary) (scan next : Scan) : Prop where
  /-- It takes something. -/
  shorter : next.rest.length < scan.rest.length
  /-- What is shown in the end stays the same. -/
  shown : next.shown ++ shownAfter vocabulary [] next.rest =
    scan.shown ++ shownAfter vocabulary [] scan.rest
  /-- As long as no style is shown, what is shown and what is left are the line. -/
  plain : next.changed = false →
    scan.changed = false ∧ next.shown ++ next.rest = scan.shown ++ scan.rest

/-- Every turn advances as long as something is left. -/
theorem advances_turn (vocabulary : Vocabulary) {scan : Scan} (left : scan.rest ≠ []) :
    Advances vocabulary scan (turn vocabulary scan) := by
  obtain ⟨shown, changed, rest⟩ := scan
  cases beginning rest with
  | nil => exact absurd rfl left
  | @other char rest between =>
    have next : turn vocabulary ⟨shown, changed, char :: rest⟩ =
        ⟨shown ++ [char], changed, rest⟩ := by
      simp [turn, between]
    rw [next]
    refine ⟨Nat.lt_succ_self _, ?_, fun plain => ⟨plain, ?_⟩⟩
    · simp [shownAfter_other vocabulary between]
    · simp
  | @run letters rest filled alphabetic ends =>
    have shorter := length_rest_lt filled rest
    have all := shownAfter_run vocabulary [] alphabetic ends
    rw [List.reverse_nil, List.nil_append] at all
    rw [turn_run vocabulary shown changed filled alphabetic ends]
    rw [shownRun_eq vocabulary filled] at all
    cases style : styleOf? vocabulary (String.ofList letters) with
    | some style =>
      rw [style] at all
      refine ⟨shorter, ?_, fun plain => by cases plain⟩
      rw [all, List.append_assoc]
    | none =>
      rw [style] at all
      refine ⟨shorter, ?_, fun plain => ⟨plain, List.append_assoc _ _ _⟩⟩
      rw [all, List.append_assoc]

/-- The scanner ends after no more turns than characters are left. -/
theorem exists_scans (vocabulary : Vocabulary) (scan : Scan) :
    ∃ turns last, turns ≤ scan.rest.length ∧ Scans vocabulary turns scan last := by
  induction size : scan.rest.length using Nat.strongRecOn generalizing scan with
  | ind length ih =>
    subst size
    by_cases nothing : scan.rest = []
    · exact ⟨0, scan, Nat.zero_le _, .done nothing⟩
    · have shorter := (advances_turn vocabulary nothing).shorter
      obtain ⟨turns, last, few, later⟩ := ih _ shorter _ rfl
      exact ⟨turns + 1, last, by omega, .turn nothing later⟩

namespace Scans

/-- In the end, all of the line is shown, and without a style it is the line itself. -/
theorem shown {vocabulary : Vocabulary} {turns : Nat} {scan last : Scan}
    (scans : Scans vocabulary turns scan last) :
    last.shown = scan.shown ++ shownAfter vocabulary [] scan.rest ∧
      (last.changed = false → scan.changed = false ∧ last.shown = scan.shown ++ scan.rest) := by
  induction scans with
  | @done scan nothing =>
    rw [nothing]
    exact ⟨(List.append_nil _).symm, fun plain => ⟨plain, (List.append_nil _).symm⟩⟩
  | @turn turns scan last left _ ih =>
    have advances := advances_turn vocabulary left
    refine ⟨ih.1.trans advances.shown, fun plain => ?_⟩
    obtain ⟨plainNext, unchanged⟩ := ih.2 plain
    obtain ⟨plainBefore, same⟩ := advances.plain plainNext
    exact ⟨plainBefore, unchanged.trans same⟩

end Scans

/-! ## Taking styles out -/

/-- Characters between the bracket and the end of a sequence. -/
def isParameter (char : Char) : Bool := isDigit char || char == ';'

/-- What is behind the sequence that characters begin with: an escape character, a bracket,
parameters and the letter m. -/
def behindSequence? : List Char → Option (List Char)
  | '\x1b' :: '[' :: rest =>
    match rest.dropWhile isParameter with
    | 'm' :: behind => some behind
    | _ => none
  | _ => none

/-- Characters at which a sequence begins are that sequence and what is behind it. -/
theorem exists_of_behindSequence? {chars behind : List Char}
    (found : behindSequence? chars = some behind) :
    ∃ parameters, chars = '\x1b' :: '[' :: parameters ++ 'm' :: behind := by
  unfold behindSequence? at found
  split at found
  · rename_i rest
    split at found
    · rename_i left
      cases found
      refine ⟨rest.takeWhile isParameter, ?_⟩
      rw [List.cons_append, List.cons_append, ← left, List.takeWhile_append_dropWhile]
    · cases found
  · cases found

/-- What is behind a sequence is shorter. -/
theorem length_behindSequence?_lt {chars behind : List Char}
    (found : behindSequence? chars = some behind) : behind.length < chars.length := by
  obtain ⟨parameters, rfl⟩ := exists_of_behindSequence? found
  simp only [List.length_append, List.length_cons]
  omega

/-- Characters without the sequences among them. -/
def unstyled (chars : List Char) : List Char :=
  match found : behindSequence? chars with
  | some behind =>
    have := length_behindSequence?_lt found
    unstyled behind
  | none =>
    match chars with
    | [] => []
    | char :: rest => char :: unstyled rest
termination_by chars.length

/-- A style is one sequence. -/
def IsSequence (style : String) : Prop :=
  ∃ parameters, style.toList = '\x1b' :: '[' :: (parameters ++ ['m']) ∧
    parameters.all isParameter = true

/-- The style of a class is a sequence. -/
theorem isSequence_classStyle (wordClass : WordClass) : IsSequence (classStyle wordClass) := by
  cases wordClass with
  | shape => exact ⟨['1', ';', '3', '2'], rfl, by decide⟩
  | color => exact ⟨['3', '3'], rfl, by decide⟩
  | animation => exact ⟨['3', '5'], rfl, by decide⟩
  | material => exact ⟨['3', '6'], rfl, by decide⟩

/-- The style of connectors is a sequence. -/
theorem isSequence_connectorStyle : IsSequence connectorStyle := ⟨['2'], rfl, by decide⟩

/-- The style of commands is a sequence. -/
theorem isSequence_commandStyle : IsSequence commandStyle := ⟨['3', '4'], rfl, by decide⟩

/-- The end of a style is a sequence. -/
theorem isSequence_reset : IsSequence reset := ⟨['0'], rfl, by decide⟩

/-- A sequence is taken out. -/
theorem unstyled_sequence {style : String} (sequence : IsSequence style) (rest : List Char) :
    unstyled (style.toList ++ rest) = unstyled rest := by
  obtain ⟨parameters, form, inside⟩ := sequence
  have found : behindSequence? (style.toList ++ rest) = some rest := by
    have left : (parameters ++ 'm' :: rest).dropWhile isParameter = 'm' :: rest := by
      rw [List.dropWhile_append_of_pos (List.all_eq_true.mp inside)]
      rfl
    rw [form]
    simp [behindSequence?, left]
  rw [unstyled]
  split
  · rename_i behind same
    have taken : rest = behind := Option.some.inj (found.symm.trans same)
    exact congrArg unstyled taken.symm
  · rename_i none
    rw [found] at none
    cases none

/-- Characters that begin no sequence stay. -/
theorem unstyled_append {chars : List Char} (plain : '\x1b' ∉ chars) (rest : List Char) :
    unstyled (chars ++ rest) = chars ++ unstyled rest := by
  induction chars with
  | nil => rfl
  | cons char chars ih =>
    rw [List.mem_cons, not_or] at plain
    have none : behindSequence? (char :: chars ++ rest) = none := by
      cases found : behindSequence? (char :: chars ++ rest) with
      | none => rfl
      | some behind =>
        obtain ⟨parameters, form⟩ := exists_of_behindSequence? found
        exact absurd (List.cons.inj form).1.symm plain.1
    rw [unstyled]
    split
    · rename_i behind same
      rw [none] at same
      cases same
    · exact congrArg (char :: ·) (ih plain.2)

/-- No character is left of none. -/
theorem unstyled_nil : unstyled [] = [] := by
  rw [unstyled]
  split
  · rename_i behind same
    cases same
  · rfl

/-- Of text within a style the text is left. -/
theorem unstyled_styled {style : String} (sequence : IsSequence style) {chars : List Char}
    (plain : '\x1b' ∉ chars) (rest : List Char) :
    unstyled (style.toList ++ chars ++ reset.toList ++ rest) = chars ++ unstyled rest := by
  rw [List.append_assoc, List.append_assoc, unstyled_sequence sequence,
    unstyled_append plain, unstyled_sequence isSequence_reset]

/-- Of a piece that is shown the piece is left. -/
theorem unstyled_shows {vocabulary : Vocabulary} {piece : Piece} {shown : List Char}
    (shows : Shows vocabulary piece shown) (plain : '\x1b' ∉ piece.chars) (rest : List Char) :
    unstyled (shown ++ rest) = piece.chars ++ unstyled rest := by
  cases shows with
  | word => exact unstyled_styled (isSequence_classStyle _) plain rest
  | connector => exact unstyled_styled isSequence_connectorStyle plain rest
  | plain => exact unstyled_append plain rest
  | other => exact unstyled_append plain rest

/-- Of pieces that are shown the pieces are left. -/
theorem unstyled_flatten {vocabulary : Vocabulary} {pieces : List Piece}
    {shown : List (List Char)} (shows : List.Forall₂ (Shows vocabulary) pieces shown)
    (plain : '\x1b' ∉ pieces.flatMap Piece.chars) :
    unstyled shown.flatten = pieces.flatMap Piece.chars := by
  induction shows with
  | nil => exact unstyled_nil
  | cons first _ ih =>
    rw [List.flatMap_cons, List.mem_append, not_or] at plain
    rw [List.flatten_cons, List.flatMap_cons, unstyled_shows first plain.1, ih plain.2]

/-! ## Lines -/

/-- How a description is highlighted: its one cut is shown piece by piece, by a scanner that ends
after no more turns than the line has characters. -/
structure HighlightsDescription (vocabulary : Vocabulary) (line : String) : Prop where
  /-- The pieces are shown one after the other. -/
  pieces : ∃ pieces shown, CutInto line.toList pieces ∧
    (∀ others, CutInto line.toList others → others = pieces) ∧
    List.Forall₂ (Shows vocabulary) pieces shown ∧
    (highlight vocabulary line).toList = shown.flatten
  /-- The scanner ends, and gives what is shown if it is anything else than the line. -/
  scans : ∃ turns last, turns ≤ line.toList.length ∧
    Scans vocabulary turns ⟨[], false, line.toList⟩ last ∧
    highlight vocabulary line = if last.changed then String.ofList last.shown else line

/-- How a command is highlighted: what is before the first white space is in a style. -/
def HighlightsCommand (vocabulary : Vocabulary) (line : String) : Prop :=
  ∃ name behind, line.toList = name ++ behind ∧ (∀ char ∈ name, isBlank char = false) ∧
    (∀ char, behind.head? = some char → isBlank char = true) ∧
    (highlight vocabulary line).toList = commandStyle.toList ++ name ++ reset.toList ++ behind

/-- A line that begins with no colon is shown after the scanner. -/
theorem highlight_description (vocabulary : Vocabulary) {line : String}
    (described : line.toList.head? ≠ some ':') :
    highlight vocabulary line = String.ofList (shownAfter vocabulary [] line.toList) := by
  rw [highlight]
  split
  · rename_i rest begun
    rw [begun] at described
    exact absurd rfl described
  · rfl

/-- A description is highlighted piece by piece. -/
theorem highlightsDescription (vocabulary : Vocabulary) {line : String}
    (described : line.toList.head? ≠ some ':') : HighlightsDescription vocabulary line := by
  have all := highlight_description vocabulary described
  constructor
  · obtain ⟨pieces, cut⟩ := CutInto.exists_cut line.toList
    obtain ⟨shown, each, joined⟩ := cut.exists_shown vocabulary
    refine ⟨pieces, shown, cut, fun others same => same.unique cut, each, ?_⟩
    rw [all, String.toList_ofList, joined]
  · obtain ⟨turns, last, few, scans⟩ := exists_scans vocabulary ⟨[], false, line.toList⟩
    refine ⟨turns, last, few, scans, ?_⟩
    obtain ⟨shown, plain⟩ := scans.shown
    cases changed : last.changed with
    | true => rw [all, if_pos rfl, shown, List.nil_append]
    | false =>
      rw [all, if_neg (by decide), ← List.nil_append (shownAfter _ _ _), ← shown,
        (plain changed).2, List.nil_append, String.ofList_toList]

/-- Of a command the name is highlighted. -/
theorem highlightsCommand (vocabulary : Vocabulary) {line : String}
    (commanded : line.toList.head? = some ':') : HighlightsCommand vocabulary line := by
  refine ⟨line.toList.takeWhile fun char => !isBlank char,
    line.toList.dropWhile fun char => !isBlank char, ?_, ?_, ?_, ?_⟩
  · exact List.takeWhile_append_dropWhile.symm
  · intro char member
    have inside := List.all_eq_true.mp List.all_takeWhile char member
    rwa [Bool.not_eq_true'] at inside
  · intro char first
    have stopped := List.head?_dropWhile_not (fun char => !isBlank char) line.toList
    rw [first] at stopped
    simpa using stopped
  · cases begun : line.toList with
    | nil => rw [begun] at commanded; cases commanded
    | cons char rest =>
      rw [begun] at commanded
      cases commanded
      rw [highlight, begun]
      exact String.toList_ofList

/-- Highlighting only inserts styles: a description is shown by its one cut into runs of letters
and single characters, a command is shown with its name in a style, and a line without an escape
character is what is left when all sequences are taken out. -/
theorem highlight_only_inserts_styles (vocabulary : Vocabulary) (line : String) :
    (line.toList.head? ≠ some ':' → HighlightsDescription vocabulary line) ∧
      (line.toList.head? = some ':' → HighlightsCommand vocabulary line) ∧
      ('\x1b' ∉ line.toList → unstyled (highlight vocabulary line).toList = line.toList) := by
  refine ⟨highlightsDescription vocabulary, highlightsCommand vocabulary, fun plain => ?_⟩
  by_cases commanded : line.toList.head? = some ':'
  · obtain ⟨name, behind, joined, -, -, all⟩ := highlightsCommand vocabulary commanded
    rw [joined, List.mem_append, not_or] at plain
    rw [all, unstyled_styled isSequence_commandStyle plain.1,
      ← List.append_nil behind, unstyled_append plain.2, unstyled_nil, List.append_nil, joined]
  · obtain ⟨pieces, shown, cut, -, each, all⟩ := (highlightsDescription vocabulary commanded).pieces
    rw [← cut.flatMap_chars] at plain
    rw [all, unstyled_flatten each plain, cut.flatMap_chars]

end ShapeScene.Highlight
