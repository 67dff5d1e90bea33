import ShapeScene.Proofs.Data.Datum
import ShapeScene.Proofs.Data.Json.NumberText
import ShapeScene.Proofs.Data.Json.StringText

/-!
# JSON documents read back

A document in either layout is read back with every part in its place. The induction is on the
levels of the document; within a level the reader's own bound on the number of items is kept by the
length of the text, which is more than the number of items that it separates.
-/

namespace ShapeScene.Json

/-- Integers come back as decimal digits, and other numbers as the reader makes them. -/
def rereading : Rereading := ⟨fun _ => .decimal, reread⟩

/-! ## White space and first bytes -/

/-- Bytes that begin a value, without white space in front, and do not close a bracket. -/
def Starts (bytes : List UInt8) : Prop :=
  ∃ byte tail, bytes = byte :: tail ∧ isSpace byte = false ∧ byte ≠ 0x5D ∧ byte ≠ 0x7D

/-- White space is passed. -/
theorem skipSpace_append {gap : List UInt8} (blank : ∀ byte ∈ gap, isSpace byte = true)
    (bytes : List UInt8) : skipSpace (gap ++ bytes) = skipSpace bytes :=
  List.dropWhile_append_of_pos blank

/-- Nothing is passed where a value begins. -/
theorem Starts.skipSpace {bytes : List UInt8} (starts : Starts bytes) (rest : List UInt8) :
    skipSpace (bytes ++ rest) = bytes ++ rest := by
  obtain ⟨byte, tail, rfl, notSpace, -, -⟩ := starts
  simp [Json.skipSpace, notSpace]

/-- Where a value begins no bracket closes. -/
theorem Starts.append {bytes : List UInt8} (starts : Starts bytes) (rest : List UInt8) :
    Starts (bytes ++ rest) := by
  obtain ⟨byte, tail, rfl, notSpace, notList, notMap⟩ := starts
  exact ⟨byte, tail ++ rest, rfl, notSpace, notList, notMap⟩

/-- White space in front of a value makes no difference. -/
theorem readValue?_append {gap : List UInt8} (blank : ∀ byte ∈ gap, isSpace byte = true)
    (depth levels : Nat) (bytes : List UInt8) :
    readValue? depth levels (gap ++ bytes) = readValue? depth levels bytes := by
  cases depth with
  | zero => rfl
  | succ depth => rw [readValue?, skipSpace_append blank, readValue?]

/-- The line of an item begins with white space. -/
theorem isSpace_of_mem_lineStart (layout : Layout) :
    ∀ byte ∈ layout.lineStart.flatMap String.utf8EncodeChar, isSpace byte = true := by
  have line : String.utf8EncodeChar '\n' = [0x0A] := by decide
  have space : String.utf8EncodeChar ' ' = [0x20] := by decide
  cases layout with
  | compact => simp [Layout.lineStart]
  | indented depth =>
    intro byte member
    simp only [Layout.lineStart, List.flatMap_cons, line, List.cons_append, List.nil_append,
      List.mem_cons, List.mem_flatMap, List.mem_replicate] at member
    rcases member with rfl | ⟨char, ⟨-, rfl⟩, member⟩
    · decide
    · simp only [space, List.mem_singleton] at member
      subst member
      decide

/-- White space with what follows it stops a number when what follows does. -/
theorem stopsNumber_append {gap : List UInt8} (blank : ∀ byte ∈ gap, isSpace byte = true)
    {rest : List UInt8} (stops : StopsNumber rest) : StopsNumber (gap ++ rest) := by
  have spaces : ∀ byte, isSpace byte = true →
      isDigitByte byte = false ∧ byte ≠ 0x2E ∧ byte ≠ 0x65 ∧ byte ≠ 0x45 := by
    intro byte space
    simp only [isSpace, Bool.or_eq_true, beq_iff_eq] at space
    rcases space with ((rfl | rfl) | rfl) | rfl <;> decide
  cases gap with
  | nil => exact stops
  | cons byte gap =>
    intro first same
    simp only [List.cons_append, List.head?_cons, Option.mem_some_iff] at same
    subst same
    exact spaces byte (blank byte (by simp))

/-! ## Items between brackets -/

section Sequences

variable {α β : Type} (close : UInt8) (read : List UInt8 → Option (α × List UInt8))
  (write : β → List Char) (value : β → α)

/-- Items are read up to the closing bracket: the first of them, then each behind its comma. -/
theorem readItems?_written (notComma : close ≠ 0x2C) (notSpace : isSpace close = false)
    {gap lastGap : List UInt8} (blank : ∀ byte ∈ gap, isSpace byte = true)
    (lastBlank : ∀ byte ∈ lastGap, isSpace byte = true)
    (stops : ∀ rest, StopsNumber (close :: rest))
    (first : β) (others : List β)
    (reads : ∀ item ∈ first :: others, ∀ gap rest, (∀ byte ∈ gap, isSpace byte = true) →
      StopsNumber rest →
      read (gap ++ (write item).flatMap String.utf8EncodeChar ++ rest) = some (value item, rest))
    (bound : Nat) (enough : (first :: others).length ≤ bound)
    (front : List UInt8) (frontBlank : ∀ byte ∈ front, isSpace byte = true)
    (rest : List UInt8) :
    readItems? close read bound (front ++ (write first).flatMap String.utf8EncodeChar ++
        (others.flatMap (fun item =>
          0x2C :: gap ++ (write item).flatMap String.utf8EncodeChar) ++ lastGap ++ close :: rest)) =
      some ((first :: others).map value, rest) := by
  induction others generalizing first front bound with
  | nil =>
    obtain ⟨bound, rfl⟩ := Nat.exists_eq_add_of_le' enough
    have last := reads first (by simp) front (lastGap ++ close :: rest) frontBlank
      (stopsNumber_append lastBlank (stops rest))
    have closes : skipSpace (lastGap ++ close :: rest) = close :: rest := by
      rw [skipSpace_append lastBlank]
      simp [skipSpace, notSpace]
    simp only [List.flatMap_nil, List.nil_append, List.length_cons, List.length_nil,
      Nat.zero_add, readItems?, last, closes, if_true, List.map_cons, List.map_nil]
  | cons second others ih =>
    simp only [List.length_cons] at enough
    obtain ⟨bound, rfl⟩ : ∃ less, bound = less + 1 := ⟨bound - 1, by omega⟩
    have comma : ∀ rest, StopsNumber (0x2C :: rest) := by
      intro rest byte same
      simp only [List.head?_cons, Option.mem_some_iff] at same
      subst same
      decide
    have head := reads first (by simp) front _ frontBlank (comma (gap ++
      (write second).flatMap String.utf8EncodeChar ++ (others.flatMap (fun item =>
        0x2C :: gap ++ (write item).flatMap String.utf8EncodeChar) ++ lastGap ++ close :: rest)))
    have tail := ih second (fun item member => reads item (List.mem_cons_of_mem _ member))
      bound (by simp only [List.length_cons]; omega) gap blank
    simp only [List.flatMap_cons, List.cons_append, List.append_assoc] at head tail ⊢
    have passes : ∀ rest, skipSpace (0x2C :: rest) = 0x2C :: rest := fun rest => rfl
    simp only [readItems?, head, passes, notComma.symm, if_false, if_true, tail, Option.map_some,
      List.map_cons]

/-- Items between brackets are read back behind the opening bracket. -/
theorem readSequence?_bracketed (opening : Char) {closing : Char}
    (closes : String.utf8EncodeChar closing = [close]) (bracket : close = 0x5D ∨ close = 0x7D)
    (layout : Layout) (items : List β)
    (starts : ∀ item ∈ items, Starts ((write item).flatMap String.utf8EncodeChar))
    (reads : ∀ item ∈ items, ∀ gap rest, (∀ byte ∈ gap, isSpace byte = true) →
      StopsNumber rest →
      read (gap ++ (write item).flatMap String.utf8EncodeChar ++ rest) = some (value item, rest))
    (bound : Nat) (enough : items.length ≤ bound) (rest : List UInt8) :
    ∃ tail, (bracketed layout opening closing (items.map write)).flatMap String.utf8EncodeChar =
        String.utf8EncodeChar opening ++ tail ∧
      readSequence? close read bound (tail ++ rest) = some (items.map value, rest) := by
  have notSpace : isSpace close = false := by rcases bracket with rfl | rfl <;> decide
  have notComma : close ≠ 0x2C := by rcases bracket with rfl | rfl <;> decide
  have stops : ∀ rest, StopsNumber (close :: rest) := by
    intro rest byte same
    simp only [List.head?_cons, Option.mem_some_iff] at same
    subst same
    rcases bracket with rfl | rfl <;> decide
  cases items with
  | nil =>
    refine ⟨[close], by simp [bracketed, closes], ?_⟩
    simp [readSequence?, skipSpace, notSpace]
  | cons first others =>
    have comma : String.utf8EncodeChar ',' = [0x2C] := by decide
    let gap := layout.inner.lineStart.flatMap String.utf8EncodeChar
    let lastGap := layout.lineStart.flatMap String.utf8EncodeChar
    refine ⟨gap ++ ((write first).flatMap String.utf8EncodeChar ++ (others.flatMap (fun item =>
      0x2C :: gap ++ (write item).flatMap String.utf8EncodeChar) ++ lastGap ++ [close])), ?_, ?_⟩
    · simp [bracketed, closes, comma, gap, lastGap, List.flatMap_assoc, List.flatMap_map]
    · have start := starts first (by simp)
      have blank := isSpace_of_mem_lineStart layout.inner
      have lastBlank := isSpace_of_mem_lineStart layout
      have written := readItems?_written close read write value notComma notSpace blank lastBlank
        stops first others reads bound enough [] (by simp) rest
      rw [List.append_assoc, readSequence?, skipSpace_append blank, List.append_assoc,
        start.skipSpace]
      obtain ⟨byte, tail, text, -, notList, notMap⟩ := start
      have other : byte ≠ close := by rcases bracket with rfl | rfl <;> assumption
      simp only [List.nil_append, text, List.cons_append, List.append_assoc] at written ⊢
      simp only [if_neg other]
      exact written

end Sequences

/-- A bracket's text is longer than its items with a separator each. -/
theorem length_bracketed (layout : Layout) (opening closing : Char) (items : List (List Char)) :
    (items.map fun item => item.length + 1).sum <
      (bracketed layout opening closing items).length := by
  cases items with
  | nil => simp [bracketed]
  | cons first others =>
    have separated : ∀ (gap : List Char) (others : List (List Char)),
        (others.map fun item => item.length + 1).sum ≤
          (others.flatMap fun item => ',' :: gap ++ item).length := by
      intro gap others
      induction others with
      | nil => simp
      | cons item others ih =>
        simp only [List.map_cons, List.sum_cons, List.flatMap_cons, List.length_append,
          List.length_cons] at ih ⊢
        omega
    have rest := separated layout.inner.lineStart others
    simp only [bracketed, List.map_cons, List.sum_cons, List.length_append, List.length_cons,
      List.length_nil] at rest ⊢
    omega

/-- An item's text is shorter than the bracket's. -/
theorem length_lt_bracketed (layout : Layout) (opening closing : Char) {items : List (List Char)}
    {item : List Char} (member : item ∈ items) :
    item.length + 1 < (bracketed layout opening closing items).length := by
  have among : item.length + 1 ∈ items.map fun item => item.length + 1 :=
    List.mem_map_of_mem member
  have total := length_bracketed layout opening closing items
  have part := List.le_sum_of_mem among
  omega

/-- A bracket's text is longer than the number of its items. -/
theorem count_lt_bracketed (layout : Layout) (opening closing : Char) (items : List (List Char)) :
    items.length < (bracketed layout opening closing items).length := by
  have counted : items.length ≤ (items.map fun item => item.length + 1).sum := by
    induction items with
    | nil => simp
    | cons item items ih =>
      simp only [List.map_cons, List.sum_cons, List.length_cons]
      omega
  exact Nat.lt_of_le_of_lt counted (length_bracketed layout opening closing items)

/-! ## Documents -/

/-- The texts of items, one by one. -/
theorem itemTexts_eq_map (layout : Layout) (items : List Datum) :
    itemTexts layout items = items.map (textOf layout) := by
  induction items with
  | nil => rfl
  | cons item items ih => rw [itemTexts, ih, List.map_cons]

/-- The text of a key with its value. -/
def memberText (layout : Layout) (entry : Datum × Datum) : List Char :=
  textOf layout entry.1 ++ layout.colon ++ textOf layout entry.2

/-- The texts of entries, one by one. -/
theorem entryTexts_eq_map (layout : Layout) (entries : List (Datum × Datum)) :
    entryTexts layout entries = entries.map (memberText layout) := by
  induction entries with
  | nil => rfl
  | cons entry entries ih => rw [entryTexts, ih, List.map_cons, memberText]

/-- The text of a token begins a value. -/
theorem NumberToken.WellFormed.starts {token : NumberToken} (wellFormed : token.WellFormed) :
    Starts (token.chars.flatMap String.utf8EncodeChar) := by
  have minus : String.utf8EncodeChar '-' = [0x2D] := by decide
  obtain ⟨digit, others, small, text⟩ := magnitudeChars_head wellFormed
  unfold NumberToken.chars
  split
  · refine ⟨0x2D, token.magnitudeChars.flatMap String.utf8EncodeChar, ?_, by decide⟩
    simp [minus]
  · have all : ∀ digit < 10, isSpace (UInt8.ofNat (0x30 + digit)) = false ∧
        UInt8.ofNat (0x30 + digit) ≠ 0x5D ∧ UInt8.ofNat (0x30 + digit) ≠ 0x7D := by decide
    exact ⟨_, others, by rw [List.nil_append, text], all digit small⟩

/-- What can be written begins a value. -/
theorem starts_textOf {fits : Nat → Prop} {levels : Nat} {datum : Datum}
    (writable : datum.IsWritable fits levels) (layout : Layout) :
    Starts ((textOf layout datum).flatMap String.utf8EncodeChar) := by
  have word : ∀ chars : List Char, ∀ first others, chars = first :: others →
      first ∈ ['n', 't', 'f', '"', '[', '\x7b'] →
        Starts (chars.flatMap String.utf8EncodeChar) := by
    rintro chars first others rfl member
    have all : ∀ first ∈ ['n', 't', 'f', '"', '[', '\x7b'],
        String.utf8EncodeChar first = [UInt8.ofNat first.toNat] ∧
          isSpace (UInt8.ofNat first.toNat) = false ∧ UInt8.ofNat first.toNat ≠ 0x5D ∧
          UInt8.ofNat first.toNat ≠ 0x7D := by
      simp only [List.forall_mem_cons, List.not_mem_nil, false_implies, implies_true, and_true]
      decide
    obtain ⟨bytes, starts⟩ := all first member
    exact ⟨_, _, by rw [List.flatMap_cons, bytes]; rfl, starts⟩
  have bracket : ∀ (opening closing : Char) (items : List (List Char)),
      ∃ others, bracketed layout opening closing items = opening :: others := by
    intro opening closing items
    cases items with
    | nil => exact ⟨[closing], rfl⟩
    | cons first others => exact ⟨_, rfl⟩
  cases datum with
  | bool value => cases value <;> exact word _ _ _ rfl (by decide)
  | integer form value =>
    simp only [Datum.IsWritable] at writable
    obtain ⟨token, wellFormed, text, -⟩ := exists_token_of_integer writable.1 writable.2
    rw [textOf, text]
    exact wellFormed.starts
  | real value =>
    rw [textOf]
    cases finite : value.isFinite with
    | true =>
      obtain ⟨token, wellFormed, text⟩ := exists_token_of_isFinite finite
      rw [text]
      exact wellFormed.starts
    | false =>
      rw [realText, if_neg (by simp [finite])]
      exact word _ _ _ rfl (by decide)
  | text value => exact word _ _ _ rfl (by decide)
  | list items =>
    obtain ⟨others, text⟩ := bracket '[' ']' (itemTexts layout.inner items)
    exact word _ _ _ (by rw [textOf, text]) (by decide)
  | map entries =>
    obtain ⟨others, text⟩ := bracket '\x7b' '\x7d' (entryTexts layout.inner entries)
    exact word _ _ _ (by rw [textOf, text]) (by decide)
  | null => simp [Datum.IsWritable] at writable
  | brokenText content => simp [Datum.IsWritable] at writable
  | bytes content => simp [Datum.IsWritable] at writable
  | extension kind payload => simp [Datum.IsWritable] at writable
  | unreadable => simp [Datum.IsWritable] at writable

/-- What can be written takes some room. -/
theorem length_textOf_pos {fits : Nat → Prop} {levels : Nat} {datum : Datum}
    (writable : datum.IsWritable fits levels) (layout : Layout) :
    0 < (textOf layout datum).length := by
  obtain ⟨byte, tail, text, -⟩ := starts_textOf writable layout
  cases chars : textOf layout datum with
  | nil => simp [chars] at text
  | cons char chars => simp

/-- A key with its value is read back. -/
theorem readMember?_memberText {read : List UInt8 → Option (Datum × List UInt8)}
    {layout : Layout} {entry : Datum × Datum} {name : String} (key : entry.1 = .text name)
    {value : Datum} {rest : List UInt8}
    (reads : ∀ gap, (∀ byte ∈ gap, isSpace byte = true) →
      read (gap ++ (textOf layout entry.2).flatMap String.utf8EncodeChar ++ rest) =
        some (value, rest))
    {gap : List UInt8} (blank : ∀ byte ∈ gap, isSpace byte = true) :
    readMember? read (gap ++ (memberText layout entry).flatMap String.utf8EncodeChar ++ rest) =
      some ((.text name, value), rest) := by
  have colon : String.utf8EncodeChar ':' = [0x3A] := by decide
  have space : String.utf8EncodeChar ' ' = [0x20] := by decide
  obtain ⟨valueGap, valueBlank, mark⟩ : ∃ valueGap, (∀ byte ∈ valueGap, isSpace byte = true) ∧
      layout.colon.flatMap String.utf8EncodeChar = 0x3A :: valueGap := by
    cases layout with
    | compact => exact ⟨[], by simp, by simp [Layout.colon, colon]⟩
    | indented depth => exact ⟨[0x20], by decide +kernel, by simp [Layout.colon, colon, space]⟩
  have keyRead := readString?_escaped name (0x3A :: (valueGap ++
    (textOf layout entry.2).flatMap String.utf8EncodeChar ++ rest))
  have valueRead := reads valueGap valueBlank
  have passes : ∀ rest, skipSpace (0x22 :: rest) = 0x22 :: rest := fun rest => rfl
  have passesColon : ∀ rest, skipSpace (0x3A :: rest) = 0x3A :: rest := fun rest => rfl
  rw [List.append_assoc, readMember?, skipSpace_append blank]
  simp only [memberText, key, textOf, List.flatMap_append, encode_stringText, mark,
    List.cons_append, List.append_assoc, List.nil_append, passes] at keyRead valueRead ⊢
  simp only [keyRead, Option.bind_eq_bind, Option.bind_some, passesColon, valueRead]

/-- A key with its value begins with a quote. -/
theorem starts_memberText (layout : Layout) {entry : Datum × Datum} {name : String}
    (key : entry.1 = .text name) :
    Starts ((memberText layout entry).flatMap String.utf8EncodeChar) := by
  simp only [memberText, key, textOf, List.flatMap_append, encode_stringText, List.cons_append]
  exact ⟨0x22, _, rfl, by decide⟩

/-- A part without levels is read back in its place. -/
theorem readValue?_leaf {fits : Nat → Prop} {datum : Datum} (writable : datum.IsWritable fits 0)
    (layout : Layout) (depth allowed : Nat) {rest : List UInt8} (stops : StopsNumber rest) :
    readValue? (depth + 1) allowed ((textOf layout datum).flatMap String.utf8EncodeChar ++ rest) =
      some (datum.reread rereading, rest) := by
  cases datum with
  | bool value =>
    cases value with
    | false =>
      have bytes : "false".toList.flatMap String.utf8EncodeChar =
        [0x66, 0x61, 0x6C, 0x73, 0x65] := by decide
      have behind : Text.utf8 "alse" = [0x61, 0x6C, 0x73, 0x65] := by decide
      rw [textOf, if_neg (by decide), bytes]
      simp [readValue?, skipSpace, isSpace, isDigitByte, behindWord?, behind, Datum.reread]
    | true =>
      have bytes : "true".toList.flatMap String.utf8EncodeChar = [0x74, 0x72, 0x75, 0x65] := by
        decide
      have behind : Text.utf8 "rue" = [0x72, 0x75, 0x65] := by decide
      rw [textOf, if_pos rfl, bytes]
      simp [readValue?, skipSpace, isSpace, isDigitByte, behindWord?, behind, Datum.reread]
  | integer form value =>
    simp only [Datum.IsWritable] at writable
    obtain ⟨token, wellFormed, text, worth⟩ := exists_token_of_integer writable.1 writable.2
    rw [textOf, text, readValue?_number wellFormed depth allowed stops, worth]
    rfl
  | real value => exact readValue?_realText value depth allowed stops
  | text value => exact readValue?_stringText value depth allowed rest
  | _ => simp [Datum.IsWritable] at writable

/-- A document is read back in its place, with room for its levels and its length. -/
theorem readValue?_textOf {fits : Nat → Prop} {levels : Nat} {datum : Datum}
    (writable : datum.IsWritable fits levels) (layout : Layout) {depth allowed : Nat}
    (room : levels ≤ allowed) (long : (textOf layout datum).length ≤ depth) {rest : List UInt8}
    (stops : StopsNumber rest) :
    readValue? depth allowed ((textOf layout datum).flatMap String.utf8EncodeChar ++ rest) =
      some (datum.reread rereading, rest) := by
  induction levels generalizing datum layout depth allowed rest with
  | zero =>
    have some := length_textOf_pos writable layout
    obtain ⟨depth, rfl⟩ : ∃ less, depth = less + 1 := ⟨depth - 1, by omega⟩
    exact readValue?_leaf writable layout depth allowed stops
  | succ levels ih =>
    have some := length_textOf_pos writable layout
    obtain ⟨depth, rfl⟩ : ∃ less, depth = less + 1 := ⟨depth - 1, by omega⟩
    obtain ⟨allowed, rfl⟩ : ∃ less, allowed = less + 1 := ⟨allowed - 1, by omega⟩
    have leaf := fun leaf : datum.IsWritable fits 0 =>
      readValue?_leaf leaf layout depth (allowed + 1) stops
    cases datum with
    | list items =>
      obtain ⟨-, each⟩ := writable
      rw [textOf, itemTexts_eq_map] at long ⊢
      have closes : String.utf8EncodeChar ']' = [0x5D] := by decide
      have opens : String.utf8EncodeChar '[' = [0x5B] := by decide
      obtain ⟨tail, text, read⟩ := readSequence?_bracketed 0x5D (readValue? depth allowed)
        (textOf layout.inner) (Datum.reread rereading) '[' closes (.inl rfl) layout items
        (fun item member => starts_textOf (each item member) layout.inner)
        (fun item member gap rest blank stops => by
          have shorter := length_lt_bracketed layout '[' ']'
            (List.mem_map_of_mem (f := textOf layout.inner) member)
          rw [List.append_assoc, readValue?_append blank]
          exact ih (each item member) layout.inner (by omega) (by omega) stops)
        depth (by
          have fewer := count_lt_bracketed layout '[' ']' (items.map (textOf layout.inner))
          rw [List.length_map] at fewer
          omega) rest
      rw [text, opens]
      simp [readValue?, skipSpace, isSpace, read, atLevel]
    | map entries =>
      obtain ⟨-, each⟩ := writable
      rw [textOf, entryTexts_eq_map] at long ⊢
      have closes : String.utf8EncodeChar '\x7d' = [0x7D] := by decide
      have opens : String.utf8EncodeChar '\x7b' = [0x7B] := by decide
      obtain ⟨tail, text, read⟩ := readSequence?_bracketed 0x7D
        (readMember? (readValue? depth allowed)) (memberText layout.inner)
        (fun entry => (entry.1.reread rereading, entry.2.reread rereading)) '\x7b' closes
        (.inr rfl) layout entries
        (fun entry member => by
          obtain ⟨⟨name, key, -⟩, -⟩ := each entry member
          exact starts_memberText layout.inner key)
        (fun entry member gap rest blank stops => by
          obtain ⟨⟨name, key, -⟩, value⟩ := each entry member
          have shorter := length_lt_bracketed layout '\x7b' '\x7d'
            (List.mem_map_of_mem (f := memberText layout.inner) member)
          have part : (textOf layout.inner entry.2).length ≤
              (memberText layout.inner entry).length := by
            simp only [memberText, List.length_append]
            omega
          have keyBack : entry.1.reread rereading = .text name := by rw [key]; rfl
          rw [keyBack]
          refine readMember?_memberText key (fun gap blank => ?_) blank
          rw [List.append_assoc, readValue?_append blank]
          exact ih value layout.inner (by omega) (by omega) stops)
        depth (by
          have fewer := count_lt_bracketed layout '\x7b' '\x7d'
            (entries.map (memberText layout.inner))
          rw [List.length_map] at fewer
          omega) rest
      rw [text, opens]
      simp [readValue?, skipSpace, isSpace, read, atLevel, Datum.reread,
        Datum.rereadEntries_eq_map]
    | bool value => exact leaf writable
    | integer form value => exact leaf writable
    | real value => exact leaf writable
    | text value => exact leaf writable
    | _ => simp [Datum.IsWritable] at writable

/-- Characters take at least a byte each. -/
theorem length_le_encode (chars : List Char) :
    chars.length ≤ (chars.flatMap String.utf8EncodeChar).length := by
  induction chars with
  | nil => simp
  | cons char chars ih =>
    obtain ⟨first, tail, bytes, -⟩ := Text.utf8Step_encode char []
    simp only [List.flatMap_cons, bytes, List.length_cons, List.length_append]
    omega

/-- A document of few enough levels is read back as a whole. -/
theorem read?_textOf {fits : Nat → Prop} {datum : Datum}
    (writable : datum.IsWritable fits maxLevels) (layout : Layout) :
    read? (Text.utf8 (String.ofList (textOf layout datum))) = some (datum.reread rereading) := by
  have long := length_le_encode (textOf layout datum)
  have stops : StopsNumber [] := by simp [StopsNumber]
  have enough : (textOf layout datum).length ≤
      ((textOf layout datum).flatMap String.utf8EncodeChar).length + 1 := by omega
  have read := readValue?_textOf writable layout (Nat.le_refl maxLevels) enough stops
  rw [List.append_nil] at read
  rw [Text.utf8_ofList, read?, read]
  rfl

end ShapeScene.Json
