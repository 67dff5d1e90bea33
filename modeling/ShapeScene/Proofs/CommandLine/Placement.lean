import Mathlib.Data.List.Basic
import Mathlib.Data.List.Induction
import ShapeScene.CommandLine.Options
import ShapeScene.Proofs.Success

/-!
# Where options stand

Arguments fall into groups: flags, options with the argument behind them, and words. What arguments
say is read off their groups, every part of it from the groups of one role: of the values of an
option the last one counts, and the words keep their order. So groups of different roles may change
places.
-/

namespace ShapeScene.CommandLine

/-! ## Groups of arguments -/

/-- Arguments that are read together. -/
inductive Group where
  /-- A flag. -/
  | flag (spelling : String) (flag : Flag) (named : flagNamed? spelling = some flag)
  /-- An option and its value, whatever that looks like. -/
  | valued (spelling : String) (option : ValueOption) (value : String)
    (named : valueOptionNamed? spelling = some option)
  /-- A word. -/
  | word (text : String) (plain : Options.looksLikeOption text = false)
deriving DecidableEq

/-- What groups can be in a list of arguments. -/
inductive Role where
  /-- They set a flag. -/
  | flag (flag : Flag)
  /-- They give an option a value. -/
  | valued (option : ValueOption)
  /-- They add to the description. -/
  | word
deriving DecidableEq

namespace Group

/-- The role of a group, in which the short and the long spelling of an option are one. -/
def role : Group → Role
  | flag _ switch _ => .flag switch
  | valued _ option _ _ => .valued option
  | word _ _ => .word

/-- The arguments of a group. -/
def arguments : Group → List String
  | flag spelling _ _ => [spelling]
  | valued spelling _ value _ => [spelling, value]
  | word text _ => [text]

/-- The text of a word. -/
def word? : Group → Option String
  | word text _ => some text
  | _ => none

/-- The value that a group gives an option. -/
def valueFor? (wanted : ValueOption) : Group → Option String
  | valued _ option value _ => if option = wanted then some value else none
  | _ => none

end Group

/-- The arguments of groups, one behind the other. -/
def argumentsOf (groups : List Group) : List String := groups.flatMap Group.arguments

/-- The same groups in another order, in which those of one role follow each other as before. -/
structure Reordered (groups others : List Group) : Prop where
  /-- No group is lost and none is added. -/
  perm : others.Perm groups
  /-- The groups of a role are in the same order. -/
  order : ∀ role, others.filter (·.role = role) = groups.filter (·.role = role)

/-! ## What groups say -/

/-- The words among groups. -/
def wordsOf (groups : List Group) : List String := groups.filterMap Group.word?

/-- Whether a flag is among groups. -/
def hasFlag (flag : Flag) (groups : List Group) : Bool := groups.any (·.role = .flag flag)

/-- The last value that groups give an option. -/
def lastValue? (option : ValueOption) (groups : List Group) : Option String :=
  (groups.filterMap (Group.valueFor? option)).getLast?

/-- Whether a value of an option can be read. -/
def ValueOption.Reads : ValueOption → String → Prop
  | .output, _ | .store, _ | .raytracer, _ => True
  | .format, value => ∃ format, OutputFormat.parse value = .ok format
  | .size, value => ∃ size, ImageSize.parse value = .ok size
  | .storeFormat, value => ∃ format, StoreFormat.parse value = .ok format
  | .seed, value | .timeout, value =>
    ∃ number, Text.readNatural? (Nat.pow 2 64) value.toList = some number

/-- Whether a group can be read, which its neighbours have no part in. -/
def Group.Readable : Group → Prop
  | flag .. | word .. => True
  | valued _ option value _ => option.Reads value

/-- The options that groups say. -/
def Options.ofGroups (groups : List Group) : Options where
  words := wordsOf groups
  help := hasFlag .help groups
  version := hasFlag .version groups
  animate := hasFlag .animate groups
  noInteractive := hasFlag .noInteractive groups
  verbose := hasFlag .verbose groups
  english := hasFlag .english groups
  sceneOnInput := hasFlag .sceneOnInput groups
  status := hasFlag .status groups
  output := lastValue? .output groups
  format := (lastValue? .format groups).bind fun value => (OutputFormat.parse value).toOption
  size := (lastValue? .size groups).bind fun value => (ImageSize.parse value).toOption
  store := lastValue? .store groups
  storeFormat :=
    (lastValue? .storeFormat groups).bind fun value => (StoreFormat.parse value).toOption
  raytracer := lastValue? .raytracer groups
  seed := (lastValue? .seed groups).bind fun value =>
    Text.readNatural? (Nat.pow 2 64) value.toList
  timeout := (lastValue? .timeout groups).bind fun value =>
    Text.readNatural? (Nat.pow 2 64) value.toList

/-! ## Names of options -/

/-- A flag looks like an option. -/
theorem looksLikeOption_of_flagNamed? {argument : String} {flag : Flag}
    (named : flagNamed? argument = some flag) : Options.looksLikeOption argument = true := by
  unfold flagNamed? at named
  split at named
  any_goals rfl
  cases named

/-- An option with a value looks like an option. -/
theorem looksLikeOption_of_valueOptionNamed? {argument : String} {option : ValueOption}
    (named : valueOptionNamed? argument = some option) :
    Options.looksLikeOption argument = true := by
  unfold valueOptionNamed? at named
  split at named
  any_goals rfl
  cases named

/-- An option with a value is no flag. -/
theorem flagNamed?_of_valueOptionNamed? {argument : String} {option : ValueOption}
    (named : valueOptionNamed? argument = some option) : flagNamed? argument = none := by
  unfold valueOptionNamed? at named
  split at named
  any_goals rfl
  cases named

/-- A word is no flag. -/
theorem flagNamed?_of_plain {text : String} (plain : Options.looksLikeOption text = false) :
    flagNamed? text = none := by
  cases named : flagNamed? text with
  | none => rfl
  | some switch => rw [looksLikeOption_of_flagNamed? named] at plain; cases plain

/-- A word is no option with a value. -/
theorem valueOptionNamed?_of_plain {text : String}
    (plain : Options.looksLikeOption text = false) : valueOptionNamed? text = none := by
  cases named : valueOptionNamed? text with
  | none => rfl
  | some option => rw [looksLikeOption_of_valueOptionNamed? named] at plain; cases plain

/-! ## Reading group by group -/

/-- The options with what a group says. -/
def Group.addTo (options : Options) : Group → Except UsageError Options
  | flag _ switch _ => .ok (options.withFlag switch)
  | valued _ option value _ => options.withValue option value
  | word text _ => .ok { options with words := options.words ++ [text] }

/-- A group in front is read by itself. -/
theorem parseAfter_append (options : Options) (group : Group) (later : List String) :
    Options.parseAfter options (group.arguments ++ later) =
      group.addTo options >>= fun read => Options.parseAfter read later := by
  cases group with
  | flag spelling switch named =>
    have noOption : valueOptionNamed? spelling = none := by
      cases option : valueOptionNamed? spelling with
      | none => rfl
      | some _ =>
        rw [flagNamed?_of_valueOptionNamed? option] at named
        cases named
    exact (Options.parseAfter.eq_4 options spelling later noOption).trans (by rw [named]; rfl)
  | valued spelling option value named =>
    have noFlag := flagNamed?_of_valueOptionNamed? named
    exact (Options.parseAfter.eq_3 options spelling option value later named).trans
      (by rw [noFlag]; rfl)
  | word text plain =>
    have noFlag := flagNamed?_of_plain plain
    have noOption := valueOptionNamed?_of_plain plain
    exact (Options.parseAfter.eq_4 options text later noOption).trans
      (by rw [noFlag, plain]; rfl)

/-- Groups are read one behind the other. -/
theorem parseAfter_argumentsOf (options : Options) (groups : List Group) :
    Options.parseAfter options (argumentsOf groups) =
      groups.foldlM (fun read group => group.addTo read) options := by
  induction groups generalizing options with
  | nil => rfl
  | cons group groups ih =>
    rw [argumentsOf, List.flatMap_cons, parseAfter_append, List.foldlM_cons]
    exact congrArg _ (funext ih)

/-! ## What one more group says -/

/-- The options in which an option has a value, as far as that can be read. -/
def Options.holding (options : Options) (option : ValueOption) (value : String) : Options :=
  match option with
  | .output => { options with output := some value }
  | .store => { options with store := some value }
  | .raytracer => { options with raytracer := some value }
  | .format => { options with format := (OutputFormat.parse value).toOption }
  | .size => { options with size := (ImageSize.parse value).toOption }
  | .storeFormat => { options with storeFormat := (StoreFormat.parse value).toOption }
  | .seed => { options with seed := Text.readNatural? (Nat.pow 2 64) value.toList }
  | .timeout => { options with timeout := Text.readNatural? (Nat.pow 2 64) value.toList }

/-- A number is read when its text can be. -/
theorem readNumber_eq_ok_iff {option value : String} {number : Nat} :
    readNumber option value = .ok number ↔
      Text.readNatural? (Nat.pow 2 64) value.toList = some number := by
  unfold readNumber
  cases Text.readNatural? (Nat.pow 2 64) value.toList with
  | none => simp
  | some read => simp

/-- A value is taken exactly when it can be read. -/
theorem withValue_eq_ok_iff {options read : Options} {option : ValueOption} {value : String} :
    options.withValue option value = .ok read ↔
      option.Reads value ∧ read = options.holding option value := by
  cases option with
  | output | store | raytracer =>
    simp [Options.withValue, ValueOption.Reads, Options.holding, eq_comm]
  | format =>
    cases parsed : OutputFormat.parse value <;>
      simp [Options.withValue, ValueOption.Reads, Options.holding, parsed, Except.toOption, eq_comm]
  | size =>
    cases parsed : ImageSize.parse value <;>
      simp [Options.withValue, ValueOption.Reads, Options.holding, parsed, Except.toOption, eq_comm]
  | storeFormat =>
    cases parsed : StoreFormat.parse value <;>
      simp [Options.withValue, ValueOption.Reads, Options.holding, parsed, Except.toOption, eq_comm]
  | seed | timeout =>
    simp only [Options.withValue, bind_eq_ok, readNumber_eq_ok_iff, ValueOption.Reads,
      Options.holding, Except.ok.injEq]
    constructor
    · rintro ⟨number, same, rfl⟩
      exact ⟨⟨number, same⟩, by rw [same]⟩
    · rintro ⟨⟨number, same⟩, rfl⟩
      exact ⟨number, same, by rw [same]⟩

/-- A word comes behind those before it. -/
theorem wordsOf_concat (groups : List Group) (group : Group) :
    wordsOf (groups ++ [group]) = wordsOf groups ++ group.word?.toList := by
  rw [wordsOf, wordsOf, List.filterMap_append]
  cases word : group.word? <;> simp [word]

/-- A flag is set by one of the groups before or by the last one. -/
theorem hasFlag_concat (flag : Flag) (groups : List Group) (group : Group) :
    hasFlag flag (groups ++ [group]) = (hasFlag flag groups || group.role = .flag flag) := by
  simp [hasFlag]

/-- A last value counts before those of earlier groups. -/
theorem lastValue?_concat (option : ValueOption) (groups : List Group) (group : Group) :
    lastValue? option (groups ++ [group]) =
      (group.valueFor? option).or (lastValue? option groups) := by
  rw [lastValue?, lastValue?, List.filterMap_append]
  cases value : group.valueFor? option <;> simp [value]

/-- A group behind others is read when it can be, and then all of them say what is said. -/
theorem addTo_ofGroups {front : List Group} {group : Group} {options : Options} :
    group.addTo (Options.ofGroups front) = .ok options ↔
      group.Readable ∧ options = Options.ofGroups (front ++ [group]) := by
  cases group with
  | flag spelling switch named =>
    have whole : (Options.ofGroups front).withFlag switch =
        Options.ofGroups (front ++ [.flag spelling switch named]) := by
      cases switch <;>
        simp [Options.withFlag, Options.ofGroups, wordsOf_concat, hasFlag_concat,
          lastValue?_concat, Group.word?, Group.role, Group.valueFor?]
    rw [← whole, Group.addTo, Group.Readable, true_and, Except.ok.injEq, eq_comm]
  | valued spelling option value named =>
    have whole : (Options.ofGroups front).holding option value =
        Options.ofGroups (front ++ [.valued spelling option value named]) := by
      cases option <;>
        simp [Options.holding, Options.ofGroups, wordsOf_concat, hasFlag_concat,
          lastValue?_concat, Group.word?, Group.role, Group.valueFor?]
    rw [← whole, Group.addTo, Group.Readable, withValue_eq_ok_iff]
  | word text plain =>
    have whole : { Options.ofGroups front with words := (Options.ofGroups front).words ++ [text] } =
        Options.ofGroups (front ++ [.word text plain]) := by
      simp [Options.ofGroups, wordsOf_concat, hasFlag_concat, lastValue?_concat, Group.word?,
        Group.role, Group.valueFor?]
    rw [← whole, Group.addTo, Group.Readable, true_and, Except.ok.injEq, eq_comm]

/-- Groups are read exactly when each of them can be, and what they say is read off them. -/
theorem parse_argumentsOf_eq_ok_iff {groups : List Group} {options : Options} :
    Options.parse (argumentsOf groups) = .ok options ↔
      (∀ group ∈ groups, group.Readable) ∧ options = Options.ofGroups groups := by
  rw [Options.parse, parseAfter_argumentsOf]
  induction groups using List.reverseRecOn generalizing options with
  | nil =>
    have nothing : Options.ofGroups [] = {} := rfl
    rw [List.foldlM_nil, nothing]
    simp [pure, Except.pure, eq_comm]
  | append_singleton front group ih =>
    rw [List.foldlM_append, bind_eq_ok, List.forall_mem_append, List.forall_mem_singleton]
    constructor
    · rintro ⟨before, read, last⟩
      obtain ⟨readable, rfl⟩ := ih.mp read
      rw [List.foldlM_cons, bind_eq_ok] at last
      obtain ⟨after, added, same⟩ := last
      obtain ⟨here, rfl⟩ := addTo_ofGroups.mp added
      cases same
      exact ⟨⟨readable, here⟩, rfl⟩
    · rintro ⟨⟨readable, here⟩, rfl⟩
      refine ⟨Options.ofGroups front, ih.mpr ⟨readable, rfl⟩, ?_⟩
      rw [List.foldlM_cons, bind_eq_ok]
      exact ⟨_, addTo_ofGroups.mpr ⟨here, rfl⟩, rfl⟩

/-! ## Arguments fall into groups -/

/-- Arguments that are read fall into groups. -/
theorem exists_groups_of_parseAfter {start options : Options} {arguments : List String}
    (read : Options.parseAfter start arguments = .ok options) :
    ∃ groups, argumentsOf groups = arguments := by
  induction start, arguments using Options.parseAfter.induct with
  | case1 => exact ⟨[], rfl⟩
  | case2 start spelling later switch named ih =>
    have step := parseAfter_append start (.flag spelling switch named) later
    obtain ⟨middle, added, rest⟩ := bind_eq_ok.mp (step.symm.trans read)
    cases added
    obtain ⟨groups, rfl⟩ := ih rest
    exact ⟨.flag spelling switch named :: groups, rfl⟩
  | case3 start argument noFlag option named =>
    rw [Options.parseAfter.eq_2 start argument option named, noFlag] at read
    cases read
  | case4 start spelling noFlag option value later named ih =>
    have step := parseAfter_append start (.valued spelling option value named) later
    obtain ⟨middle, -, rest⟩ := bind_eq_ok.mp (step.symm.trans read)
    obtain ⟨groups, rfl⟩ := ih middle rest
    exact ⟨.valued spelling option value named :: groups, rfl⟩
  | case5 start argument noFlag later noOption optionLike =>
    rw [Options.parseAfter.eq_4 start argument later noOption, noFlag] at read
    simp only [if_pos optionLike] at read
    cases read
  | case6 start text noFlag later noOption wordLike ih =>
    have plain := Bool.eq_false_iff.mpr wordLike
    have step := parseAfter_append start (.word text plain) later
    obtain ⟨middle, added, rest⟩ := bind_eq_ok.mp (step.symm.trans read)
    cases added
    obtain ⟨groups, rfl⟩ := ih rest
    exact ⟨.word text plain :: groups, rfl⟩

/-- The first arguments show the group. -/
theorem Group.arguments_append_inj {group other : Group} {later rest : List String}
    (same : group.arguments ++ later = other.arguments ++ rest) :
    group = other ∧ later = rest := by
  cases group with
  | flag spelling switch named =>
    cases other with
    | flag spelling' switch' named' =>
      obtain ⟨rfl, rfl⟩ := List.cons.inj same
      obtain rfl := Option.some.inj (named.symm.trans named')
      exact ⟨rfl, rfl⟩
    | valued spelling' option value named' =>
      obtain ⟨rfl, -⟩ := List.cons.inj same
      cases named.symm.trans (flagNamed?_of_valueOptionNamed? named')
    | word text plain =>
      obtain ⟨rfl, -⟩ := List.cons.inj same
      cases named.symm.trans (flagNamed?_of_plain plain)
  | valued spelling option value named =>
    cases other with
    | flag spelling' switch named' =>
      obtain ⟨rfl, -⟩ := List.cons.inj same
      cases named'.symm.trans (flagNamed?_of_valueOptionNamed? named)
    | valued spelling' option' value' named' =>
      obtain ⟨rfl, others⟩ := List.cons.inj same
      obtain ⟨rfl, rfl⟩ := List.cons.inj others
      obtain rfl := Option.some.inj (named.symm.trans named')
      exact ⟨rfl, rfl⟩
    | word text plain =>
      obtain ⟨rfl, -⟩ := List.cons.inj same
      cases named.symm.trans (valueOptionNamed?_of_plain plain)
  | word text plain =>
    cases other with
    | flag spelling switch named =>
      obtain ⟨rfl, -⟩ := List.cons.inj same
      cases named.symm.trans (flagNamed?_of_plain plain)
    | valued spelling option value named =>
      obtain ⟨rfl, -⟩ := List.cons.inj same
      cases named.symm.trans (valueOptionNamed?_of_plain plain)
    | word text' plain' =>
      obtain ⟨rfl, rfl⟩ := List.cons.inj same
      exact ⟨rfl, rfl⟩

/-- Every group has arguments. -/
theorem Group.arguments_ne_nil (group : Group) : group.arguments ≠ [] := by
  cases group <;> exact List.cons_ne_nil _ _

/-- Arguments fall into groups in one way only. -/
theorem argumentsOf_injective {groups others : List Group}
    (same : argumentsOf groups = argumentsOf others) : groups = others := by
  induction groups generalizing others with
  | nil =>
    cases others with
    | nil => rfl
    | cons other others =>
      exact absurd (List.append_eq_nil_iff.mp same.symm).1 other.arguments_ne_nil
  | cons group groups ih =>
    cases others with
    | nil => exact absurd (List.append_eq_nil_iff.mp same).1 group.arguments_ne_nil
    | cons other others =>
      obtain ⟨rfl, later⟩ := Group.arguments_append_inj same
      rw [ih later]

/-! ## Groups in another order -/

/-- Only words have the text of a word. -/
theorem Group.word?_of_role {group : Group} (other : group.role ≠ .word) : group.word? = none := by
  cases group with
  | flag | valued => rfl
  | word => exact absurd rfl other

/-- Only groups with the role of an option give it a value. -/
theorem Group.valueFor?_of_role {group : Group} {option : ValueOption}
    (other : group.role ≠ .valued option) : group.valueFor? option = none := by
  cases group with
  | flag | word => rfl
  | valued spelling own value named => exact if_neg fun same => other (by rw [role, same])

namespace Reordered

variable {groups others : List Group}

/-- What is read off the groups of one role is the same in another order. -/
theorem filterMap_eq (reordered : Reordered groups others) {α : Type} {role : Role}
    {read : Group → Option α} (only : ∀ group : Group, group.role ≠ role → read group = none) :
    others.filterMap read = groups.filterMap read := by
  have within (groups : List Group) :
      (groups.filter (·.role = role)).filterMap read = groups.filterMap read := by
    rw [List.filterMap_filter]
    refine List.filterMap_congr fun group _ => ?_
    by_cases here : group.role = role
    · simp [here]
    · simp [here, only group here]
  rw [← within others, ← within groups, reordered.order role]

/-- The same is said in another order. -/
theorem ofGroups_eq (reordered : Reordered groups others) :
    Options.ofGroups others = Options.ofGroups groups := by
  have words : wordsOf others = wordsOf groups :=
    reordered.filterMap_eq fun _ => Group.word?_of_role
  have flags (flag : Flag) : hasFlag flag others = hasFlag flag groups := reordered.perm.any_eq
  have values (option : ValueOption) : lastValue? option others = lastValue? option groups :=
    congrArg List.getLast? (reordered.filterMap_eq fun _ => Group.valueFor?_of_role)
  simp only [Options.ofGroups, words, flags, values]

end Reordered

/-! ## Values that do not count -/

/-- Values of the groups behind count before those of the groups in front. -/
theorem lastValue?_append (option : ValueOption) (front back : List Group) :
    lastValue? option (front ++ back) = (lastValue? option back).or (lastValue? option front) := by
  rw [lastValue?, List.filterMap_append, List.getLast?_append]
  rfl

/-- A group with the role of an option gives it a value. -/
theorem isSome_lastValue?_cons {group : Group} {option : ValueOption}
    (gives : group.role = .valued option) (back : List Group) :
    (lastValue? option (group :: back)).isSome = true := by
  cases group with
  | flag | word => cases gives
  | valued spelling own value named =>
    cases gives
    simp [lastValue?, Group.valueFor?]

/-- An earlier value of an option makes no difference. -/
theorem ofGroups_drop {front middle back : List Group} {earlier later : Group}
    {option : ValueOption} (first : earlier.role = .valued option)
    (second : later.role = .valued option) :
    Options.ofGroups (front ++ middle ++ later :: back) =
      Options.ofGroups (front ++ earlier :: middle ++ later :: back) := by
  have words : wordsOf (front ++ middle ++ later :: back) =
      wordsOf (front ++ earlier :: middle ++ later :: back) := by
    have none : earlier.word? = none := Group.word?_of_role (by rw [first]; nofun)
    simp [wordsOf, none]
  have flags (flag : Flag) : hasFlag flag (front ++ middle ++ later :: back) =
      hasFlag flag (front ++ earlier :: middle ++ later :: back) := by
    simp [hasFlag, first]
  have values (wanted : ValueOption) : lastValue? wanted (front ++ middle ++ later :: back) =
      lastValue? wanted (front ++ earlier :: middle ++ later :: back) := by
    by_cases same : option = wanted
    · obtain ⟨value, counts⟩ := Option.isSome_iff_exists.mp (isSome_lastValue?_cons second back)
      rw [← same, lastValue?_append option (front ++ middle),
        lastValue?_append option (front ++ earlier :: middle), counts]
      rfl
    · have none : earlier.valueFor? wanted = none :=
        Group.valueFor?_of_role (by rw [first]; exact fun other => same (Role.valued.inj other))
      simp [lastValue?, none]
  simp only [Options.ofGroups, words, flags, values]

/-! ## What arguments say -/

/-- Groups mean some options wherever they stand. -/
structure Means (groups : List Group) (options : Options) : Prop where
  /-- They are read as these options in any order that keeps the groups of each role in theirs. -/
  anyOrder : ∀ others, Reordered groups others → Options.parse (argumentsOf others) = .ok options
  /-- Every part of the options is read off the groups. -/
  parts : options = Options.ofGroups groups
  /-- The description is the words with single spaces between them, and there is none without
  words. -/
  description : options.description =
    if wordsOf groups = [] then none else some (Text.joinWith " " (wordsOf groups))
  /-- Of several values of an option the last one counts. -/
  lastCounts : ∀ front earlier middle later back option,
    groups = front ++ earlier :: middle ++ later :: back →
    earlier.role = .valued option → later.role = .valued option →
    Options.parse (argumentsOf (front ++ middle ++ later :: back)) = .ok options

/-- Arguments that are read fall into groups in one way, and these say what was read wherever they
stand. -/
theorem exists_means_of_parse {arguments : List String} {options : Options}
    (read : Options.parse arguments = .ok options) :
    ∃ groups, argumentsOf groups = arguments ∧
      (∀ others, argumentsOf others = arguments → others = groups) ∧ Means groups options := by
  obtain ⟨groups, rfl⟩ := exists_groups_of_parseAfter read
  obtain ⟨readable, rfl⟩ := parse_argumentsOf_eq_ok_iff.mp read
  refine ⟨groups, rfl, fun others => argumentsOf_injective, ?_, rfl, ?_, ?_⟩
  · intro others reordered
    apply parse_argumentsOf_eq_ok_iff.mpr
    refine ⟨fun group member => readable group (reordered.perm.mem_iff.mp member), ?_⟩
    exact reordered.ofGroups_eq.symm
  · simp [Options.description, Options.ofGroups]
  · rintro front earlier middle later back option rfl first second
    apply parse_argumentsOf_eq_ok_iff.mpr
    refine ⟨fun group member => readable group ?_, (ofGroups_drop first second).symm⟩
    simp only [List.append_assoc, List.cons_append, List.mem_append, List.mem_cons] at member ⊢
    exact member.imp_right fun behind => .inr behind

/-- An option takes what looks like a flag as its value, and its second value counts in both
orders. -/
theorem parse_scatteredCube :
    Options.parse ["a", "-o", "--help", "cube", "--output", "x.json", "-a"] =
        .ok { words := ["a", "cube"], animate := true, output := some "x.json" } ∧
      Options.parse ["-o", "--help", "-a", "--output", "x.json", "a", "cube"] =
        .ok { words := ["a", "cube"], animate := true, output := some "x.json" } := by
  have read : Options.parse ["a", "-o", "--help", "cube", "--output", "x.json", "-a"] =
      .ok { words := ["a", "cube"], animate := true, output := some "x.json" } := by
    decide +kernel
  obtain ⟨groups, -, unique, means⟩ := exists_means_of_parse read
  let first : Group := .valued "-o" .output "--help" rfl
  let second : Group := .valued "--output" .output "x.json" rfl
  let animate : Group := .flag "-a" .animate rfl
  let article : Group := .word "a" rfl
  let noun : Group := .word "cube" rfl
  obtain rfl := unique [article, first, noun, second, animate] rfl
  have reordered : Reordered [article, first, noun, second, animate]
      [first, animate, second, article, noun] := by
    refine ⟨by decide, fun role => ?_⟩
    rcases role with flag | option | _
    · cases flag <;> rfl
    · cases option <;> rfl
    · rfl
  exact ⟨read, means.anyOrder _ reordered⟩

end ShapeScene.CommandLine
