import Mathlib.Data.List.Forall2
import ScenePlayer.Cli.Arguments
import ScenePlayer.Proofs.Text.Pieces

/-!
Arguments by groups: a flag with its value, or a single argument that names a script. What can be
read is a list of groups (`Arguments.exists_groups`), so it ends where a group ends, and all that a
group depends on is its own text (`Group.take_eq`). Hence arguments are read part by part
(`Arguments.parse_append`), and what they amount to is told for each kind of group by the texts of
that kind, in order (`Arguments.Gives`): the last one, or each of them once.
-/

namespace ScenePlayer

attribute [ext] Arguments

/-- A text of the form `id=path`. Only the path may hold more equals signs. -/
structure IsPair (text : String) (file : NamedFile) : Prop where
  first : '=' ∉ file.id.toList
  whole : text.toList = file.id.toList ++ '=' :: file.path.toList

/-- An argument that names a script, which is the root script if it has no identifier. -/
def IsScript (text : String) (file : NamedFile) : Prop :=
  Arguments.isFlag text = false ∧
    (IsPair text file ∨ '=' ∉ text.toList ∧ file = ⟨rootId, text⟩)

/-- Arguments that are taken in together. -/
inductive Group where
  | valued (flag : Flag) (value : String)
  | script (argument : String) (unknown : Flag.ofText argument = none)
  deriving DecidableEq

namespace Group

def words : Group → List String
  | .valued flag value => [flag.text, value]
  | .script argument _ => [argument]

/-- The flag of a group; scripts have none. -/
def kind : Group → Option Flag
  | .valued flag _ => some flag
  | .script _ _ => none

/-- What is read in a group. -/
def text : Group → String
  | .valued _ value => value
  | .script argument _ => argument

/-- Take in a group after others. -/
def take (first : Arguments) : Group → Except ArgumentError Arguments
  | .valued flag value => first.setFlag flag value
  | .script argument _ => first.addScript argument

/-- What a group gives on its own. -/
inductive Adds : Group → Arguments → Prop where
  | out (value : String) : Adds (.valued .out value) { out := some value }
  | config (value : String) : Adds (.valued .config value) { config := some value }
  | size {value : String} {size : Nat × Nat} (read : viewportLiteral value = some size) :
      Adds (.valued .size value) { size := some size }
  | clear {value : String} {colour : Colour} (read : colourLiteral value = some colour) :
      Adds (.valued .clear value) { clear := some colour }
  | image {value : String} {file : NamedFile} (pair : IsPair value file) :
      Adds (.valued .image value) { images := [file] }
  | font {value : String} {file : NamedFile} (pair : IsPair value file) :
      Adds (.valued .font value) { fonts := [file] }
  | script {argument : String} {unknown : Flag.ofText argument = none} {file : NamedFile}
      (names : IsScript argument file) : Adds (.script argument unknown) { scripts := [file] }

end Group

namespace Arguments

/-- Arguments with later ones behind them: single values are replaced, files are added. -/
def followedBy (first later : Arguments) : Arguments where
  out := later.out.or first.out
  size := later.size.or first.size
  clear := later.clear.or first.clear
  config := later.config.or first.config
  images := first.images ++ later.images
  fonts := first.fonts ++ later.fonts
  scripts := first.scripts ++ later.scripts

/-- The texts of the groups of a kind, in order. -/
def texts (kind : Option Flag) (groups : List Group) : List String :=
  (groups.filter fun group => group.kind = kind).map Group.text

/-- What texts of a kind amount to. Of a flag that takes one value the last one counts, but all can
be read. -/
def Given (texts : List String) (arguments : Arguments) : Option Flag → Prop
  | some .out => arguments.out = texts.getLast?
  | some .config => arguments.config = texts.getLast?
  | some .size => ∃ sizes, arguments.size = sizes.getLast? ∧
      List.Forall₂ (fun text size => viewportLiteral text = some size) texts sizes
  | some .clear => ∃ colours, arguments.clear = colours.getLast? ∧
      List.Forall₂ (fun text colour => colourLiteral text = some colour) texts colours
  | some .image => List.Forall₂ IsPair texts arguments.images
  | some .font => List.Forall₂ IsPair texts arguments.fonts
  | none => List.Forall₂ IsScript texts arguments.scripts

/-- Groups amount to arguments, whatever stands between groups of one kind. -/
def Gives (groups : List Group) (arguments : Arguments) : Prop :=
  ∀ kind, Given (texts kind groups) arguments kind

/-! ### Pairs and scripts -/

theorem pair_eq_ok_iff {text : String} {file : NamedFile} :
    pair text = .ok file ↔ IsPair text file := by
  obtain ⟨id, path⟩ := file
  have split : splitFirst (· == '=') text.toList = some (id.toList, path.toList) ↔
      IsPair text ⟨id, path⟩ := by
    rw [splitFirst_eq_some_iff]
    constructor
    · rintro ⟨separator, found, none, whole⟩
      obtain rfl : separator = '=' := by simpa using found
      exact ⟨fun member => absurd (none _ member) (by decide), whole⟩
    · rintro ⟨none, whole⟩
      refine ⟨'=', rfl, fun c member => ?_, whole⟩
      exact beq_eq_false_iff_ne.2 fun same => none (same ▸ member)
  rw [← split, pair]
  split
  · rename_i before after found
    simp only [found, Except.ok.injEq, NamedFile.mk.injEq, Option.some.injEq, Prod.mk.injEq,
      ← String.toList_inj, String.toList_ofList]
  · rename_i none
    simp [none]

/-- A text is a pair or has no equals sign. -/
theorem pair_cases (text : String) :
    (∃ file, pair text = .ok file ∧ '=' ∈ text.toList) ∨
      pair text = .error (.notPair text) ∧ '=' ∉ text.toList := by
  unfold pair
  split
  · rename_i before after found
    obtain ⟨separator, same, -, whole⟩ := splitFirst_eq_some_iff.1 found
    obtain rfl : separator = '=' := by simpa using same
    refine .inl ⟨_, rfl, ?_⟩
    rw [whole]
    exact List.mem_append_right _ List.mem_cons_self
  · rename_i none
    exact .inr ⟨rfl, fun member => absurd (splitFirst_eq_none_iff.1 none _ member) (by decide)⟩

theorem addScript_eq_ok_iff {argument : String} {first last : Arguments} :
    first.addScript argument = .ok last ↔
      ∃ file, IsScript argument file ∧
        last = { first with scripts := first.scripts ++ [file] } := by
  unfold addScript
  split
  · rename_i looksLikeFlag
    simp [IsScript, looksLikeFlag]
  · rename_i plain
    have plain : isFlag argument = false := Bool.eq_false_iff.2 plain
    simp only [IsScript, plain, true_and, ← pair_eq_ok_iff, Except.ok.injEq]
    rcases pair_cases argument with ⟨file, read, equals⟩ | ⟨failed, none⟩
    · simp only [read, equals, not_true_eq_false, false_and, or_false, Except.ok.injEq,
        exists_eq_left', eq_comm]
    · simp only [failed, none, not_false_eq_true, true_and, reduceCtorEq, false_or,
        exists_eq_left, eq_comm]

/-! ### Groups -/

variable {group : Group} {groups : List Group} {first own later last : Arguments}
  {words rest : List String}

theorem followedBy_empty (first : Arguments) : first.followedBy {} = first := by
  simp [followedBy]

theorem followedBy_assoc (first own later : Arguments) :
    (first.followedBy own).followedBy later = first.followedBy (own.followedBy later) := by
  simp [followedBy, Option.or_assoc]

theorem adds_of_take (taken : group.take {} = .ok own) : group.Adds own := by
  cases group with
  | valued flag value =>
      cases flag with
      | out =>
          cases taken
          exact .out value
      | config =>
          cases taken
          exact .config value
      | size =>
          simp only [Group.take, setFlag] at taken
          split at taken
          · rename_i size read
            cases taken
            exact .size read
          · cases taken
      | clear =>
          simp only [Group.take, setFlag] at taken
          split at taken
          · rename_i colour read
            cases taken
            exact .clear read
          · cases taken
      | image =>
          simp only [Group.take, setFlag] at taken
          cases read : pair value with
          | error error =>
              rw [read] at taken
              cases taken
          | ok file =>
              rw [read] at taken
              cases taken
              exact .image (pair_eq_ok_iff.1 read)
      | font =>
          simp only [Group.take, setFlag] at taken
          cases read : pair value with
          | error error =>
              rw [read] at taken
              cases taken
          | ok file =>
              rw [read] at taken
              cases taken
              exact .font (pair_eq_ok_iff.1 read)
  | script argument unknown =>
      obtain ⟨file, names, rfl⟩ := addScript_eq_ok_iff.1 taken
      exact .script names

/-- What a group gives does not depend on the groups before it. -/
theorem take_eq (first : Arguments) (group : Group) :
    group.take first = (group.take {}).map first.followedBy := by
  cases group with
  | valued flag value =>
      cases flag with
      | out => simp [Group.take, setFlag, followedBy, Except.map]
      | config => simp [Group.take, setFlag, followedBy, Except.map]
      | size =>
          simp only [Group.take, setFlag]
          cases viewportLiteral value with
          | none => rfl
          | some size => simp [followedBy, Except.map]
      | clear =>
          simp only [Group.take, setFlag]
          cases colourLiteral value with
          | none => rfl
          | some clear => simp [followedBy, Except.map]
      | image =>
          simp only [Group.take, setFlag]
          cases pair value with
          | error error => rfl
          | ok file => simp [followedBy, Except.map, bind, Except.bind, pure, Except.pure]
      | font =>
          simp only [Group.take, setFlag]
          cases pair value with
          | error error => rfl
          | ok file => simp [followedBy, Except.map, bind, Except.bind, pure, Except.pure]
  | script argument unknown =>
      simp only [Group.take, addScript]
      split
      · rfl
      · simp [followedBy, Except.map]

/-! ### Lists of groups -/

theorem ofText_text (flag : Flag) : Flag.ofText flag.text = some flag := by
  cases flag <;> rfl

theorem text_of_ofText {argument : String} {flag : Flag}
    (known : Flag.ofText argument = some flag) : flag.text = argument := by
  simpa using List.find?_some known

/-- A group is taken in as a whole, whatever follows it. -/
theorem parseFrom_group (first : Arguments) (group : Group) (rest : List String) :
    parseFrom first (group.words ++ rest) =
      (group.take first).bind fun arguments => parseFrom arguments rest := by
  cases group with
  | valued flag value =>
      simp only [Group.words, List.cons_append, List.nil_append, parseFrom, ofText_text]
      cases taken : first.setFlag flag value with
      | ok arguments => simp [Group.take, taken, Except.bind]
      | error error => simp [Group.take, taken, Except.bind]
  | script argument unknown =>
      simp only [Group.words, List.cons_append, List.nil_append, parseFrom, unknown]
      cases taken : first.addScript argument with
      | ok arguments => simp [Group.take, taken, Except.bind]
      | error error => simp [Group.take, taken, Except.bind]

theorem parseFrom_lone (first : Arguments) (flag : Flag) :
    parseFrom first [flag.text] = .error (.missingValue flag) := by
  rw [parseFrom, ofText_text]

/-- Every list of arguments is a list of groups, but a flag may be left over at its end. -/
theorem words_induction {motive : List String → Prop} (empty : motive [])
    (lone : ∀ flag : Flag, motive [flag.text])
    (group : ∀ (group : Group) (rest : List String), motive rest → motive (group.words ++ rest)) :
    ∀ words, motive words
  | [] => empty
  | argument :: rest => by
      cases known : Flag.ofText argument with
      | none => exact group (.script argument known) rest (words_induction empty lone group rest)
      | some flag =>
          obtain rfl := text_of_ofText known
          cases rest with
          | nil => exact lone flag
          | cons value rest =>
              exact group (.valued flag value) rest (words_induction empty lone group rest)

/-- What is read ends where a group ends. -/
theorem exists_groups (read : parseFrom first words = .ok last) :
    ∃ groups : List Group, groups.flatMap Group.words = words := by
  induction words using words_induction generalizing first with
  | empty => exact ⟨[], rfl⟩
  | lone flag =>
      rw [parseFrom_lone] at read
      cases read
  | group group rest ih =>
      rw [parseFrom_group] at read
      cases taken : group.take first with
      | error error =>
          rw [taken] at read
          cases read
      | ok arguments =>
          rw [taken] at read
          obtain ⟨groups, rfl⟩ := ih read
          exact ⟨group :: groups, rfl⟩

/-- What is read does not depend on what was read before. -/
theorem parseFrom_eq (first : Arguments) (words : List String) :
    parseFrom first words = (parse words).map first.followedBy := by
  induction words using words_induction generalizing first with
  | empty => rw [parse, parseFrom, parseFrom, Except.map, followedBy_empty]
  | lone flag => rw [parse, parseFrom_lone, parseFrom_lone, Except.map]
  | group group rest ih =>
      rw [parse, parseFrom_group, parseFrom_group, take_eq first group]
      cases group.take {} with
      | error error => rfl
      | ok own =>
          simp only [Except.map, Except.bind]
          rw [ih (first.followedBy own), ih own]
          cases parse rest with
          | error error => rfl
          | ok later => simp only [Except.map, followedBy_assoc]

theorem parse_group (group : Group) (rest : List String) :
    parse (group.words ++ rest) =
      (group.take {}).bind fun own => (parse rest).map own.followedBy := by
  rw [parse, parseFrom_group]
  exact congrArg (Except.bind (group.take {})) (funext fun own => parseFrom_eq own rest)

/-- After arguments that can be read, reading goes on from what they have given. -/
theorem parseFrom_append (read : parseFrom first words = .ok last) (rest : List String) :
    parseFrom first (words ++ rest) = parseFrom last rest := by
  induction words using words_induction generalizing first with
  | empty =>
      cases read
      rfl
  | lone flag =>
      rw [parseFrom_lone] at read
      cases read
  | group group words ih =>
      rw [parseFrom_group] at read
      rw [List.append_assoc, parseFrom_group]
      cases taken : group.take first with
      | error error =>
          rw [taken] at read
          cases read
      | ok arguments =>
          rw [taken] at read
          exact ih read

/-! ### What groups amount to -/

theorem texts_cons_self (group : Group) (groups : List Group) :
    texts group.kind (group :: groups) = group.text :: texts group.kind groups := by
  simp [texts]

theorem texts_cons_of_ne {kind : Option Flag} (other : group.kind ≠ kind) (groups : List Group) :
    texts kind (group :: groups) = texts kind groups := by
  simp [texts, other]

theorem given_nil (kind : Option Flag) : Given [] {} kind := by
  cases kind with
  | none => exact .nil
  | some flag => cases flag <;> simp [Given]

/-- A group in front adds its text to those of its kind. -/
theorem given_of_adds {texts : List String} (adds : group.Adds own)
    (given : Given texts later group.kind) :
    Given (group.text :: texts) (own.followedBy later) group.kind := by
  cases adds with
  | out value =>
      simp only [Given, Group.kind] at given
      simp [Given, Group.kind, Group.text, followedBy, given, List.getLast?_cons]
  | config value =>
      simp only [Given, Group.kind] at given
      simp [Given, Group.kind, Group.text, followedBy, given, List.getLast?_cons]
  | @size value size read =>
      obtain ⟨sizes, last, all⟩ := given
      refine ⟨size :: sizes, ?_, .cons read all⟩
      simp [followedBy, last, List.getLast?_cons]
  | @clear value colour read =>
      obtain ⟨colours, last, all⟩ := given
      refine ⟨colour :: colours, ?_, .cons read all⟩
      simp [followedBy, last, List.getLast?_cons]
  | image pair => exact .cons pair given
  | font pair => exact .cons pair given
  | script names => exact .cons names given

/-- It makes no difference to other kinds. -/
theorem given_of_adds_of_ne {texts : List String} {kind : Option Flag} (adds : group.Adds own)
    (other : group.kind ≠ kind) (given : Given texts later kind) :
    Given texts (own.followedBy later) kind := by
  -- A group sets the field of its kind, and what another kind amounts to is said of other fields.
  cases adds <;> rcases kind with _ | flag <;> try cases flag
  all_goals first | exact absurd rfl other | simpa [Given, followedBy] using given

/-- A list of groups can be read if and only if each of them can, and it gives what they give. -/
theorem parse_cons_eq_ok_iff :
    parse ((group :: groups).flatMap Group.words) = .ok last ↔
      ∃ own later, group.take {} = .ok own ∧ parse (groups.flatMap Group.words) = .ok later ∧
        own.followedBy later = last := by
  rw [List.flatMap_cons, parse_group]
  cases group.take {} with
  | error error => simp [Except.bind]
  | ok own =>
      cases parse (groups.flatMap Group.words) with
      | error error => simp [Except.bind, Except.map]
      | ok later => simp [Except.bind, Except.map]

theorem gives_of_parse (read : parse (groups.flatMap Group.words) = .ok last) :
    Gives groups last := by
  induction groups generalizing last with
  | nil =>
      cases read
      exact given_nil
  | cons group groups ih =>
      obtain ⟨own, later, taken, behind, rfl⟩ := parse_cons_eq_ok_iff.1 read
      have adds := adds_of_take taken
      intro kind
      by_cases same : group.kind = kind
      · subst same
        rw [texts_cons_self]
        exact given_of_adds adds (ih behind group.kind)
      · rw [texts_cons_of_ne same]
        exact given_of_adds_of_ne adds same (ih behind kind)

theorem exists_parse_iff :
    (∃ last, parse (groups.flatMap Group.words) = .ok last) ↔
      ∀ group ∈ groups, ∃ own, group.take {} = .ok own := by
  induction groups with
  | nil => exact iff_of_true ⟨{}, rfl⟩ nofun
  | cons group groups ih =>
      simp only [parse_cons_eq_ok_iff, List.forall_mem_cons, ← ih]
      constructor
      · rintro ⟨_, own, later, taken, behind, -⟩
        exact ⟨⟨own, taken⟩, later, behind⟩
      · rintro ⟨⟨own, taken⟩, later, behind⟩
        exact ⟨_, own, later, taken, behind, rfl⟩

/-! ### Reordering -/

theorem rightUnique_isPair : Relator.RightUnique IsPair := by
  intro text file other left right
  simpa [pair_eq_ok_iff.2 left] using pair_eq_ok_iff.2 right

theorem rightUnique_isScript : Relator.RightUnique IsScript := by
  intro text file other left right
  have added : ∀ {file}, IsScript text file →
      ({} : Arguments).addScript text = .ok { scripts := [file] } := fun names =>
    addScript_eq_ok_iff.2 ⟨_, names, rfl⟩
  simpa [added left] using added right

/-- The texts of all kinds tell everything. -/
theorem eq_of_given {other : Arguments}
    (gives : ∀ kind, ∃ texts, Given texts last kind ∧ Given texts other kind) : last = other := by
  have read : ∀ {α : Type} {read : String → Option α},
      Relator.RightUnique (fun text value => read text = some value) := fun left right =>
    Option.some.inj (left.symm.trans right)
  refine Arguments.ext ?_ ?_ ?_ ?_ ?_ ?_ ?_
  · obtain ⟨texts, left, right⟩ := gives (some .out)
    exact left.trans right.symm
  · obtain ⟨texts, ⟨sizes, left, all⟩, ⟨others, right, same⟩⟩ := gives (some .size)
    rw [left, right, read.forall₂ all same]
  · obtain ⟨texts, ⟨colours, left, all⟩, ⟨others, right, same⟩⟩ := gives (some .clear)
    rw [left, right, read.forall₂ all same]
  · obtain ⟨texts, left, right⟩ := gives (some .config)
    exact left.trans right.symm
  · obtain ⟨texts, left, right⟩ := gives (some .image)
    exact rightUnique_isPair.forall₂ left right
  · obtain ⟨texts, left, right⟩ := gives (some .font)
    exact rightUnique_isPair.forall₂ left right
  · obtain ⟨texts, left, right⟩ := gives none
    exact rightUnique_isScript.forall₂ left right

/-- Groups of one kind have to stay in order; those of different kinds can change places. -/
theorem parse_of_reordered {others : List Group}
    (read : parse (groups.flatMap Group.words) = .ok last)
    (same : ∀ kind, (others.filter fun group => group.kind = kind) =
      groups.filter fun group => group.kind = kind) :
    parse (others.flatMap Group.words) = .ok last := by
  have each := exists_parse_iff.1 ⟨last, read⟩
  obtain ⟨other, readOther⟩ : ∃ other, parse (others.flatMap Group.words) = .ok other := by
    refine exists_parse_iff.2 fun group member => each group ?_
    have inKind : group ∈ others.filter fun other => other.kind = group.kind := by
      simpa using member
    rw [same] at inKind
    exact List.mem_of_mem_filter inKind
  have equal : last = other := by
    refine eq_of_given fun kind => ⟨texts kind groups, gives_of_parse read kind, ?_⟩
    have there := gives_of_parse readOther kind
    rwa [texts, same] at there
  rw [readOther, equal]

/-- **Arguments are read part by part.** If the first part can be read, the whole gives the error of
the second part, or what the first part gives followed by what the second one gives. The first part
is a list of groups. Of each flag that takes one value it gives the last one, and it gives a file
for each pair and each script, once and in order. Groups of different kinds can change places. -/
theorem parse_by_parts (read : parse words = .ok first) :
    (∀ later, parse (words ++ later) = (parse later).map first.followedBy) ∧
      ∃ groups : List Group, groups.flatMap Group.words = words ∧ Gives groups first ∧
        ∀ others : List Group,
          (∀ kind, (others.filter fun group => group.kind = kind) =
            groups.filter fun group => group.kind = kind) →
          parse (others.flatMap Group.words) = .ok first := by
  refine ⟨fun later => ?_, ?_⟩
  · calc parse (words ++ later)
      _ = parseFrom first later := parseFrom_append read later
      _ = (parse later).map first.followedBy := parseFrom_eq first later
  · obtain ⟨groups, rfl⟩ := exists_groups read
    exact ⟨groups, rfl, gives_of_parse read, fun others => parse_of_reordered read⟩

/-- Values that look like flags, a size that is given again, and a flag without a value. -/
theorem parse_by_parts_of_repeated_size :
    let words := ["--size", "1x1", "a=b=c", "--out", "--clear", "--image", "i=--out", "root.bin"]
    let first : Arguments :=
      { out := some "--clear", size := some (1, 1), images := [⟨"i", "--out"⟩],
        scripts := [⟨"a", "b=c"⟩, ⟨rootId, "root.bin"⟩] }
    parse words = .ok first ∧
      parse (words ++ ["x=y", "--size", "3X4"]) =
        .ok { first with size := some (3, 4), scripts := first.scripts ++ [⟨"x", "y"⟩] } ∧
      parse (words ++ ["x=y", "--font"]) = .error (.missingValue .font) := by
  intro words first
  have read : parse words = .ok first := by rfl
  have parts := (parse_by_parts read).1
  have size : parse ["x=y", "--size", "3X4"] =
      .ok { size := some (3, 4), scripts := [⟨"x", "y"⟩] } := by rfl
  have lone : parse ["x=y", "--font"] = .error (.missingValue .font) := by rfl
  refine ⟨read, ?_, ?_⟩
  · rw [parts, size]
    rfl
  · rw [parts, lone]
    rfl

end Arguments

end ScenePlayer
